import InvoiceGateway.Proofs.Json.Members
import Mathlib.Logic.Relation

/-! # Changes that do not matter -/

namespace InvoiceGateway.Json

variable {α : Type}

/-! ## Looking up a name in parts -/

theorem foldl_member (name : String) (found : Option α) (members : List (String × α)) :
    members.foldl (fun found (key, value) => if key = name then some value else found) found =
      (lastMember? name members).or found := by
  induction members generalizing found with
  | nil => rfl
  | cons m members ih =>
      obtain ⟨key, a⟩ := m
      rw [lastMember?, List.foldl_cons, List.foldl_cons, ih, ih]
      cases lastMember? name members with
      | some b => rfl
      | none => by_cases hkey : key = name <;> simp [hkey]

/-- The later part is looked at first. -/
theorem lastMember?_append (name : String) (xs ys : List (String × α)) :
    lastMember? name (xs ++ ys) = (lastMember? name ys).or (lastMember? name xs) := by
  rw [lastMember?, List.foldl_append]
  exact foldl_member name _ ys

theorem lastMember?_cons (name key : String) (a : α) (members : List (String × α)) :
    lastMember? name ((key, a) :: members) =
      (lastMember? name members).or (if key = name then some a else none) :=
  foldl_member name _ members

theorem lastMember?_cons_of_ne {name key : String} (hkey : key ≠ name) (a : α)
    (members : List (String × α)) :
    lastMember? name ((key, a) :: members) = lastMember? name members := by
  rw [lastMember?_cons, if_neg hkey, Option.or_none]

theorem lastMember?_eq_none_iff {name : String} {members : List (String × α)} :
    lastMember? name members = none ↔ ∀ m ∈ members, m.1 ≠ name := by
  induction members with
  | nil => simp [lastMember?]
  | cons m members ih =>
      obtain ⟨key, a⟩ := m
      rw [lastMember?_cons, Option.or_eq_none_iff, ih]
      by_cases hkey : key = name
      · simp [hkey]
      · simp [hkey]

/-- Where no name comes twice, the last member of a name is the only one. -/
theorem lastMember?_eq_some_iff_mem {name : String} {a : α} {members : List (String × α)}
    (hnames : (members.map Prod.fst).Nodup) :
    lastMember? name members = some a ↔ (name, a) ∈ members := by
  rw [lastMember?_eq_some_iff]
  constructor
  · rintro ⟨before, after, rfl, -⟩
    exact List.mem_append_right before List.mem_cons_self
  · intro hmem
    obtain ⟨before, after, rfl⟩ := List.append_of_mem hmem
    rw [List.map_append, List.map_cons] at hnames
    obtain ⟨hfresh, -⟩ := List.nodup_cons.mp (List.nodup_append.mp hnames).2.1
    refine ⟨before, after, rfl, fun m hm hname => hfresh ?_⟩
    have hkey : m.1 ∈ after.map Prod.fst := List.mem_map_of_mem hm
    rwa [hname] at hkey

/-! ## Revisions -/

/-- One change to the members of an object; only `names` count. -/
inductive Revision (names : List String) : List (String × α) → List (String × α) → Prop
  /-- A member of another name is put in. -/
  | inserted {before after : List (String × α)} {name : String} {a : α} :
      name ∉ names → Revision names (before ++ after) (before ++ (name, a) :: after)
  /-- A member gets another value, but a later one has the same name. -/
  | overwritten {before between after : List (String × α)} {name : String} {a b c : α} :
      Revision names (before ++ (name, a) :: between ++ (name, c) :: after)
        (before ++ (name, b) :: between ++ (name, c) :: after)
  /-- Two members of different names change places. -/
  | exchanged {before after : List (String × α)} {m m' : String × α} :
      m.1 ≠ m'.1 → Revision names (before ++ m :: m' :: after) (before ++ m' :: m :: after)
  /-- Members no two of which have the same name are put in another order. -/
  | reordered {members members' : List (String × α)} :
      (members.map Prod.fst).Nodup → members.Perm members' → Revision names members members'

theorem lastMember?_perm {members members' : List (String × α)}
    (hnames : (members.map Prod.fst).Nodup) (hperm : members.Perm members') (name : String) :
    lastMember? name members = lastMember? name members' := by
  have hnames' : (members'.map Prod.fst).Nodup := (hperm.map Prod.fst).nodup hnames
  refine Option.ext fun a => ?_
  rw [lastMember?_eq_some_iff_mem hnames, lastMember?_eq_some_iff_mem hnames', hperm.mem_iff]

theorem Revision.lastMember?_eq {names : List String} {members members' : List (String × α)}
    (h : Revision names members members') {name : String} (hname : name ∈ names) :
    lastMember? name members = lastMember? name members' := by
  cases h with
  | @inserted before after key a hkey =>
      have hne : key ≠ name := fun heq => hkey (heq ▸ hname)
      rw [lastMember?_append, lastMember?_append, lastMember?_cons_of_ne hne]
  | @overwritten before between after key a b c =>
      by_cases hkey : key = name
      · have hlater : lastMember? name ((key, c) :: after) =
            some ((lastMember? name after).getD c) := by
          rw [lastMember?_cons, if_pos hkey]
          cases lastMember? name after <;> rfl
        rw [lastMember?_append, hlater, Option.some_or, lastMember?_append, hlater, Option.some_or]
      · simp only [lastMember?_append, lastMember?_cons_of_ne hkey]
  | @exchanged before after m m' hne =>
      obtain ⟨key, a⟩ := m
      obtain ⟨key', b⟩ := m'
      rw [lastMember?_append, lastMember?_append]
      by_cases hkey : key = name
      · have hkey' : key' ≠ name := fun heq => hne (hkey.trans heq.symm)
        simp only [lastMember?_cons, if_neg hkey', Option.or_none]
      · simp only [lastMember?_cons, if_neg hkey, Option.or_none]
  | reordered hnames hperm => exact lastMember?_perm hnames hperm name

/-- Any number of changes, made or taken back, leave what a look-up finds. -/
theorem lastMember?_eq_of_revised {names : List String} {members members' : List (String × α)}
    (h : Relation.EqvGen (Revision names) members members') {name : String}
    (hname : name ∈ names) : lastMember? name members = lastMember? name members' := by
  induction h with
  | rel _ _ h => exact h.lastMember?_eq hname
  | refl _ => rfl
  | symm _ _ _ ih => exact ih.symm
  | trans _ _ _ _ _ ih₁ ih₂ => exact ih₁.trans ih₂

end InvoiceGateway.Json
