import InvoiceGateway.Proofs.Json.Documents
import Mathlib.Data.List.Forall2

/-! # Members and their spelling -/

namespace InvoiceGateway.Json

/-! ## Looking up a name -/

/-- The last member of this name holds `a`. -/
def LastNamed {α : Type} (name : String) (a : α) (members : List (String × α)) : Prop :=
  ∃ before after, members = before ++ (name, a) :: after ∧ ∀ m ∈ after, m.1 ≠ name

theorem foldl_member_eq_some_iff {α : Type} {name : String} {a : α} (found : Option α)
    (members : List (String × α)) :
    members.foldl (fun found (key, value) => if key = name then some value else found) found =
        some a ↔
      LastNamed name a members ∨ (found = some a ∧ ∀ m ∈ members, m.1 ≠ name) := by
  induction members generalizing found with
  | nil =>
      constructor
      · intro h
        exact .inr ⟨h, by simp⟩
      · rintro (⟨before, after, h, -⟩ | ⟨h, -⟩)
        · simp at h
        · exact h
  | cons m members ih =>
      obtain ⟨key, b⟩ := m
      rw [List.foldl_cons, ih]
      constructor
      · rintro (⟨before, after, rfl, hafter⟩ | ⟨hfound, hnone⟩)
        · exact .inl ⟨(key, b) :: before, after, rfl, hafter⟩
        · by_cases hkey : key = name
          · simp only [hkey, if_true, Option.some.injEq] at hfound
            exact .inl ⟨[], members, by rw [hkey, hfound]; rfl, hnone⟩
          · simp only [hkey, if_false] at hfound
            refine .inr ⟨hfound, ?_⟩
            intro m hm
            rcases List.mem_cons.mp hm with rfl | hm
            · exact hkey
            · exact hnone m hm
      · rintro (⟨before, after, h, hafter⟩ | ⟨hfound, hnone⟩)
        · cases before with
          | nil =>
              injection h with h hmembers
              injection h with hkey hb
              subst hkey hb hmembers
              exact .inr ⟨by simp, hafter⟩
          | cons m before =>
              injection h with _ hmembers
              exact .inl ⟨before, after, hmembers, hafter⟩
        · have hkey : key ≠ name := hnone (key, b) (by simp)
          exact .inr ⟨by simpa [hkey] using hfound, fun m hm => hnone m (by simp [hm])⟩

theorem lastMember?_eq_some_iff {α : Type} {name : String} {a : α} {members : List (String × α)} :
    lastMember? name members = some a ↔ LastNamed name a members := by
  rw [lastMember?, foldl_member_eq_some_iff none members]
  simp

/-- Lists of members that agree in their names agree in what a look-up finds. -/
theorem lastMember?_rel {α β : Type} {R : α → β → Prop} (name : String)
    {as : List (String × α)} {bs : List (String × β)}
    (h : List.Forall₂ (fun a b => a.1 = b.1 ∧ R a.2 b.2) as bs) :
    Option.Rel R (lastMember? name as) (lastMember? name bs) := by
  have hfold : ∀ (a : Option α) (b : Option β), Option.Rel R a b →
      Option.Rel R
        (as.foldl (fun found (key, value) => if key = name then some value else found) a)
        (bs.foldl (fun found (key, value) => if key = name then some value else found) b) := by
    induction h with
    | nil =>
        intro a b hab
        exact hab
    | @cons x y xs ys hxy _ ih =>
        intro a b hab
        obtain ⟨hkey, hvalue⟩ := hxy
        rw [List.foldl_cons, List.foldl_cons]
        apply ih
        simp only [hkey]
        split
        · exact .some hvalue
        · exact hab
  exact hfold none none .none

/-! ## Members as they are spelled -/

/-- One or more members between commas, each with the bytes of its value. -/
inductive SpelledMembers (depth : Nat) : Bytes → List (String × Bytes) → Prop
  | last {front name middle after s back : Bytes} {key : String} {v : Value} :
      Blanks front → StringText name key → Blanks middle → Blanks after → ValueText depth s v →
      Blanks back →
      SpelledMembers depth (front ++ name ++ middle ++ colonSign :: after ++ s ++ back) [(key, s)]
  | cons {front name middle after s back rest : Bytes} {key : String} {v : Value}
      {members : List (String × Bytes)} :
      Blanks front → StringText name key → Blanks middle → Blanks after → ValueText depth s v →
      Blanks back → SpelledMembers depth rest members →
      SpelledMembers depth
        (front ++ name ++ middle ++ colonSign :: after ++ s ++ back ++ comma :: rest)
        ((key, s) :: members)

/-- A whole text that is an object with blanks around it, and its members as they are spelled;
`depth` bounds the brackets open at once, those of the object included. -/
inductive ObjectText : (depth : Nat) → Bytes → List (String × Bytes) → Prop
  | empty {depth : Nat} {front s back : Bytes} :
      Blanks front → Blanks s → Blanks back →
      ObjectText (depth + 1) (front ++ openBrace :: s ++ closeBrace :: back) []
  | members {depth : Nat} {front s back : Bytes} {members : List (String × Bytes)} :
      Blanks front → SpelledMembers depth s members → Blanks back →
      ObjectText (depth + 1) (front ++ openBrace :: s ++ closeBrace :: back) members

/-- The second member has the name of the first, whose bytes are a text of its value. -/
def Spells (depth : Nat) (spelled : String × Bytes) (member : String × Value) : Prop :=
  spelled.1 = member.1 ∧ ValueText depth spelled.2 member.2

theorem exists_spelledMembers {depth : Nat} {s : Bytes} {members : List (String × Value)}
    (h : MembersText depth s members) :
    ∃ spelled, SpelledMembers depth s spelled ∧ List.Forall₂ (Spells depth) spelled members := by
  induction members generalizing s with
  | nil => cases h
  | cons m members ih =>
      cases h with
      | @last _ front name middle after t back key v hfront hname hmiddle hafter ht hback =>
          exact ⟨[(key, t)], .last hfront hname hmiddle hafter ht hback, .cons ⟨rfl, ht⟩ .nil⟩
      | @cons _ front name middle after t back rest key v _ hfront hname hmiddle hafter ht hback
            hrest =>
          obtain ⟨spelled, hspelled, hall⟩ := ih hrest
          exact ⟨(key, t) :: spelled, .cons hfront hname hmiddle hafter ht hback hspelled,
            .cons ⟨rfl, ht⟩ hall⟩

theorem SpelledMembers.exists_membersText {depth : Nat} {s : Bytes}
    {spelled : List (String × Bytes)} (h : SpelledMembers depth s spelled) :
    ∃ members, MembersText depth s members ∧ List.Forall₂ (Spells depth) spelled members := by
  induction h with
  | @last front name middle after t back key v hfront hname hmiddle hafter ht hback =>
      exact ⟨[(key, v)], .last hfront hname hmiddle hafter ht hback, .cons ⟨rfl, ht⟩ .nil⟩
  | @cons front name middle after t back rest key v _ hfront hname hmiddle hafter ht hback _ ih =>
      obtain ⟨members, hmembers, hall⟩ := ih
      exact ⟨(key, v) :: members, .cons hfront hname hmiddle hafter ht hback hmembers,
        .cons ⟨rfl, ht⟩ hall⟩

/-- The texts of objects are the documents whose value is an object. -/
theorem exists_objectText {depth : Nat} {s : Bytes} {members : List (String × Value)}
    (h : Document (depth + 1) s (.object members)) :
    ∃ spelled, ObjectText (depth + 1) s spelled ∧ List.Forall₂ (Spells depth) spelled members := by
  cases h with
  | @mk front t back _ hfront ht hback =>
      cases ht with
      | @emptyObject _ blank hblank =>
          have h : ObjectText (depth + 1) _ [] := .empty hfront hblank hback
          exact ⟨[], by simpa using h, .nil⟩
      | @object _ body _ hmembers =>
          obtain ⟨spelled, hspelled, hall⟩ := exists_spelledMembers hmembers
          have h := ObjectText.members hfront hspelled hback
          exact ⟨spelled, by simpa using h, hall⟩

theorem ObjectText.exists_document {depth : Nat} {s : Bytes} {spelled : List (String × Bytes)}
    (h : ObjectText (depth + 1) s spelled) :
    ∃ members, Document (depth + 1) s (.object members) ∧
      List.Forall₂ (Spells depth) spelled members := by
  cases h with
  | @empty _ front blank back hfront hblank hback =>
      have h : Document (depth + 1) _ (.object []) := .mk hfront (.emptyObject hblank) hback
      exact ⟨[], by simpa using h, .nil⟩
  | @members _ front body back _ hfront hspelled hback =>
      obtain ⟨members, hmembers, hall⟩ := hspelled.exists_membersText
      have h := Document.mk hfront (.object hmembers) hback
      exact ⟨members, by simpa using h, hall⟩

/-- The last member of a name holds a value of which its spelling is a text. -/
theorem exists_lastNamed_of_spells {depth : Nat} {spelled : List (String × Bytes)}
    {members : List (String × Value)} (h : List.Forall₂ (Spells depth) spelled members)
    {name : String} {s : Bytes} (hlast : LastNamed name s spelled) :
    ∃ v, LastNamed name v members ∧ ValueText depth s v := by
  have hrel := lastMember?_rel name h
  rw [lastMember?_eq_some_iff.mpr hlast] at hrel
  generalize hfound : lastMember? name members = found at hrel
  cases hrel with
  | @some _ v hv => exact ⟨v, lastMember?_eq_some_iff.mp hfound, hv⟩

theorem lastNamed_unique {α : Type} {name : String} {a b : α} {members : List (String × α)}
    (ha : LastNamed name a members) (hb : LastNamed name b members) : a = b := by
  rw [← lastMember?_eq_some_iff] at ha hb
  exact Option.some.inj (ha.symm.trans hb)

/-! ## Natural numbers as they are spelled -/

/-- Exactly the digits of a natural number below `2 ^ 64`, without a leading zero, are a text of
it. -/
theorem valueText_natural_iff {depth : Nat} {s : Bytes} {n : UInt64} :
    ValueText depth s (.number (.natural n)) ↔ WholeText s ∧ decimalValue s = n.toNat := by
  constructor
  · intro h
    cases h with
    | @number _ _ l _ hliteral hn =>
        obtain ⟨hsign, hfraction, hexponent, hvalue⟩ := Literal.number_eq_natural_iff.mp hn
        cases hliteral with
        | @mk negative whole t digits u exponent hwhole hfractionText hexponentText =>
            subst hsign hfraction hexponent
            cases hfractionText
            cases hexponentText
            simpa using And.intro hwhole hvalue
  · rintro ⟨hwhole, hvalue⟩
    refine .number (literalText_whole hwhole) ?_
    exact Literal.number_eq_natural_iff.mpr ⟨rfl, rfl, rfl, hvalue⟩

/-- A text is a text of one value only. -/
theorem valueText_unique {depth : Nat} {s : Bytes} {v w : Value} (hv : ValueText depth s v)
    (hw : ValueText depth s w) : v = w := by
  have hread := isComplete_value s.length depth [] s v [] blanks_nil hv (Nat.le_refl _)
    (endsLiteral_nil.endsValue v)
  rw [isComplete_value s.length depth [] s w [] blanks_nil hw (Nat.le_refl _)
    (endsLiteral_nil.endsValue w)] at hread
  injection hread with hread
  injection hread with hread _
  exact hread.symm

end InvoiceGateway.Json
