import InvoiceGateway.Proofs.Json.Revisions
import InvoiceGateway.Proofs.Packet.Language

/-! # Which fault is reported -/

namespace InvoiceGateway.Packet

open Json

/-! ## One field -/

/-- The last member of the field's name is a natural number that the field can hold. -/
def Gives (members : List (String × Value)) (f : Field) (n : Nat) : Prop :=
  n ≤ f.max ∧ ∃ m : UInt64, m.toNat = n ∧ LastNamed f.name (.number (.natural m)) members

/-- Why the members give a field no value. -/
inductive Faulty (members : List (String × Value)) (f : Field) : Refusal → Prop
  | missing : (∀ m ∈ members, m.1 ≠ f.name) → Faulty members f (.missingField f.name)
  | wrongType {v : Value} :
      LastNamed f.name v members → (∀ n, v ≠ .number (.natural n)) →
      Faulty members f (.wrongType f.name)
  | outOfRange {n : UInt64} :
      LastNamed f.name (.number (.natural n)) members → f.max < n.toNat →
      Faulty members f (.outOfRange f.name f.max)

theorem checkField_eq_ok_iff_gives {members : List (String × Value)} {f : Field} {n : Nat} :
    checkField members f = .ok n ↔ Gives members f n := by
  rw [checkField_eq_ok_iff, Gives]
  simp only [lastMember?_eq_some_iff]

theorem checkField_eq_error_iff {members : List (String × Value)} {f : Field} {e : Refusal} :
    checkField members f = .error e ↔ Faulty members f e := by
  constructor
  · intro h
    unfold checkField at h
    split at h
    · next hnone =>
        injection h with h
        subst h
        exact .missing (lastMember?_eq_none_iff.mp hnone)
    · next n hn =>
        by_cases hmax : n.toNat ≤ f.max
        · rw [if_pos hmax] at h
          contradiction
        · rw [if_neg hmax] at h
          injection h with h
          subst h
          exact .outOfRange (lastMember?_eq_some_iff.mp hn) (Nat.lt_of_not_le hmax)
    · next v hnatural hv =>
        injection h with h
        subst h
        refine .wrongType (lastMember?_eq_some_iff.mp hv) ?_
        rintro n rfl
        exact hnatural n rfl
  · intro h
    cases h with
    | missing hnone => rw [checkField, lastMember?_eq_none_iff.mpr hnone]
    | @wrongType v hlast hv =>
        rw [checkField, lastMember?_eq_some_iff.mpr hlast]
        split
        · contradiction
        · next n hn =>
            injection hn with hn
            exact absurd hn (hv n)
        · rfl
    | @outOfRange n hlast hmax =>
        rw [checkField, lastMember?_eq_some_iff.mpr hlast]
        exact if_neg (Nat.not_le_of_lt hmax)

/-- Only what is found under the name of a field counts for it. -/
theorem checkField_congr {members members' : List (String × Value)} {f : Field}
    (h : lastMember? f.name members' = lastMember? f.name members) :
    checkField members' f = checkField members f := by
  rw [checkField, checkField, h]

/-- A field as wide as the number itself is never out of range. -/
theorem Faulty.outOfRange_field {members : List (String × Value)} {f : Field} {name : String}
    {max : Nat} (h : Faulty members f (.outOfRange name max)) :
    name = f.name ∧ max = f.max ∧ (f = .satId ∨ f = .assetId) := by
  cases h with
  | @outOfRange n _ hmax =>
      refine ⟨rfl, rfl, ?_⟩
      have hlt : n.toNat < UInt64.size := n.toNat_lt
      cases f with
      | epochTs => exact absurd hlt (Nat.not_lt_of_le hmax)
      | satId => exact .inl rfl
      | amount => exact absurd hlt (Nat.not_lt_of_le hmax)
      | assetId => exact .inr rfl

/-! ## The order of the fields -/

/-- The fields that are looked at before this one. -/
def Field.earlier (f : Field) : List Field :=
  Field.all.takeWhile (· ≠ f)

theorem Field.exists_all_eq (f : Field) : ∃ after, Field.all = f.earlier ++ f :: after := by
  cases f <;> exact ⟨_, rfl⟩

theorem Field.earlier_eq {before after : List Field} {f : Field}
    (h : Field.all = before ++ f :: after) : f.earlier = before := by
  have hnodup : (before ++ f :: after).Nodup := h ▸ (by decide : Field.all.Nodup)
  have hfresh : ∀ g ∈ before, decide (g ≠ f) = true := by
    intro g hg
    exact decide_eq_true ((List.nodup_append.mp hnodup).2.2 g hg f List.mem_cons_self)
  rw [Field.earlier, h, List.takeWhile_append_of_pos hfresh,
    List.takeWhile_cons_of_neg (by simp), List.append_nil]

/-- The members give every earlier field a value, and this one none for the reason given. -/
def FirstFault (members : List (String × Value)) (f : Field) (e : Refusal) : Prop :=
  Faulty members f e ∧ ∀ g ∈ f.earlier, ∃ n, Gives members g n

/-- The check of an object is that of its fields, one after the other. -/
theorem ofValue_eq_error_iff_mapM {members : List (String × Value)} {e : Refusal} :
    ofValue (.object members) = .error e ↔ Field.all.mapM (checkField members) = .error e := by
  simp only [ofValue, Field.all, List.mapM_cons, List.mapM_nil, bind, Except.bind, pure,
    Except.pure]
  cases checkField members .epochTs with
  | error _ => simp
  | ok _ =>
      cases checkField members .satId with
      | error _ => simp
      | ok _ =>
          cases checkField members .amount with
          | error _ => simp
          | ok _ =>
              cases checkField members .assetId with
              | error _ => simp
              | ok _ => simp

theorem ofValue_eq_error_iff {members : List (String × Value)} {e : Refusal} :
    ofValue (.object members) = .error e ↔ ∃ f, FirstFault members f e := by
  rw [ofValue_eq_error_iff_mapM, mapM_eq_error_iff]
  simp only [checkField_eq_ok_iff_gives, checkField_eq_error_iff]
  constructor
  · rintro ⟨before, f, after, hall, hbefore, hf⟩
    rw [← Field.earlier_eq hall] at hbefore
    exact ⟨f, hf, hbefore⟩
  · rintro ⟨f, hf, hearlier⟩
    obtain ⟨after, hall⟩ := f.exists_all_eq
    exact ⟨f.earlier, f, after, hall, hearlier, hf⟩

/-- What is found under the names of later fields, or under other names, does not matter. -/
theorem FirstFault.congr {members members' : List (String × Value)} {f : Field} {e : Refusal}
    (h : FirstFault members f e)
    (hagree : ∀ g, g = f ∨ g ∈ f.earlier →
      lastMember? g.name members' = lastMember? g.name members) :
    FirstFault members' f e := by
  obtain ⟨hf, hearlier⟩ := h
  constructor
  · rw [← checkField_eq_error_iff] at hf ⊢
    rw [checkField_congr (hagree f (.inl rfl)), hf]
  · intro g hg
    obtain ⟨n, hn⟩ := hearlier g hg
    refine ⟨n, ?_⟩
    rw [← checkField_eq_ok_iff_gives] at hn ⊢
    rw [checkField_congr (hagree g (.inr hg)), hn]

theorem Field.ne_of_mem_earlier {f g : Field} (h : g ∈ f.earlier) : g ≠ f := by
  have hne := List.all_eq_true.mp List.all_takeWhile g h
  simpa using hne

/-- Where all other fields are given values, a fault is the first one. -/
theorem Faulty.firstFault {members : List (String × Value)} {f : Field} {e : Refusal}
    (h : Faulty members f e) (hothers : ∀ g, g ≠ f → ∃ n, Gives members g n) :
    FirstFault members f e :=
  ⟨h, fun g hg => hothers g (Field.ne_of_mem_earlier hg)⟩

/-! ## The judgement of a value -/

/-- How a value is judged. -/
inductive Judgement : Value → Except Refusal Packet → Prop
  | notAnObject {v : Value} :
      (∀ members, v ≠ .object members) → Judgement v (.error .notAnObject)
  | refused {members : List (String × Value)} {f : Field} {e : Refusal} :
      FirstFault members f e → Judgement (.object members) (.error e)
  | accepted {members : List (String × Value)} {p : Packet} :
      (∀ f, Gives members f (p.get f)) → Judgement (.object members) (.ok p)

theorem ofValue_eq_ok_iff_gives {members : List (String × Value)} {p : Packet} :
    ofValue (.object members) = .ok p ↔ ∀ f, Gives members f (p.get f) := by
  rw [ofValue_eq_ok_iff]
  simp only [checkField_eq_ok_iff_gives]
  constructor
  · rintro ⟨members', hmembers, h⟩
    injection hmembers with hmembers
    rwa [hmembers]
  · intro h
    exact ⟨members, rfl, h⟩

/-- An object that gives every field a value holds a packet. -/
theorem exists_ofValue {members : List (String × Value)} (h : ∀ f, ∃ n, Gives members f n) :
    ∃ p, ofValue (.object members) = .ok p := by
  cases hvalue : ofValue (.object members) with
  | ok p => exact ⟨p, rfl⟩
  | error e =>
      obtain ⟨f, hf, -⟩ := ofValue_eq_error_iff.mp hvalue
      obtain ⟨n, hn⟩ := h f
      rw [← checkField_eq_error_iff, checkField_eq_ok_iff_gives.mpr hn] at hf
      contradiction

theorem judgement_ofValue (v : Value) : Judgement v (ofValue v) := by
  cases v with
  | object members =>
      cases h : ofValue (.object members) with
      | error e =>
          obtain ⟨f, hf⟩ := ofValue_eq_error_iff.mp h
          exact .refused hf
      | ok p => exact .accepted (ofValue_eq_ok_iff_gives.mp h)
  | _ => exact .notAnObject (by simp)

theorem Judgement.ofValue_eq {v : Value} {r : Except Refusal Packet} (h : Judgement v r) :
    ofValue v = r := by
  cases h with
  | notAnObject hv =>
      cases v with
      | object members => exact absurd rfl (hv members)
      | _ => rfl
  | refused hf => exact ofValue_eq_error_iff.mpr ⟨_, hf⟩
  | accepted hgives => exact ofValue_eq_ok_iff_gives.mpr hgives

/-- The check of a value returns what the rules of the judgement say, and nothing else. -/
theorem ofValue_eq_iff {v : Value} {r : Except Refusal Packet} :
    ofValue v = r ↔ Judgement v r := by
  constructor
  · rintro rfl
    exact judgement_ofValue v
  · exact Judgement.ofValue_eq

/-- The amount is missing and the asset is no number, but the satellite comes first. -/
example : ofValue (.object [("asset_id", .null), ("sat_id", .number (.natural 4294967296)),
    ("epoch_ts", .number (.natural 1))]) = .error (.outOfRange "sat_id" 4294967295) := by
  rfl

/-- What the check says about a value, and what that depends on. -/
structure IsExact (v : Value) : Prop where
  judgement_iff : ∀ r, ofValue v = r ↔ Judgement v r
  /-- Only the two narrow fields are ever out of range. -/
  outOfRange : ∀ name max, ofValue v = .error (.outOfRange name max) →
    (name = "sat_id" ∧ max = 4294967295) ∨ (name = "asset_id" ∧ max = 65535)
  /-- An object that differs only in other members, or in those of later fields, is refused for the
  same reason. -/
  unchanged : ∀ members members' f e, v = .object members → FirstFault members f e →
    (∀ g, g = f ∨ g ∈ f.earlier → lastMember? g.name members' = lastMember? g.name members) →
    ofValue v = .error e ∧ ofValue (.object members') = .error e

/-- The verdict on a value is exact. -/
theorem ofValue_isExact (v : Value) : IsExact v where
  judgement_iff := fun _ => ofValue_eq_iff
  outOfRange := by
    intro name max h
    cases ofValue_eq_iff.mp h with
    | @refused members f _ hf =>
        obtain ⟨rfl, rfl, hfield⟩ := hf.1.outOfRange_field
        rcases hfield with rfl | rfl
        · exact .inl ⟨rfl, rfl⟩
        · exact .inr ⟨rfl, rfl⟩
  unchanged := by
    rintro members members' f e rfl hf hagree
    exact ⟨ofValue_eq_error_iff.mpr ⟨f, hf⟩, ofValue_eq_error_iff.mpr ⟨f, hf.congr hagree⟩⟩

end InvoiceGateway.Packet
