import InvoiceGateway.Packet.Check
import InvoiceGateway.Proofs.Json.Members

/-! # Which uploads hold a packet -/

namespace InvoiceGateway.Packet

open Json

/-! ## Fields and their values -/

theorem Field.size_pos (f : Field) : 0 < f.size := by
  cases f <;> decide

/-- No field is wider than sixty-four bits. -/
theorem Field.max_lt_uint64 (f : Field) : f.max < UInt64.size := by
  cases f <;> decide

theorem get_lt_fieldSize (p : Packet) (f : Field) : p.get f < f.size := by
  cases f with
  | epochTs => exact p.epochTs.toNat_lt
  | satId => exact p.satId.toNat_lt
  | amount => exact p.amount.toNat_lt
  | assetId => exact p.assetId.toNat_lt

theorem get_le_max (p : Packet) (f : Field) : p.get f ≤ f.max :=
  Nat.le_sub_one_of_lt (get_lt_fieldSize p f)

theorem get_lt_size (p : Packet) (f : Field) : p.get f < UInt64.size :=
  Nat.lt_of_le_of_lt (get_le_max p f) f.max_lt_uint64

theorem toNat_ofNat_get (p : Packet) (f : Field) : (UInt64.ofNat (p.get f)).toNat = p.get f :=
  UInt64.toNat_ofNat_of_lt (get_lt_size p f)

theorem ofFields_get (p : Packet) : ofFields p.get = p := by
  simp [ofFields, get]

/-! ## The check of a value -/

theorem checkField_eq_ok_iff {members : List (String × Value)} {f : Field} {n : Nat} :
    checkField members f = .ok n ↔
      n ≤ f.max ∧ ∃ m : UInt64, m.toNat = n ∧
        lastMember? f.name members = some (.number (.natural m)) := by
  constructor
  · intro h
    unfold checkField at h
    split at h
    · contradiction
    · next m hm =>
        split at h
        · next hle =>
            injection h with h
            subst h
            exact ⟨hle, m, rfl, hm⟩
        · contradiction
    · contradiction
  · rintro ⟨hle, m, rfl, hm⟩
    simp [checkField, hm, hle]

theorem lt_size_of_checkField {members : List (String × Value)} {f : Field} {n : Nat}
    (h : checkField members f = .ok n) : n < f.size := by
  have hle : n ≤ f.max := (checkField_eq_ok_iff.mp h).1
  have hpos := f.size_pos
  rw [Field.max] at hle
  omega

/-- The packet of a value holds what the checks of the fields return. -/
theorem ofValue_eq_ok_iff {v : Value} {p : Packet} :
    ofValue v = .ok p ↔
      ∃ members, v = .object members ∧ ∀ f, checkField members f = .ok (p.get f) := by
  constructor
  · intro h
    cases v with
    | object members =>
        obtain ⟨epochTs, hepoch, h₁⟩ := bind_eq_ok_iff.mp h
        obtain ⟨satId, hsat, h₂⟩ := bind_eq_ok_iff.mp h₁
        obtain ⟨amount, hamount, h₃⟩ := bind_eq_ok_iff.mp h₂
        obtain ⟨assetId, hasset, h₄⟩ := bind_eq_ok_iff.mp h₃
        injection h₄ with hp
        subst hp
        refine ⟨members, rfl, fun f => ?_⟩
        cases f with
        | epochTs =>
            have hvalue := UInt64.toNat_ofNat_of_lt (lt_size_of_checkField hepoch)
            exact hepoch.trans (congrArg Except.ok hvalue.symm)
        | satId =>
            have hvalue := UInt32.toNat_ofNat_of_lt (lt_size_of_checkField hsat)
            exact hsat.trans (congrArg Except.ok hvalue.symm)
        | amount =>
            have hvalue := UInt64.toNat_ofNat_of_lt (lt_size_of_checkField hamount)
            exact hamount.trans (congrArg Except.ok hvalue.symm)
        | assetId =>
            have hvalue := UInt16.toNat_ofNat_of_lt (lt_size_of_checkField hasset)
            exact hasset.trans (congrArg Except.ok hvalue.symm)
    | _ => contradiction
  · rintro ⟨members, rfl, hcheck⟩
    have hp : ofFields p.get = p := ofFields_get p
    simp only [ofValue, bind, Except.bind, hcheck]
    exact congrArg Except.ok hp

/-! ## The language of uploads -/

theorem ofUpload_eq_ok_iff_parse {body : Bytes} {p : Packet} :
    ofUpload body = .ok p ↔ ∃ v, Value.parse body = .ok v ∧ ofValue v = .ok p := by
  unfold ofUpload
  cases Value.parse body <;> simp

theorem ofUpload_of_document {body : Bytes} {v : Value} (h : Document depthLimit body v) :
    ofUpload body = ofValue v := by
  rw [ofUpload, parse_eq_ok_iff.mpr h]

/-- An upload holds a packet exactly when it is one object, of at most `depthLimit` brackets open at
once, and for every field the last member of the field's name is written as the digits of the
packet's value: zero alone, or digits that do not begin with zero. -/
theorem ofUpload_eq_ok_iff (body : Bytes) (p : Packet) :
    ofUpload body = .ok p ↔
      ∃ members : List (String × Bytes), ObjectText depthLimit body members ∧
        ∀ f : Field, ∃ t, LastNamed f.name t members ∧ WholeText t ∧
          decimalValue t = p.get f ∧ decimalValue t ≤ f.max := by
  rw [ofUpload_eq_ok_iff_parse]
  constructor
  · rintro ⟨v, hparse, hv⟩
    obtain ⟨members, rfl, hcheck⟩ := ofValue_eq_ok_iff.mp hv
    obtain ⟨spelled, hspelled, hall⟩ := exists_objectText (parse_eq_ok_iff.mp hparse)
    refine ⟨spelled, hspelled, fun f => ?_⟩
    obtain ⟨hmax, n, hn, hlast⟩ := checkField_eq_ok_iff.mp (hcheck f)
    have hrel := lastMember?_rel f.name hall
    rw [hlast] at hrel
    generalize hfound : lastMember? f.name spelled = found at hrel
    cases hrel with
    | @some t _ ht =>
        obtain ⟨hwhole, hvalue⟩ := valueText_natural_iff.mp ht
        rw [hn] at hvalue
        exact ⟨t, lastMember?_eq_some_iff.mp hfound, hwhole, hvalue, by omega⟩
  · rintro ⟨spelled, hspelled, hfields⟩
    obtain ⟨members, hdocument, hall⟩ := hspelled.exists_document
    refine ⟨.object members, parse_eq_ok_iff.mpr hdocument, ?_⟩
    refine ofValue_eq_ok_iff.mpr ⟨members, rfl, fun f => ?_⟩
    obtain ⟨t, hlast, hwhole, hvalue, hmax⟩ := hfields f
    have hrel := lastMember?_rel f.name hall
    rw [lastMember?_eq_some_iff.mpr hlast] at hrel
    generalize hfound : lastMember? f.name members = found at hrel
    cases hrel with
    | @some _ v hv =>
        have hnat := toNat_ofNat_get p f
        have hnatural : v = .number (.natural (UInt64.ofNat (p.get f))) :=
          valueText_unique hv (valueText_natural_iff.mpr ⟨hwhole, hvalue.trans hnat.symm⟩)
        rw [hnatural] at hfound
        exact checkField_eq_ok_iff.mpr ⟨get_le_max p f, _, hnat, hfound⟩

end InvoiceGateway.Packet
