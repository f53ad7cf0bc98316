import InvoiceGateway.Json.Record
import InvoiceGateway.Proofs.Json.Revisions
import InvoiceGateway.Proofs.Json.Skipping

/-! # Fields and the members that fill them -/

namespace InvoiceGateway.Json

/-! ## How far a number is read -/

/-- Where the text ends too early decides only which fault that is. -/
theorem literal_eq_ok_congr (atEnd atEnd' : Cause) {negative : Bool} {s rest : Bytes} {l : Literal}
    (h : literal atEnd negative s = .ok (l, rest)) : literal atEnd' negative s = .ok (l, rest) := by
  have hwhole : ∀ s p, wholePart atEnd s = .ok p → wholePart atEnd' s = .ok p := by
    intro s p h
    cases s with
    | nil => contradiction
    | cons b s => exact h
  have hfraction : ∀ s p, fractionPart atEnd s = .ok p → fractionPart atEnd' s = .ok p := by
    intro s p h
    cases s with
    | nil => exact h
    | cons b s =>
        cases s with
        | nil => by_cases hb : b = 46 <;> simp_all [fractionPart]
        | cons d s => exact h
  have hexponent : ∀ s p, exponentPart atEnd s = .ok p → exponentPart atEnd' s = .ok p := by
    intro s p h
    cases s with
    | nil => exact h
    | cons b s =>
        simp only [exponentPart] at h ⊢
        split at h
        · next hb =>
            rw [if_pos hb]
            cases hsign : (exponentSign s).2 with
            | nil => simp [hsign, exponentDigits, Except.map] at h
            | cons d ds =>
                rw [hsign] at h
                exact h
        · next hb =>
            rw [if_neg hb]
            exact h
  obtain ⟨⟨whole, s₁⟩, h₁, h⟩ := bind_eq_ok_iff.mp h
  obtain ⟨⟨fraction, s₂⟩, h₂, h⟩ := bind_eq_ok_iff.mp h
  obtain ⟨⟨exponent, s₃⟩, h₃, h⟩ := bind_eq_ok_iff.mp h
  simp only [literal, bind, Except.bind, hwhole _ _ h₁, hfraction _ _ h₂, hexponent _ _ h₃]
  exact h

theorem skipNumber_of_number {negative : Bool} {s rest : Bytes} {n : Number}
    (h : number negative s = .ok (n, rest)) : skipNumber negative s = .ok rest := by
  obtain ⟨⟨l, s₁⟩, hliteral, h⟩ := bind_eq_ok_iff.mp h
  obtain ⟨m, -, h⟩ := bind_eq_ok_iff.mp h
  injection h with h
  injection h with _ hrest
  rw [skipNumber, literal_eq_ok_congr _ _ hliteral, ← hrest]
  rfl

/-! ## Values of a kind -/

/-- The JSON value of a value of a kind. -/
def Kind.toValue : (k : Kind) → k.Carrier → Value
  | .text, s => .string s
  | .natural32, n => .number (.natural (UInt64.ofNat n.toNat))

/-- A text of a value that a field may hold: a string, or the digits of a natural number. -/
inductive FieldText : Bytes → Value → Prop
  | string {s : Bytes} {text : String} : StringText s text → FieldText s (.string text)
  | natural {s : Bytes} {n : UInt64} :
      WholeText s → decimalValue s = n.toNat → FieldText s (.number (.natural n))

theorem fieldText_iff {depth : Nat} {s : Bytes} {k : Kind} {c : k.Carrier} :
    FieldText s (k.toValue c) ↔ ValueText depth s (k.toValue c) := by
  cases k with
  | text =>
      constructor
      · intro h
        cases h with
        | string hs => exact .string hs
      · intro h
        cases h with
        | string hs => exact .string hs
  | natural32 =>
      rw [Kind.toValue, valueText_natural_iff]
      constructor
      · intro h
        cases h with
        | natural hs hvalue => exact ⟨hs, hvalue⟩
      · rintro ⟨hs, hvalue⟩
        exact .natural hs hvalue

theorem Kind.toValue_inj {k : Kind} {c c' : k.Carrier} (h : k.toValue c = k.toValue c') :
    c = c' := by
  cases k with
  | text => exact Value.string.inj h
  | natural32 =>
      have h64 : UInt64.ofNat c.toNat = UInt64.ofNat c'.toNat :=
        Number.natural.inj (Value.number.inj h)
      have hlarge : ∀ n : UInt32, (UInt64.ofNat n.toNat).toNat = n.toNat := fun n =>
        UInt64.toNat_ofNat_of_lt (Nat.lt_trans n.toNat_lt (by decide))
      have hnat := congrArg UInt64.toNat h64
      rw [hlarge, hlarge] at hnat
      exact UInt32.toNat_inj.mp hnat

theorem natural32_eq_ok_iff {n : Number} {s rest : Bytes} {c : UInt32} :
    natural32 n s = .ok (c, rest) ↔ n = .natural (UInt64.ofNat c.toNat) ∧ rest = s := by
  constructor
  · intro h
    cases n with
    | natural m =>
        rw [natural32] at h
        split at h
        · next hm =>
            injection h with h
            injection h with hc hrest
            have hcut : c.toNat = m.toNat := by
              rw [← hc, UInt64.toNat_toUInt32]
              exact Nat.mod_eq_of_lt hm
            rw [hcut, UInt64.ofNat_toNat]
            exact ⟨rfl, hrest.symm⟩
        · contradiction
    | negative | float => contradiction
  · rintro ⟨rfl, rfl⟩
    have hc : (UInt64.ofNat c.toNat).toNat = c.toNat :=
      UInt64.toNat_ofNat_of_lt (Nat.lt_trans c.toNat_lt (by decide))
    have hcut : (UInt64.ofNat c.toNat).toUInt32 = c :=
      UInt32.toNat_inj.mp (by
        rw [UInt64.toNat_toUInt32, hc]
        exact Nat.mod_eq_of_lt c.toNat_lt)
    rw [natural32, hc, if_pos c.toNat_lt, hcut]

theorem natural32_of_number {negative : Bool} {s rest : Bytes} {c : UInt32}
    (h : (number negative s).bind (fun (n, s) => natural32 n s) = .ok (c, rest)) :
    (∃ t, ValueText 0 (minusSign negative ++ t) (Kind.natural32.toValue c) ∧ s = t ++ rest) ∧
      skipNumber negative s = .ok rest := by
  obtain ⟨⟨n, s₁⟩, hnumber, hn⟩ := bind_eq_ok_iff.mp h
  obtain ⟨rfl, rfl⟩ := natural32_eq_ok_iff.mp hn
  obtain ⟨t, l, hliteral, hvalue, hs⟩ := number_eq_ok hnumber
  exact ⟨⟨t, .number hliteral hvalue, hs⟩, skipNumber_of_number hnumber⟩

/-- What is read as a value of a kind is a text of that value, and may also be left out. -/
theorem Kind.read_eq_ok {k : Kind} {c : k.Carrier} {s rest : Bytes}
    (h : k.read s = .ok (c, rest)) :
    (∃ front t, Blanks front ∧ ValueText 0 t (k.toValue c) ∧ s = front ++ t ++ rest) ∧
      skipStart s = .ok (none, rest) := by
  cases k with
  | text =>
      simp only [Kind.read, readText] at h
      split at h
      · contradiction
      · next b t hskip =>
          obtain ⟨-, front, hfront, rfl⟩ := skipBlanks_eq_cons_iff.mp hskip
          split at h
          · next hb =>
              subst hb
              obtain ⟨chars, hchars, rfl⟩ := string_eq_ok_iff.mp h
              refine ⟨⟨front, _, hfront, .string (.mk hchars), by simp⟩, ?_⟩
              rw [skipStart, hskip]
              simp only [show Start.of quote = .string from rfl,
                skipString_append hchars.any.skipped]
              rfl
          · contradiction
  | natural32 =>
      simp only [Kind.read, readNatural32] at h
      split at h
      · contradiction
      · next b t hskip =>
          obtain ⟨-, front, hfront, rfl⟩ := skipBlanks_eq_cons_iff.mp hskip
          have hstart := isStart_of b
          split at h
          · next hb =>
              rw [hb] at hstart
              have hminus : b = 45 := hstart
              obtain ⟨⟨digits, hdigits, rfl⟩, hskipped⟩ := natural32_of_number h
              refine ⟨⟨front, _, hfront, hdigits, by simp [minusSign, hminus]⟩, ?_⟩
              rw [skipStart, hskip]
              simp only [hb, hskipped]
              rfl
          · next hb =>
              obtain ⟨⟨digits, hdigits, hs⟩, hskipped⟩ := natural32_of_number h
              refine ⟨⟨front, _, hfront, hdigits, by simp [minusSign, hs]⟩, ?_⟩
              rw [skipStart, hskip]
              simp only [hb, hskipped]
              rfl
          · contradiction

theorem Kind.read_append {k : Kind} {c : k.Carrier} {front t rest : Bytes} (hfront : Blanks front)
    (ht : ValueText 0 t (k.toValue c)) (hrest : EndsLiteral rest) :
    k.read (front ++ t ++ rest) = .ok (c, rest) := by
  cases k with
  | text =>
      cases ht with
      | string hstring =>
          cases hstring with
          | @mk chars _ hchars =>
              have hskip : skipBlanks (front ++ (quote :: chars ++ [quote]) ++ rest) =
                  quote :: (chars ++ quote :: rest) :=
                skipBlanks_eq_cons_iff.mpr ⟨rfl, front, hfront, by simp⟩
              simp only [Kind.read, readText, hskip, if_true]
              exact string_eq_ok_iff.mpr ⟨chars, hchars, rfl⟩
  | natural32 =>
      cases ht with
      | @number _ _ l _ hliteral hn =>
          have hsign := (Literal.number_eq_natural_iff.mp hn).1
          obtain ⟨u, rfl, hnumber⟩ := number_append hliteral hn hrest
          obtain ⟨d, ds, rfl, hd⟩ := literalText_begins hliteral rfl
          rw [hsign] at hnumber ⊢
          have hskip : skipBlanks (front ++ (minusSign false ++ d :: ds) ++ rest) =
              d :: (ds ++ rest) :=
            skipBlanks_eq_cons_iff.mpr
              ⟨(not_blank_of_isDigit hd).1, front, hfront, by simp [minusSign]⟩
          rw [List.cons_append] at hnumber
          simp only [Kind.read, readNatural32, hskip, start_of_digit hd, hnumber]
          exact natural32_eq_ok_iff.mpr ⟨rfl, rfl⟩

theorem skipValue_of_skipStart {fuel : Nat} {s rest : Bytes}
    (h : skipStart s = .ok (none, rest)) : skipValue (fuel + 1) s = .ok rest := by
  rw [skipValue, skipWithin, h]
  rfl

theorem BeginsItem.cancel_blanks {front front' t t' : Bytes} (ht : BeginsItem t)
    (ht' : BeginsItem t') (hfront : Blanks front) (hfront' : Blanks front')
    (h : front ++ t = front' ++ t') : t = t' := by
  obtain ⟨b, u, rfl, hb, -⟩ := ht
  obtain ⟨b', u', rfl, hb', -⟩ := ht'
  have hskip := congrArg skipBlanks h
  rwa [skipBlanks_append hfront, skipBlanks_append hfront', skipBlanks_of_not_blank hb,
    skipBlanks_of_not_blank hb'] at hskip

/-- Of a value that could be left out, exactly a text of a value of the kind is read, to its
end. -/
theorem Kind.read_append_iff {k : Kind} {c : k.Carrier} {front t rest rest' : Bytes}
    (hfront : Blanks front) (ht : Skippable t) (hrest : EndsLiteral rest) :
    k.read (front ++ t ++ rest) = .ok (c, rest') ↔
      rest' = rest ∧ ValueText 0 t (k.toValue c) := by
  constructor
  · intro h
    obtain ⟨⟨front', t', hfront', ht', hs⟩, hstart⟩ := Kind.read_eq_ok h
    have hskip := skipValue_append hfront ht hrest (Nat.lt_succ_self t.length)
    have hend : rest' = rest :=
      Except.ok.inj ((skipValue_of_skipStart hstart).symm.trans hskip)
    subst hend
    have heq := ht.begins.cancel_blanks (valueText_begins ht') hfront hfront'
      (List.append_cancel_right hs)
    exact ⟨rfl, heq ▸ ht'⟩
  · rintro ⟨rfl, ht⟩
    exact Kind.read_append hfront ht hrest

/-! ## Members of a name -/

/-- What the members of this name hold, in their order. -/
def valuesNamed {α : Type} (name : String) (members : List (String × α)) : List α :=
  members.filterMap fun (key, a) => if key = name then some a else none

theorem valuesNamed_append {α : Type} (name : String) (xs ys : List (String × α)) :
    valuesNamed name (xs ++ ys) = valuesNamed name xs ++ valuesNamed name ys :=
  List.filterMap_append

theorem valuesNamed_cons {α : Type} (name key : String) (a : α) (members : List (String × α)) :
    valuesNamed name ((key, a) :: members) =
      (if key = name then [a] else []) ++ valuesNamed name members := by
  by_cases hkey : key = name <;> simp [valuesNamed, hkey]

theorem valuesNamed_singleton {α : Type} (name key : String) (a : α) :
    valuesNamed name [(key, a)] = if key = name then [a] else [] := by
  by_cases hkey : key = name <;> simp [valuesNamed, hkey]

/-- A look-up finds the last of the members of a name. -/
theorem lastMember?_eq_getLast? {α : Type} (name : String) (members : List (String × α)) :
    lastMember? name members = (valuesNamed name members).getLast? := by
  induction members with
  | nil => rfl
  | cons m members ih =>
      obtain ⟨key, a⟩ := m
      rw [lastMember?_cons, valuesNamed_cons, List.getLast?_append, ih]
      by_cases hkey : key = name <;> simp [hkey]

/-- Lists of members that agree in their names have the same number of each. -/
theorem valuesNamed_rel {α β : Type} {R : α → β → Prop} (name : String)
    {as : List (String × α)} {bs : List (String × β)}
    (h : List.Forall₂ (fun a b => a.1 = b.1 ∧ R a.2 b.2) as bs) :
    List.Forall₂ R (valuesNamed name as) (valuesNamed name bs) := by
  induction h with
  | nil => exact .nil
  | @cons a b as bs hab _ ih =>
      obtain ⟨key, a⟩ := a
      obtain ⟨key', b⟩ := b
      obtain ⟨rfl, hvalue⟩ := hab
      rw [valuesNamed_cons, valuesNamed_cons]
      split
      · exact .cons hvalue ih
      · exact ih

/-! ## Slots -/

/-- What the members of a field's name make of its slot; two of them make nothing of it. -/
inductive Kind.Holds (k : Kind) : List Bytes → Option k.Carrier → Prop
  | nothing : Holds k [] none
  | only {t : Bytes} {c : k.Carrier} : FieldText t (k.toValue c) → Holds k [t] (some c)

theorem Kind.Holds.unique {k : Kind} {texts : List Bytes} {slot slot' : Option k.Carrier}
    (h : k.Holds texts slot) (h' : k.Holds texts slot') : slot = slot' := by
  cases h with
  | nothing =>
      cases h'
      rfl
  | only ht =>
      cases h' with
      | only ht' =>
          have hv : ValueText 0 _ _ := fieldText_iff.mp ht
          exact congrArg some (Kind.toValue_inj (valueText_unique hv (fieldText_iff.mp ht')))

/-- Each slot holds what the members of its field's name say. -/
def Slots.Hold (members : List (String × Bytes)) : {fields : List Field} → Slots fields → Prop
  | [], _ => True
  | f :: _, (slot, slots) =>
      f.kind.Holds (valuesNamed f.name members) slot ∧ Slots.Hold members slots

theorem Slots.hold_empty (fields : List Field) : Slots.Hold [] (Slots.empty fields) := by
  induction fields with
  | nil => trivial
  | cons f fs ih => exact ⟨.nothing, ih⟩

theorem Slots.Hold.unique {members : List (String × Bytes)} {fields : List Field}
    {slots slots' : Slots fields} (h : Slots.Hold members slots) (h' : Slots.Hold members slots') :
    slots = slots' := by
  induction fields with
  | nil => rfl
  | cons f fs ih =>
      obtain ⟨slot, slots⟩ := slots
      obtain ⟨slot', slots'⟩ := slots'
      rw [h.1.unique h'.1, ih h.2 h'.2]

/-- What holds after some members was reached from what held before the last of them. -/
theorem Slots.exists_hold_of_append {members later : List (String × Bytes)} {fields : List Field}
    {slots : Slots fields} (h : Slots.Hold (members ++ later) slots) :
    ∃ slots' : Slots fields, Slots.Hold members slots' := by
  induction fields with
  | nil => exact ⟨(), trivial⟩
  | cons f fs ih =>
      obtain ⟨slot, slots⟩ := slots
      obtain ⟨slots', hslots'⟩ := ih h.2
      have hslot := h.1
      rw [valuesNamed_append] at hslot
      generalize valuesNamed f.name later = texts at hslot
      cases htexts : valuesNamed f.name members with
      | nil => exact ⟨(none, slots'), htexts ▸ .nothing, hslots'⟩
      | cons t ts =>
          rw [htexts] at hslot
          generalize hall : t :: ts ++ texts = all at hslot
          cases hslot with
          | nothing => contradiction
          | @only u c hu =>
              obtain ⟨rfl, hrest⟩ := List.cons.inj hall
              obtain ⟨rfl, -⟩ := List.append_eq_nil_iff.mp hrest
              exact ⟨(some c, slots'), htexts ▸ .only hu, hslots'⟩

/-- The members of other names do not count. -/
theorem Slots.hold_congr {members members' : List (String × Bytes)} {fields : List Field}
    (h : ∀ f ∈ fields, valuesNamed f.name members = valuesNamed f.name members')
    {slots : Slots fields} : Slots.Hold members slots ↔ Slots.Hold members' slots := by
  induction fields with
  | nil => exact Iff.rfl
  | cons f fs ih =>
      obtain ⟨slot, slots⟩ := slots
      have hhead := h f List.mem_cons_self
      have htail : Slots.Hold members slots ↔ Slots.Hold members' slots :=
        ih fun g hg => h g (List.mem_cons_of_mem f hg)
      simp only [Slots.Hold, hhead, htail]

/-! ## One member -/

theorem readSlot_iff {f : Field} {members : List (String × Bytes)}
    {slot slot' : Option f.kind.Carrier} (hslot : f.kind.Holds (valuesNamed f.name members) slot)
    {middle after t rest rest' : Bytes} (hmiddle : Blanks middle) (hafter : Blanks after)
    (ht : Skippable t) (hrest : EndsLiteral rest) :
    readSlot f slot (middle ++ colonSign :: (after ++ t ++ rest)) = .ok (slot', rest') ↔
      rest' = rest ∧ f.kind.Holds (valuesNamed f.name members ++ [t]) slot' := by
  have hcolon : colon (middle ++ colonSign :: (after ++ t ++ rest)) = .ok (after ++ t ++ rest) :=
    colon_eq_ok_iff.mpr ⟨middle, hmiddle, rfl⟩
  generalize valuesNamed f.name members = texts at hslot ⊢
  cases hslot with
  | only _ =>
      constructor
      · intro h
        contradiction
      · rintro ⟨-, h⟩
        cases h
  | nothing =>
      simp only [readSlot, bind, Except.bind, hcolon, List.nil_append]
      constructor
      · intro h
        split at h
        · contradiction
        · next p hread =>
            injection h with h
            injection h with hslot' hend
            subst hslot' hend
            obtain ⟨hend, hvalue⟩ := (Kind.read_append_iff hafter ht hrest).mp hread
            exact ⟨hend, .only (fieldText_iff.mpr hvalue)⟩
      · rintro ⟨rfl, h⟩
        cases h with
        | only hc =>
            rw [(Kind.read_append_iff hafter ht hrest).mpr ⟨rfl, fieldText_iff.mp hc⟩]
            rfl

theorem Kind.Holds.iff_eq {k : Kind} {texts : List Bytes} {slot slot' : Option k.Carrier}
    (h : k.Holds texts slot) : k.Holds texts slot' ↔ slot' = slot := by
  constructor
  · exact fun h' => h'.unique h
  · rintro rfl
    exact h

/-- A member whose name no field has leaves the slots as they are. -/
theorem Slots.Hold.append_iff {members : List (String × Bytes)} {fields : List Field}
    {slots slots' : Slots fields} (h : Slots.Hold members slots) {name : String}
    (hname : name ∉ fields.map Field.name) (t : Bytes) :
    Slots.Hold (members ++ [(name, t)]) slots' ↔ slots' = slots := by
  have hcongr : ∀ g ∈ fields,
      valuesNamed g.name (members ++ [(name, t)]) = valuesNamed g.name members := by
    intro g hg
    have hne : name ≠ g.name := by
      rintro rfl
      exact hname (List.mem_map_of_mem hg)
    rw [valuesNamed_append, valuesNamed_singleton, if_neg hne, List.append_nil]
  rw [Slots.hold_congr hcongr]
  constructor
  · exact fun h' => h'.unique h
  · rintro rfl
    exact h

/-- With no fields, a member is read past. -/
theorem readMember_nil_iff {fuel : Nat} {slots slots' : Slots []} {name : String}
    {middle after t rest rest' : Bytes} (hmiddle : Blanks middle) (hafter : Blanks after)
    (ht : Skippable t) (hrest : EndsLiteral rest) (hfuel : t.length < fuel) :
    readMember fuel [] slots name (middle ++ colonSign :: (after ++ t ++ rest)) =
      .ok (slots', rest') ↔ rest' = rest := by
  have hcolon : colon (middle ++ colonSign :: (after ++ t ++ rest)) = .ok (after ++ t ++ rest) :=
    colon_eq_ok_iff.mpr ⟨middle, hmiddle, rfl⟩
  simp only [readMember, bind, Except.bind, hcolon, skipValue_append hafter ht hrest hfuel]
  constructor
  · intro h
    injection h with h
    injection h with _ h
    exact h.symm
  · rintro rfl
    rfl

/-- One more member is read exactly to slots that hold what it says besides the others. -/
theorem readMember_iff {fields : List Field} (hnames : (fields.map Field.name).Nodup)
    {members : List (String × Bytes)} {slots slots' : Slots fields}
    (hslots : Slots.Hold members slots) {fuel : Nat} {name : String}
    {middle after t rest rest' : Bytes} (hmiddle : Blanks middle) (hafter : Blanks after)
    (ht : Skippable t) (hrest : EndsLiteral rest) (hfuel : t.length < fuel) :
    readMember fuel fields slots name (middle ++ colonSign :: (after ++ t ++ rest)) =
        .ok (slots', rest') ↔
      rest' = rest ∧ Slots.Hold (members ++ [(name, t)]) slots' := by
  induction fields with
  | nil =>
      rw [readMember_nil_iff hmiddle hafter ht hrest hfuel, Slots.Hold, and_true]
  | cons f fs ih =>
      obtain ⟨slot, slots⟩ := slots
      obtain ⟨slot', slots'⟩ := slots'
      obtain ⟨hfresh, hlater⟩ := List.nodup_cons.mp hnames
      obtain ⟨hslot, hothers⟩ := hslots
      rw [readMember, Slots.Hold, valuesNamed_append, valuesNamed_singleton]
      by_cases hname : f.name = name
      · -- The other fields have other names, so their slots stay as they are.
        rw [if_pos hname, map_eq_ok_iff, if_pos hname.symm, hothers.append_iff (hname ▸ hfresh) t]
        constructor
        · rintro ⟨⟨slot₁, s₁⟩, hread, hpair⟩
          injection hpair with hpair hend
          injection hpair with hslot₁ hslots₁
          subst hslot₁ hslots₁ hend
          obtain ⟨hend, hholds⟩ := (readSlot_iff hslot hmiddle hafter ht hrest).mp hread
          exact ⟨hend, hholds, rfl⟩
        · rintro ⟨hend, hholds, rfl⟩
          exact ⟨_, (readSlot_iff hslot hmiddle hafter ht hrest).mpr ⟨hend, hholds⟩, rfl⟩
      · rw [if_neg hname, map_eq_ok_iff, if_neg (Ne.symm hname), List.append_nil, hslot.iff_eq]
        constructor
        · rintro ⟨⟨slots₁, s₁⟩, hread, hpair⟩
          injection hpair with hpair hend
          injection hpair with hslot₁ hslots₁
          subst hslot₁ hslots₁ hend
          obtain ⟨hend, hholds⟩ := (ih hlater hothers).mp hread
          exact ⟨hend, rfl, hholds⟩
        · rintro ⟨hend, rfl, hholds⟩
          exact ⟨_, (ih hlater hothers).mpr ⟨hend, hholds⟩, rfl⟩

end InvoiceGateway.Json
