import InvoiceGateway.Proofs.Json.Fields

/-! # Objects that records are read from -/

namespace InvoiceGateway.Json

/-! ## Members between commas -/

/-- The text of a member whose value may be left out, with blanks around its name and its value. -/
inductive MemberText : String × Bytes → Bytes → Prop
  | mk {front name middle after t back : Bytes} {key : String} :
      Blanks front → StringText name key → Blanks middle → Blanks after → Skippable t →
      Blanks back →
      MemberText (key, t) (front ++ name ++ middle ++ colonSign :: after ++ t ++ back)

/-- What may stand between the braces of an object: blanks, or members with a comma between each two
of them. -/
inductive BodyText : List (String × Bytes) → Bytes → Prop
  | empty {s : Bytes} : Blanks s → BodyText [] s
  | members {members : List (String × Bytes)} {texts : List Bytes} :
      members ≠ [] → List.Forall₂ MemberText members texts →
      BodyText members ([comma].intercalate texts)

theorem intercalate_cons (separator text : Bytes) (later : List Bytes) :
    separator.intercalate (text :: later) = text ++ later.flatMap (separator ++ ·) := by
  induction later generalizing text with
  | nil => simp
  | cons next later ih =>
      rw [List.intercalate_cons_cons, ih next, List.flatMap_cons, List.append_assoc,
        List.append_assoc]

/-- What stands between the opening brace or the member before it and a member. -/
inductive Lead : (first : Bool) → Bytes → Prop
  | opening : Lead true []
  | comma {back : Bytes} : Blanks back → Lead false (back ++ [comma])

theorem nextKey_eq_some_iff {first : Bool} {s rest : Bytes} {key : String} :
    nextKey first s = .ok (some key, rest) ↔
      ∃ lead front name, Lead first lead ∧ Blanks front ∧ StringText name key ∧
        s = lead ++ (front ++ name ++ rest) := by
  constructor
  · intro h
    cases first with
    | true =>
        obtain ⟨front, t, hfront, hstring, rfl⟩ := nextKey_first_iff.mp h
        obtain ⟨chars, hchars, rfl⟩ := string_eq_ok_iff.mp hstring
        exact ⟨[], front, _, .opening, hfront, .mk hchars, by simp⟩
    | false =>
        obtain ⟨back, front, t, hback, hfront, hstring, rfl⟩ := nextKey_later_iff.mp h
        obtain ⟨chars, hchars, rfl⟩ := string_eq_ok_iff.mp hstring
        exact ⟨_, front, _, .comma hback, hfront, .mk hchars, by simp⟩
  · rintro ⟨lead, front, name, hlead, hfront, hname, rfl⟩
    cases hname with
    | @mk chars _ hchars =>
        have hstring : string (chars ++ quote :: rest) = .ok (key, rest) :=
          string_eq_ok_iff.mpr ⟨chars, hchars, rfl⟩
        cases hlead with
        | opening => exact nextKey_first_iff.mpr ⟨front, _, hfront, hstring, by simp⟩
        | @comma back hback =>
            exact nextKey_later_iff.mpr ⟨back, front, _, hback, hfront, hstring, by simp⟩

/-- The other members, each after its comma, up to the closing brace. -/
def laterMembers (texts : List Bytes) (rest : Bytes) : Bytes :=
  texts.flatMap ([comma] ++ ·) ++ closeBrace :: rest

theorem endsLiteral_laterMembers (texts : List Bytes) (rest : Bytes) :
    EndsLiteral (laterMembers texts rest) := by
  cases texts with
  | nil => exact endsLiteral_cons (by simp)
  | cons text later => exact endsLiteral_cons (by simp)

/-! ## Reading the members -/

section Fields

variable {fields : List Field} (hnames : (fields.map Field.name).Nodup)
include hnames

/-- One round: if the other members are read to what they say besides the ones before them, so are
this member and the others. -/
theorem foldMembers_member_iff {seen members : List (String × Bytes)} {m : String × Bytes}
    {text : Bytes} {texts : List Bytes} (htext : MemberText m text) {first : Bool} {lead : Bytes}
    (hlead : Lead first lead) {slots slots' : Slots fields} (hslots : Slots.Hold seen slots)
    {inner fuel : Nat} (hinner : m.2.length < inner) {rest rest' : Bytes}
    (hothers : ∀ back slots₁, Blanks back → Slots.Hold (seen ++ [m]) slots₁ →
      (foldMembers (readMember inner fields) fuel false slots₁ (back ++ laterMembers texts rest) =
          .ok (slots', rest') ↔
        rest' = rest ∧ Slots.Hold (seen ++ [m] ++ members) slots')) :
    foldMembers (readMember inner fields) (fuel + 1) first slots
        (lead ++ (text ++ laterMembers texts rest)) = .ok (slots', rest') ↔
      rest' = rest ∧ Slots.Hold (seen ++ m :: members) slots' := by
  have hsplit : seen ++ m :: members = seen ++ [m] ++ members := by simp
  cases htext with
  | @mk front name middle after t back key hfront hname hmiddle hafter ht hback =>
      let value := middle ++ colonSign :: (after ++ t ++ (back ++ laterMembers texts rest))
      have hkey : nextKey first (lead ++ (front ++ name ++ value)) = .ok (some key, value) :=
        nextKey_eq_some_iff.mpr ⟨lead, front, name, hlead, hfront, hname, rfl⟩
      have hlater := endsLiteral_blanks_append hback (endsLiteral_laterMembers texts rest)
      have hmember : ∀ {slots₁ : Slots fields} {s₁ : Bytes},
          readMember inner fields slots key value = .ok (slots₁, s₁) ↔
            s₁ = back ++ laterMembers texts rest ∧ Slots.Hold (seen ++ [(key, t)]) slots₁ :=
        readMember_iff hnames hslots hmiddle hafter ht hlater hinner
      simp only [value, List.append_assoc, List.cons_append] at hkey hmember ⊢
      rw [hsplit, foldMembers, hkey]
      constructor
      · intro h
        simp only at h
        split at h
        · contradiction
        · next slots₁ s₁ hread =>
            obtain ⟨rfl, hslots₁⟩ := hmember.mp hread
            exact (hothers back slots₁ hback hslots₁).mp h
      · rintro ⟨hend, hslots'⟩
        obtain ⟨slots₁, hslots₁⟩ := Slots.exists_hold_of_append hslots'
        simp only [hmember.mpr ⟨rfl, hslots₁⟩]
        exact (hothers back slots₁ hback hslots₁).mpr ⟨hend, hslots'⟩

theorem foldMembers_later_iff {seen members : List (String × Bytes)} {texts : List Bytes}
    (htexts : List.Forall₂ MemberText members texts) {slots slots' : Slots fields}
    (hslots : Slots.Hold seen slots) {inner fuel : Nat}
    (hinner : ∀ m ∈ members, m.2.length < inner) (hfuel : members.length < fuel)
    {back : Bytes} (hback : Blanks back) {rest rest' : Bytes} :
    foldMembers (readMember inner fields) fuel false slots (back ++ laterMembers texts rest) =
        .ok (slots', rest') ↔
      rest' = rest ∧ Slots.Hold (seen ++ members) slots' := by
  induction htexts generalizing seen slots fuel back with
  | nil =>
      obtain ⟨fuel, rfl⟩ := Nat.exists_eq_add_one.mpr hfuel
      rw [laterMembers, List.flatMap_nil, List.nil_append,
        foldMembers_closed _ fuel false slots hback, List.append_nil]
      constructor
      · intro h
        injection h with h
        injection h with hslots' hrest
        exact ⟨hrest.symm, hslots' ▸ hslots⟩
      · rintro ⟨rfl, hslots'⟩
        rw [hslots.unique hslots']
  | @cons m text members texts htext _ ih =>
      obtain ⟨fuel, rfl⟩ := Nat.exists_eq_add_one.mpr (Nat.zero_lt_of_lt hfuel)
      have hlater : back ++ laterMembers (text :: texts) rest =
          back ++ [comma] ++ (text ++ laterMembers texts rest) := by
        simp [laterMembers]
      rw [hlater]
      refine foldMembers_member_iff hnames htext (.comma hback) hslots
        (hinner m List.mem_cons_self) fun back' slots₁ hback' hslots₁ => ?_
      exact ih hslots₁ (fun m hm => hinner m (List.mem_cons_of_mem _ hm))
        (Nat.lt_of_succ_lt_succ hfuel) hback'

/-- What stands between the braces is read exactly to slots that hold what all members say. -/
theorem foldMembers_body_iff {members : List (String × Bytes)} {body : Bytes}
    (hbody : BodyText members body) {inner fuel : Nat} (hinner : ∀ m ∈ members, m.2.length < inner)
    (hfuel : members.length < fuel) {slots' : Slots fields} {rest rest' : Bytes} :
    foldMembers (readMember inner fields) fuel true (Slots.empty fields)
        (body ++ closeBrace :: rest) = .ok (slots', rest') ↔
      rest' = rest ∧ Slots.Hold members slots' := by
  have hslots := Slots.hold_empty fields
  obtain ⟨fuel, rfl⟩ := Nat.exists_eq_add_one.mpr (Nat.zero_lt_of_lt hfuel)
  cases hbody with
  | empty hblank =>
      rw [foldMembers_closed _ fuel true _ hblank, ← foldMembers_closed _ fuel false _ hblank]
      exact foldMembers_later_iff hnames .nil hslots hinner hfuel hblank
  | @members _ texts hne htexts =>
      cases htexts with
      | nil => exact absurd rfl hne
      | @cons m text members texts htext hlater =>
          have hbytes : [comma].intercalate (text :: texts) ++ closeBrace :: rest =
              [] ++ (text ++ laterMembers texts rest) := by
            rw [intercalate_cons, laterMembers, List.append_assoc, List.nil_append]
          rw [hbytes]
          refine foldMembers_member_iff hnames htext .opening hslots
            (hinner m List.mem_cons_self) fun back slots₁ hback hslots₁ => ?_
          exact foldMembers_later_iff hnames hlater hslots₁
            (fun m hm => hinner m (List.mem_cons_of_mem _ hm)) (Nat.lt_of_succ_lt_succ hfuel) hback

end Fields

/-! ## What was read -/

theorem readMember_eq_ok {fuel : Nat} {fields : List Field} {slots slots' : Slots fields}
    {name : String} {s rest : Bytes}
    (h : readMember fuel fields slots name s = .ok (slots', rest)) :
    ∃ middle after t, Blanks middle ∧ Blanks after ∧ Skippable t ∧
      s = middle ++ colonSign :: (after ++ t ++ rest) := by
  induction fields with
  | nil =>
      obtain ⟨s₁, hcolon, h⟩ := bind_eq_ok_iff.mp h
      obtain ⟨s₂, hskip, h⟩ := bind_eq_ok_iff.mp h
      injection h with h
      injection h with _ hrest
      subst hrest
      obtain ⟨middle, hmiddle, rfl⟩ := colon_eq_ok_iff.mp hcolon
      obtain ⟨after, t, hafter, ht, rfl⟩ := skipValue_eq_ok hskip
      exact ⟨middle, after, t, hmiddle, hafter, ht, rfl⟩
  | cons f fs ih =>
      obtain ⟨slot, slots⟩ := slots
      rw [readMember] at h
      split at h
      · obtain ⟨⟨slot₁, s₁⟩, hread, hpair⟩ := map_eq_ok_iff.mp h
        injection hpair with _ hrest
        subst hrest
        cases slot with
        | some _ => contradiction
        | none =>
            obtain ⟨s₂, hcolon, hread⟩ := bind_eq_ok_iff.mp hread
            obtain ⟨⟨c, s₃⟩, hvalue, hread⟩ := bind_eq_ok_iff.mp hread
            injection hread with hread
            injection hread with _ hrest
            subst hrest
            obtain ⟨middle, hmiddle, rfl⟩ := colon_eq_ok_iff.mp hcolon
            obtain ⟨⟨after, t, hafter, ht, rfl⟩, -⟩ := Kind.read_eq_ok hvalue
            exact ⟨middle, after, t, hmiddle, hafter, ht.any.skippable, rfl⟩
      · obtain ⟨⟨slots₁, s₁⟩, hread, hpair⟩ := map_eq_ok_iff.mp h
        injection hpair with _ hrest
        subst hrest
        exact ih hread

/-- A round that succeeds has read the text of a member, up to the blanks after it. -/
theorem exists_memberText {fuel : Nat} {fields : List Field} {slots slots' : Slots fields}
    {first : Bool} {name : String} {s s₁ back later : Bytes}
    (hkey : nextKey first s = .ok (some name, s₁))
    (hmember : readMember fuel fields slots name s₁ = .ok (slots', back ++ later))
    (hback : Blanks back) :
    ∃ lead m text, Lead first lead ∧ MemberText m text ∧ s = lead ++ (text ++ later) := by
  obtain ⟨lead, front, bytes, hlead, hfront, hname, rfl⟩ := nextKey_eq_some_iff.mp hkey
  obtain ⟨middle, after, t, hmiddle, hafter, ht, rfl⟩ := readMember_eq_ok hmember
  exact ⟨lead, _, _, hlead, .mk hfront hname hmiddle hafter ht hback, by simp⟩

theorem exists_laterMembers {inner fuel : Nat} {fields : List Field} {slots slots' : Slots fields}
    {s rest : Bytes}
    (h : foldMembers (readMember inner fields) fuel false slots s = .ok (slots', rest)) :
    ∃ back members texts, Blanks back ∧ List.Forall₂ MemberText members texts ∧
      s = back ++ laterMembers texts rest := by
  induction fuel generalizing slots s with
  | zero => contradiction
  | succ fuel ih =>
      rw [foldMembers] at h
      split at h
      · contradiction
      · next s₁ hkey =>
          injection h with h
          injection h with _ hrest
          subst hrest
          obtain ⟨back, hback, rfl⟩ := nextKey_eq_closed_iff.mp hkey
          exact ⟨back, [], [], hback, .nil, rfl⟩
      · next name s₁ hkey =>
          split at h
          · contradiction
          · next slots₁ s₂ hmember =>
              obtain ⟨back, members, texts, hback, htexts, rfl⟩ := ih h
              obtain ⟨lead, m, text, hlead, htext, rfl⟩ := exists_memberText hkey hmember hback
              cases hlead with
              | @comma back' hback' =>
                  exact ⟨back', m :: members, text :: texts, hback', .cons htext htexts,
                    by simp [laterMembers]⟩

/-- Whatever is read up to a closing brace has the form of an object's members. -/
theorem exists_bodyText {inner fuel : Nat} {fields : List Field} {slots slots' : Slots fields}
    {s rest : Bytes}
    (h : foldMembers (readMember inner fields) fuel true slots s = .ok (slots', rest)) :
    ∃ members body, BodyText members body ∧ s = body ++ closeBrace :: rest := by
  cases fuel with
  | zero => contradiction
  | succ fuel =>
      rw [foldMembers] at h
      split at h
      · contradiction
      · next s₁ hkey =>
          injection h with h
          injection h with _ hrest
          subst hrest
          obtain ⟨blank, hblank, rfl⟩ := nextKey_eq_closed_iff.mp hkey
          exact ⟨[], blank, .empty hblank, rfl⟩
      · next name s₁ hkey =>
          split at h
          · contradiction
          · next slots₁ s₂ hmember =>
              obtain ⟨back, members, texts, hback, htexts, rfl⟩ := exists_laterMembers h
              obtain ⟨lead, m, text, hlead, htext, rfl⟩ := exists_memberText hkey hmember hback
              cases hlead with
              | opening =>
                  refine ⟨m :: members, _, .members (List.cons_ne_nil m members) (.cons htext htexts), ?_⟩
                  rw [intercalate_cons, laterMembers, List.append_assoc, List.nil_append]

/-! ## Records -/

/-- The members of the object of a record. -/
def Row.values : (fields : List Field) → Row fields → List (String × Value)
  | [], _ => []
  | f :: fs, (v, vs) => (f.name, f.kind.toValue v) :: Row.values fs vs

/-- The slots of a record, all of them filled. -/
def Slots.ofRow : {fields : List Field} → Row fields → Slots fields
  | [], _ => ()
  | _ :: _, (v, vs) => (some v, Slots.ofRow vs)

theorem Row.names_values {fields : List Field} (row : Row fields) :
    (Row.values fields row).map Prod.fst = fields.map Field.name := by
  induction fields with
  | nil => rfl
  | cons f fs ih =>
      obtain ⟨c, row⟩ := row
      simp only [Row.values, List.map_cons, ih row]

theorem Slots.row?_eq_ok_iff {fields : List Field} {slots : Slots fields} {row : Row fields} :
    slots.row? = .ok row ↔ slots = Slots.ofRow row := by
  constructor
  · intro h
    induction fields with
    | nil => rfl
    | cons f fs ih =>
        obtain ⟨slot, slots⟩ := slots
        cases slot with
        | none => contradiction
        | some c =>
            obtain ⟨vs, hvs, rfl⟩ := map_eq_ok_iff.mp h
            rw [ih hvs]
            rfl
  · rintro rfl
    induction fields with
    | nil => rfl
    | cons f fs ih => exact map_eq_ok_iff.mpr ⟨row.2, ih, rfl⟩

/-- All slots are filled exactly when each field names one member, which says what the field
holds. -/
theorem Slots.hold_ofRow_iff {members : List (String × Bytes)} {fields : List Field}
    {row : Row fields} :
    Slots.Hold members (Slots.ofRow row) ↔
      ∀ m ∈ Row.values fields row, ∃ t, valuesNamed m.1 members = [t] ∧ FieldText t m.2 := by
  induction fields with
  | nil => simp [Slots.Hold, Row.values]
  | cons f fs ih =>
      obtain ⟨c, row⟩ := row
      have hslot : f.kind.Holds (valuesNamed f.name members) (some c) ↔
          ∃ t, valuesNamed f.name members = [t] ∧ FieldText t (f.kind.toValue c) := by
        generalize valuesNamed f.name members = texts
        constructor
        · intro h
          cases h with
          | only ht => exact ⟨_, rfl, ht⟩
        · rintro ⟨t, rfl, ht⟩
          exact .only ht
      rw [Slots.ofRow, Slots.Hold, hslot, ih, Row.values, List.forall_mem_cons]

theorem readRecord_object_iff {fuel : Nat} {schema : Schema} {front s rest : Bytes}
    {row : Row schema.fields} (hfront : Blanks front) :
    readRecord fuel schema (front ++ openBrace :: s) = .ok (row, rest) ↔
      foldMembers (readMember fuel schema.fields) fuel true (Slots.empty schema.fields) s =
        .ok (Slots.ofRow row, rest) := by
  have hskip : skipBlanks (front ++ openBrace :: s) = openBrace :: s :=
    skipBlanks_eq_cons_iff.mpr ⟨rfl, front, hfront, rfl⟩
  simp only [readRecord, hskip, show Start.of openBrace = .object from rfl]
  rw [bind_eq_ok_iff]
  constructor
  · rintro ⟨⟨slots, s₁⟩, hfold, h⟩
    simp only at h
    split at h
    · contradiction
    · next row' hrow =>
        injection h with h
        injection h with hrow' hrest
        subst hrow' hrest
        rw [hfold, Slots.row?_eq_ok_iff.mp hrow]
  · intro hfold
    refine ⟨_, hfold, ?_⟩
    simp only [Slots.row?_eq_ok_iff.mpr rfl]
    rfl

theorem Schema.parse_iff_readRecord {schema : Schema} {text : Bytes} {row : Row schema.fields} :
    schema.parse text = .ok row ↔
      ∃ rest, readRecord (text.length + 1) schema text = .ok (row, rest) ∧ Blanks rest := by
  rw [Schema.parse, mapError_eq_ok_iff, bind_eq_ok_iff]
  constructor
  · rintro ⟨⟨row', rest⟩, hread, h⟩
    obtain ⟨_, hend, h⟩ := bind_eq_ok_iff.mp h
    injection h with h
    subst h
    exact ⟨rest, hread, endOfText_eq_ok_iff.mp hend⟩
  · rintro ⟨rest, hread, hrest⟩
    exact ⟨_, hread, bind_eq_ok_iff.mpr ⟨(), endOfText_eq_ok_iff.mpr hrest, rfl⟩⟩

theorem MemberText.length_lt {m : String × Bytes} {text : Bytes} (h : MemberText m text) :
    m.2.length < text.length := by
  cases h with
  | mk =>
      simp only [List.length_append, List.length_cons]
      omega

theorem BodyText.length_le {members : List (String × Bytes)} {body : Bytes}
    (h : BodyText members body) :
    members.length ≤ body.length ∧ ∀ m ∈ members, m.2.length ≤ body.length := by
  have hlist : ∀ members texts, List.Forall₂ MemberText members texts →
      members.length ≤ ([comma].intercalate texts).length ∧
        ∀ m ∈ members, m.2.length ≤ ([comma].intercalate texts).length := by
    intro members texts h
    induction h with
    | nil => simp
    | @cons m text members texts htext hall ih =>
        have hlt := htext.length_lt
        cases texts with
        | nil =>
            cases hall
            simp only [List.intercalate_singleton, List.length_cons, List.length_nil,
              List.forall_mem_singleton]
            omega
        | cons next later =>
            rw [List.intercalate_cons_cons]
            simp only [List.length_append, List.length_cons, List.length_nil, List.forall_mem_cons]
            refine ⟨by omega, by omega, fun m hm => ?_⟩
            have := ih.2 m hm
            omega
  cases h with
  | empty => simp
  | members _ htexts => exact hlist _ _ htexts

/-- A record is read from an object exactly when each field names one member, which says what the
field holds. -/
theorem Schema.parse_body_iff {schema : Schema} (hnames : (schema.fields.map Field.name).Nodup)
    {members : List (String × Bytes)} {front body back : Bytes} (hfront : Blanks front)
    (hbody : BodyText members body) (hback : Blanks back) {row : Row schema.fields} :
    schema.parse (front ++ openBrace :: body ++ closeBrace :: back) = .ok row ↔
      ∀ m ∈ Row.values schema.fields row,
        ∃ t, valuesNamed m.1 members = [t] ∧ FieldText t m.2 := by
  obtain ⟨hcount, hsize⟩ := hbody.length_le
  rw [Schema.parse_iff_readRecord, ← Slots.hold_ofRow_iff]
  generalize hfuel : (front ++ openBrace :: body ++ closeBrace :: back).length + 1 = fuel
  simp only [List.length_append, List.length_cons] at hfuel
  simp only [List.append_assoc, List.cons_append, readRecord_object_iff hfront]
  have hinner : ∀ m ∈ members, m.2.length < fuel := by
    intro m hm
    have := hsize m hm
    omega
  have hfold : ∀ {slots' : Slots schema.fields} {rest : Bytes},
      foldMembers (readMember fuel schema.fields) fuel true (Slots.empty schema.fields)
          (body ++ closeBrace :: back) = .ok (slots', rest) ↔
        rest = back ∧ Slots.Hold members slots' :=
    foldMembers_body_iff hnames hbody hinner (by omega)
  constructor
  · rintro ⟨rest, h, -⟩
    exact (hfold.mp h).2
  · intro h
    exact ⟨back, hfold.mpr ⟨rfl, h⟩, hback⟩

/-- The text of an object that a record is read from has the form of its members. -/
theorem Schema.exists_body {schema : Schema} {front s : Bytes} (hfront : Blanks front)
    {row : Row schema.fields} (h : schema.parse (front ++ openBrace :: s) = .ok row) :
    ∃ members body back, BodyText members body ∧ Blanks back ∧
      s = body ++ closeBrace :: back := by
  obtain ⟨back, hread, hback⟩ := Schema.parse_iff_readRecord.mp h
  obtain ⟨members, body, hbody, hs⟩ := exists_bodyText ((readRecord_object_iff hfront).mp hread)
  exact ⟨members, body, back, hbody, hback, hs⟩

end InvoiceGateway.Json
