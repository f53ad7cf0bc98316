import InvoiceGateway.Proofs.Json.Framing
import InvoiceGateway.Proofs.Json.Nesting
import InvoiceGateway.Proofs.Json.Objects

/-! # Records and the values of their texts

The two readers never meet: both are compared with the grammar. -/

namespace InvoiceGateway.Json

/-! ## Lists -/

theorem endList_blanks_append {back : Bytes} (hback : Blanks back) (rest : Bytes) :
    endList (back ++ closeBracket :: rest) = .ok rest := by
  have hskip : skipBlanks (back ++ closeBracket :: rest) = closeBracket :: rest :=
    skipBlanks_eq_cons_iff.mpr ⟨rfl, back, hback, rfl⟩
  simp [endList, hskip]

theorem endList_ne_ok {front s rest : Bytes} (hfront : Blanks front) (hs : BeginsItem s) :
    endList (front ++ s) ≠ .ok rest := by
  obtain ⟨b, u, rfl, hb, hclose⟩ := hs
  have hskip : skipBlanks (front ++ b :: u) = b :: u :=
    skipBlanks_eq_cons_iff.mpr ⟨hb, front, hfront, rfl⟩
  rw [endList, hskip]
  simp only [if_neg hclose]
  intro h
  split at h
  · split at h
    · contradiction
    · split at h <;> contradiction
  · contradiction

/-- A text of a value is one of the value that a field holds exactly if both are the same. -/
theorem valueText_toValue_iff {depth : Nat} {t : Bytes} {v : Value} (ht : ValueText depth t v)
    {k : Kind} {c : k.Carrier} : ValueText 0 t (k.toValue c) ↔ v = k.toValue c := by
  have hdepth : ValueText 0 t (k.toValue c) ↔ ValueText depth t (k.toValue c) :=
    fieldText_iff.symm.trans fieldText_iff
  rw [hdepth]
  constructor
  · exact valueText_unique ht
  · rintro rfl
    exact ht

section Lists

variable {depth : Nat} {expected : String} {fields : List Field}

/-- Once an item is found, it has to be the value of the next field, and the others have to be those
of the other fields. -/
theorem readItems_item_iff {f : Field} {index : Nat} {s t tail rest rest' : Bytes} {v : Value}
    {vs : List Value}
    (hnext : nextItem (index = 0) s = .ok (true, t ++ (tail ++ closeBracket :: rest)))
    (ht : ValueText depth t v) (htail : ItemsTail depth tail vs) {c : f.kind.Carrier}
    {row : Row fields} :
    (∃ s', readItems expected (f :: fields) index s = .ok ((c, row), s') ∧
        endList s' = .ok rest') ↔
      v = f.kind.toValue c ∧
        ∃ s', readItems expected fields (index + 1) (tail ++ closeBracket :: rest) =
          .ok (row, s') ∧ endList s' = .ok rest' := by
  have hread : ∀ {c : f.kind.Carrier} {s' : Bytes},
      f.kind.read (t ++ (tail ++ closeBracket :: rest)) = .ok (c, s') ↔
        s' = tail ++ closeBracket :: rest ∧ v = f.kind.toValue c := by
    intro c s'
    rw [← valueText_toValue_iff ht]
    exact Kind.read_append_iff blanks_nil ht.any.skippable (endsLiteral_itemsTail htail rest)
  rw [readItems]
  simp only [hnext, bind, Except.bind]
  constructor
  · rintro ⟨s', h, hend⟩
    split at h
    · contradiction
    · next p hvalue =>
        obtain ⟨c', s₁⟩ := p
        obtain ⟨rfl, rfl⟩ := hread.mp hvalue
        split at h
        · contradiction
        · next p hitems =>
            obtain ⟨row', s₂⟩ := p
            injection h with h
            injection h with hrow hs'
            injection hrow with hc hrow
            subst hc hrow hs'
            exact ⟨rfl, s₂, hitems, hend⟩
  · rintro ⟨hv, s', hitems, hend⟩
    refine ⟨s', ?_, hend⟩
    simp only [hread.mpr ⟨rfl, hv⟩, hitems]
    rfl

theorem readItems_blanks_iff (index : Nat) {inner rest rest' : Bytes} (hinner : Blanks inner)
    {row : Row fields} :
    (∃ s', readItems expected fields index (inner ++ closeBracket :: rest) = .ok (row, s') ∧
        endList s' = .ok rest') ↔
      rest' = rest ∧ [] = (Row.values fields row).map Prod.snd := by
  cases fields with
  | nil => simp [readItems, endList_blanks_append hinner, Row.values, eq_comm]
  | cons f fs =>
      have hnext : nextItem (index = 0) (inner ++ closeBracket :: rest) = .ok (false, rest) :=
        nextItem_eq_closed_iff.mpr ⟨inner, hinner, rfl⟩
      simp [readItems, hnext, bind, Except.bind, Row.values]

/-- Where no field is left, no item may follow. -/
theorem not_readItems_nil {index : Nat} {front s rest' : Bytes} (hfront : Blanks front)
    (hs : BeginsItem s) {row : Row []} :
    ¬∃ s', readItems expected [] index (front ++ s) = .ok (row, s') ∧ endList s' = .ok rest' := by
  rintro ⟨s', h, hend⟩
  injection h with h
  injection h with _ hs'
  subst hs'
  exact endList_ne_ok hfront hs hend

theorem readItems_tail_iff {index : Nat} (hindex : index ≠ 0) {tail rest rest' : Bytes}
    {vs : List Value} (htail : ItemsTail depth tail vs) {row : Row fields} :
    (∃ s', readItems expected fields index (tail ++ closeBracket :: rest) = .ok (row, s') ∧
        endList s' = .ok rest') ↔
      rest' = rest ∧ vs = (Row.values fields row).map Prod.snd := by
  induction fields generalizing index tail vs with
  | nil =>
      cases htail with
      | nil hback => exact readItems_blanks_iff index hback
      | @cons back s _ hback hitems =>
          have hbegins : BeginsItem (comma :: s ++ closeBracket :: rest) :=
            ⟨comma, _, rfl, rfl, by decide⟩
          rw [List.append_assoc]
          refine ⟨fun h => absurd h (not_readItems_nil hback hbegins), ?_⟩
          rintro ⟨-, rfl⟩
          exact absurd hitems itemsText_ne_nil
  | cons f fs ih =>
      cases htail with
      | nil hback => exact readItems_blanks_iff index hback
      | @cons back s _ hback hitems =>
          obtain ⟨c, row⟩ := row
          cases vs with
          | nil => exact absurd hitems itemsText_ne_nil
          | cons v vs =>
              obtain ⟨front, t, tail, hfront, ht, htail, rfl⟩ := itemsText_cons_iff.mp hitems
              obtain ⟨b, u, rfl, hb⟩ := valueText_begins ht
              have hnext : nextItem (index = 0)
                  (back ++ comma :: (front ++ (b :: u) ++ tail) ++ closeBracket :: rest) =
                    .ok (true, b :: u ++ (tail ++ closeBracket :: rest)) := by
                rw [decide_eq_false hindex]
                exact nextItem_later_iff.mpr ⟨⟨b, _, rfl, hb⟩, back, front, hback, hfront, by simp⟩
              rw [readItems_item_iff hnext ht htail, ih (Nat.succ_ne_zero index) htail,
                Row.values, List.map_cons, List.cons.injEq]
              exact and_left_comm

theorem readItems_items_iff {inner rest rest' : Bytes} {vs : List Value}
    (hinner : ItemsText depth inner vs) {row : Row fields} :
    (∃ s', readItems expected fields 0 (inner ++ closeBracket :: rest) = .ok (row, s') ∧
        endList s' = .ok rest') ↔
      rest' = rest ∧ vs = (Row.values fields row).map Prod.snd := by
  cases vs with
  | nil => exact absurd hinner itemsText_ne_nil
  | cons v vs =>
      obtain ⟨front, t, tail, hfront, ht, htail, rfl⟩ := itemsText_cons_iff.mp hinner
      obtain ⟨b, u, rfl, hb⟩ := valueText_begins ht
      have hbegins : BeginsItem (b :: u ++ (tail ++ closeBracket :: rest)) := ⟨b, _, rfl, hb⟩
      have hbytes : front ++ (b :: u) ++ tail ++ closeBracket :: rest =
          front ++ (b :: u ++ (tail ++ closeBracket :: rest)) := by simp
      rw [hbytes]
      cases fields with
      | nil =>
          refine ⟨fun h => absurd h (not_readItems_nil hfront hbegins), ?_⟩
          rintro ⟨-, h⟩
          contradiction
      | cons f fs =>
          obtain ⟨c, row⟩ := row
          have hnext : nextItem (0 = 0) (front ++ (b :: u ++ (tail ++ closeBracket :: rest))) =
              .ok (true, b :: u ++ (tail ++ closeBracket :: rest)) :=
            nextItem_first_iff.mpr ⟨hbegins, front, hfront, rfl⟩
          rw [readItems_item_iff hnext ht htail, readItems_tail_iff (Nat.succ_ne_zero 0) htail,
            Row.values, List.map_cons, List.cons.injEq]
          exact and_left_comm

end Lists

theorem readRecord_list_iff {fuel : Nat} {schema : Schema} {front s rest : Bytes}
    {row : Row schema.fields} (hfront : Blanks front) :
    readRecord fuel schema (front ++ openBracket :: s) = .ok (row, rest) ↔
      ∃ s', readItems schema.lengthExpectation schema.fields 0 s = .ok (row, s') ∧
        endList s' = .ok rest := by
  have hskip : skipBlanks (front ++ openBracket :: s) = openBracket :: s :=
    skipBlanks_eq_cons_iff.mpr ⟨rfl, front, hfront, rfl⟩
  simp only [readRecord, hskip, show Start.of openBracket = .list from rfl]
  rw [bind_eq_ok_iff]
  constructor
  · rintro ⟨⟨row', s'⟩, hitems, h⟩
    obtain ⟨rest', hend, h⟩ := bind_eq_ok_iff.mp h
    injection h with h
    injection h with hrow hrest
    subst hrow hrest
    exact ⟨s', hitems, hend⟩
  · rintro ⟨s', hitems, hend⟩
    exact ⟨_, hitems, bind_eq_ok_iff.mpr ⟨rest, hend, rfl⟩⟩

/-- A record is read from a list exactly when its items are the values of the fields. -/
theorem Schema.parse_list_iff {schema : Schema} {depth : Nat} {text : Bytes} {items : List Value}
    (h : Document depth text (.list items)) {row : Row schema.fields} :
    schema.parse text = .ok row ↔ items = (Row.values schema.fields row).map Prod.snd := by
  obtain ⟨front, inner, back, hfront, hback, hinner, rfl⟩ : ∃ front inner back, Blanks front ∧
      Blanks back ∧ (∀ {rest'}, (∃ s', readItems schema.lengthExpectation schema.fields 0
          (inner ++ closeBracket :: back) = .ok (row, s') ∧ endList s' = .ok rest') ↔
        rest' = back ∧ items = (Row.values schema.fields row).map Prod.snd) ∧
      text = front ++ openBracket :: (inner ++ closeBracket :: back) := by
    cases h with
    | @mk front t back _ hfront ht hback =>
        cases ht with
        | @emptyList _ inner hinner =>
            exact ⟨front, inner, back, hfront, hback, readItems_blanks_iff 0 hinner, by simp⟩
        | @list _ inner _ hinner =>
            exact ⟨front, inner, back, hfront, hback, readItems_items_iff hinner, by simp⟩
  simp only [Schema.parse_iff_readRecord, readRecord_list_iff hfront, hinner]
  constructor
  · rintro ⟨rest', ⟨-, hitems⟩, -⟩
    exact hitems
  · intro hitems
    exact ⟨back, ⟨rfl, hitems⟩, hback⟩

/-! ## Objects -/

theorem SpelledMembers.exists_texts {depth : Nat} {s : Bytes} {members : List (String × Bytes)}
    (h : SpelledMembers depth s members) :
    ∃ texts, members ≠ [] ∧ List.Forall₂ MemberText members texts ∧
      s = [comma].intercalate texts := by
  induction h with
  | last hfront hname hmiddle hafter ht hback =>
      exact ⟨[_], nofun,
        .cons (.mk hfront hname hmiddle hafter ht.any.skippable hback) .nil, by simp⟩
  | cons hfront hname hmiddle hafter ht hback _ ih =>
      obtain ⟨texts, hne, htexts, rfl⟩ := ih
      refine ⟨_ :: texts, nofun,
        .cons (.mk hfront hname hmiddle hafter ht.any.skippable hback) htexts, ?_⟩
      cases htexts with
      | nil => exact absurd rfl hne
      | cons => simp [List.intercalate_cons_cons]

/-- Of an object whose members are spelled so, a record is read exactly when each field names one
member, which says what the field holds. -/
theorem Schema.parse_objectText_iff {schema : Schema}
    (hnames : (schema.fields.map Field.name).Nodup) {depth : Nat} {text : Bytes}
    {spelled : List (String × Bytes)} (h : ObjectText depth text spelled)
    {row : Row schema.fields} :
    schema.parse text = .ok row ↔
      ∀ m ∈ Row.values schema.fields row,
        ∃ t, valuesNamed m.1 spelled = [t] ∧ FieldText t m.2 := by
  cases h with
  | empty hfront hblank hback => exact Schema.parse_body_iff hnames hfront (.empty hblank) hback
  | members hfront hspelled hback =>
      obtain ⟨texts, hne, htexts, rfl⟩ := hspelled.exists_texts
      exact Schema.parse_body_iff hnames hfront (.members hne htexts) hback

theorem Row.exists_toValue {fields : List Field} {row : Row fields} {m : String × Value}
    (hm : m ∈ Row.values fields row) : ∃ k : Kind, ∃ c : k.Carrier, m.2 = k.toValue c := by
  induction fields with
  | nil => contradiction
  | cons f fs ih =>
      obtain ⟨c, row⟩ := row
      rcases List.mem_cons.mp hm with rfl | hm
      · exact ⟨f.kind, c, rfl⟩
      · exact ih hm

/-- One member of a name is spelled and says what a field holds exactly when one member of this name
has that value. -/
theorem spelled_once_iff {depth : Nat} {spelled : List (String × Bytes)}
    {members : List (String × Value)} (h : List.Forall₂ (Spells depth) spelled members)
    (name : String) {k : Kind} {c : k.Carrier} :
    (∃ t, valuesNamed name spelled = [t] ∧ FieldText t (k.toValue c)) ↔
      valuesNamed name members = [k.toValue c] := by
  have hrel := valuesNamed_rel name h
  constructor
  · rintro ⟨t, hspelled, ht⟩
    rw [hspelled] at hrel
    obtain ⟨v, vs, hv, hvs, hvalues⟩ := List.forall₂_cons_left_iff.mp hrel
    cases hvs
    rw [hvalues, valueText_unique hv (fieldText_iff.mp ht)]
  · intro hvalues
    rw [hvalues] at hrel
    obtain ⟨t, ts, ht, hts, hspelled⟩ := List.forall₂_cons_right_iff.mp hrel
    cases hts
    exact ⟨t, hspelled, fieldText_iff.mpr ht⟩

/-! ## Agreement -/

/-- A value that presents these members: an object that names each of them once and with this value,
or the list of their values in their order. -/
inductive Presents (expected : List (String × Value)) : Value → Prop
  | object {members : List (String × Value)} :
      (∀ m ∈ expected, valuesNamed m.1 members = [m.2]) → Presents expected (.object members)
  | list : Presents expected (.list (expected.map Prod.snd))

theorem presents_object_iff {expected members : List (String × Value)} :
    Presents expected (.object members) ↔
      ∀ m ∈ expected, valuesNamed m.1 members = [m.2] := by
  constructor
  · intro h
    cases h with
    | object hmembers => exact hmembers
  · exact .object

theorem presents_list_iff {expected : List (String × Value)} {items : List Value} :
    Presents expected (.list items) ↔ items = expected.map Prod.snd := by
  constructor
  · intro h
    cases h
    rfl
  · rintro rfl
    exact .list

/-- Messages of a type are read from exactly those texts with a value whose value presents their
members, which have these names. -/
structure IsAgreed {α : Type} (names : List String) (members : α → List (String × Value))
    (parse : Bytes → Except Error α) : Prop where
  parse_iff : ∀ text v, Value.parse text = .ok v →
    ∀ a, parse text = .ok a ↔ Presents (members a) v
  /-- In the text of an object, each name is written once, with a text of what it stands for. -/
  object_iff : ∀ text spelled, ObjectText depthLimit text spelled →
    ∀ a, parse text = .ok a ↔
      ∀ m ∈ members a, ∃ t, valuesNamed m.1 spelled = [t] ∧ FieldText t m.2
  /-- Where a name is written again nothing is read, though the value has what comes last. -/
  repeated : ∀ text spelled name, ObjectText depthLimit text spelled → name ∈ names →
    2 ≤ (valuesNamed name spelled).length →
    (∀ a, parse text ≠ .ok a) ∧
      ∃ ms t v, Value.parse text = .ok (.object ms) ∧
        (valuesNamed name spelled).getLast? = some t ∧ ValueText depthLimit t v ∧
        lastMember? name ms = some v

/-- Only lists and objects are read as records. -/
theorem Schema.fits_of_parse {schema : Schema} {depth : Nat} {text : Bytes} {v : Value}
    (h : Document depth text v) {row : Row schema.fields} (hrow : schema.parse text = .ok row) :
    (∃ items, v = .list items) ∨ ∃ members, v = .object members := by
  cases h with
  | @mk front t back _ hfront ht hback =>
      obtain ⟨b, u, rfl, hb, -⟩ := valueText_begins ht
      have hskip : skipBlanks (front ++ (b :: u) ++ back) = b :: (u ++ back) :=
        skipBlanks_eq_cons_iff.mpr ⟨hb, front, hfront, by simp⟩
      have hfits := valueText_fits ht
      obtain ⟨rest, hread, -⟩ := Schema.parse_iff_readRecord.mp hrow
      simp only [readRecord, hskip] at hread
      split at hread
      · next hstart =>
          rw [hstart] at hfits
          exact .inl hfits
      · next hstart =>
          rw [hstart] at hfits
          exact .inr hfits
      · contradiction

theorem Schema.parse_iff_presents {schema : Schema}
    (hnames : (schema.fields.map Field.name).Nodup) {text : Bytes} {v : Value}
    (h : Value.parse text = .ok v) (row : Row schema.fields) :
    schema.parse text = .ok row ↔ Presents (Row.values schema.fields row) v := by
  have hdocument : Document depthLimit text v := parse_eq_ok_iff.mp h
  cases v with
  | object members =>
      have hinside : Document (126 + 1) text (.object members) := hdocument
      obtain ⟨spelled, hobject, hall⟩ := exists_objectText hinside
      rw [Schema.parse_objectText_iff hnames hobject, presents_object_iff]
      refine forall₂_congr fun m hm => ?_
      obtain ⟨k, c, hc⟩ := Row.exists_toValue hm
      rw [hc]
      exact spelled_once_iff hall m.1
  | list items => rw [Schema.parse_list_iff hdocument, presents_list_iff]
  | null | boolean | number | string =>
      constructor
      · intro hrow
        rcases Schema.fits_of_parse hdocument hrow with ⟨items, h⟩ | ⟨members, h⟩
        · contradiction
        · contradiction
      · intro h
        cases h

/-- A type of messages is agreed on if its messages are the rows of a schema. -/
theorem Schema.isAgreed {schema : Schema} (hnames : (schema.fields.map Field.name).Nodup)
    {α : Type} {row : α → Row schema.fields} {ofRow : Row schema.fields → α}
    (hofRow : ∀ r a, ofRow r = a ↔ r = row a) :
    IsAgreed (schema.fields.map Field.name) (fun a => Row.values schema.fields (row a))
      (fun text => (schema.parse text).map ofRow) := by
  have hparse : ∀ text a, (schema.parse text).map ofRow = .ok a ↔
      schema.parse text = .ok (row a) := by
    intro text a
    simp only [map_eq_ok_iff, hofRow, exists_eq_right]
  constructor
  case parse_iff =>
    intro text v h a
    rw [hparse, Schema.parse_iff_presents hnames h]
  case object_iff =>
    intro text spelled h a
    rw [hparse, Schema.parse_objectText_iff hnames h]
  case repeated =>
    intro text spelled name h hname htwice
    constructor
    · intro a ha
      rw [hparse, Schema.parse_objectText_iff hnames h] at ha
      rw [← Row.names_values (row a)] at hname
      obtain ⟨m, hm, rfl⟩ := List.mem_map.mp hname
      obtain ⟨t, ht, -⟩ := ha m hm
      rw [ht] at htwice
      contradiction
    · have hinside : ObjectText (126 + 1) text spelled := h
      obtain ⟨ms, hms, hall⟩ := hinside.exists_document
      have hne : valuesNamed name spelled ≠ [] := List.ne_nil_of_length_pos (by omega)
      have hlast := List.getLast?_eq_some_getLast hne
      rw [← lastMember?_eq_getLast?] at hlast
      obtain ⟨v, hv, ht⟩ := exists_lastNamed_of_spells hall (lastMember?_eq_some_iff.mp hlast)
      rw [lastMember?_eq_getLast?] at hlast
      exact ⟨ms, _, v, parse_eq_ok_iff.mpr hms, hlast, ht.mono (by decide),
        lastMember?_eq_some_iff.mpr hv⟩

end InvoiceGateway.Json
