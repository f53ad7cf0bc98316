import InvoiceGateway.Proofs.Json.Agreement
import InvoiceGateway.Proofs.Json.Writing

/-! # Records are read back -/

namespace InvoiceGateway.Json

/-! ## The values that are written -/

theorem Kind.valueText_write {depth : Nat} (k : Kind) (v : k.Carrier) :
    ValueText depth (Bytes.ofString (k.write v)) (k.toValue v) := by
  cases k with
  | text => exact .string (stringText_quoteString v)
  | natural32 => exact valueText_natBytes (Nat.lt_trans v.toNat_lt (by decide))

theorem Row.spells_members {depth : Nat} {fields : List Field} (row : Row fields) :
    List.Forall₂ (fun w m => Spells depth (w.1, Bytes.ofString w.2) m)
      (Row.members fields row) (Row.values fields row) := by
  induction fields with
  | nil => exact .nil
  | cons f fs ih =>
      obtain ⟨v, vs⟩ := row
      exact .cons ⟨rfl, f.kind.valueText_write v⟩ (ih vs)

theorem Row.valueText_members {depth : Nat} {fields : List Field} (row : Row fields) :
    List.Forall₂ (fun t v => ValueText depth (Bytes.ofString t) v)
      ((Row.members fields row).map Prod.snd) ((Row.values fields row).map Prod.snd) := by
  induction fields with
  | nil => exact .nil
  | cons f fs ih =>
      obtain ⟨v, vs⟩ := row
      exact .cons (f.kind.valueText_write v) (ih vs)

/-! ## Reading them -/

/-- Of members with different names, each is the only one of its name. -/
theorem valuesNamed_of_nodup {α : Type} {members : List (String × α)}
    (h : (members.map Prod.fst).Nodup) {m : String × α} (hm : m ∈ members) :
    valuesNamed m.1 members = [m.2] := by
  induction members with
  | nil => contradiction
  | cons n members ih =>
      obtain ⟨hfresh, hlater⟩ := List.nodup_cons.mp h
      have hne : ∀ m' ∈ members, n.1 ≠ m'.1 := fun m' hm' hname =>
        hfresh (hname ▸ List.mem_map_of_mem hm')
      rw [valuesNamed_cons]
      rcases List.mem_cons.mp hm with rfl | hmem
      · have hnone : valuesNamed m.1 members = [] :=
          List.filterMap_eq_nil_iff.mpr fun m' hm' => if_neg (hne m' hm').symm
        rw [if_pos rfl, hnone]
        rfl
      · rw [if_neg (hne m hmem), ih hlater hmem]
        rfl

/-- The object that is written for a record whose fields have different names is read as that
record. -/
theorem Schema.parse_object {schema : Schema} (hnames : (schema.fields.map Field.name).Nodup)
    (row : Row schema.fields) :
    schema.parse (Bytes.ofString (schema.object row)) = .ok row := by
  have hdocument : Document depthLimit (Bytes.ofString (schema.object row))
      (.object (Row.values schema.fields row)) :=
    document_compactObject row.spells_members
  refine (Schema.parse_iff_presents hnames (parse_eq_ok_iff.mpr hdocument) row).mpr ?_
  rw [← Row.names_values row] at hnames
  exact .object fun m hm => valuesNamed_of_nodup hnames hm

/-- The array that is written for a record is read as that record. -/
theorem Schema.parse_array {schema : Schema} (row : Row schema.fields) :
    schema.parse (Bytes.ofString (schema.array row)) = .ok row := by
  have hdocument : Document depthLimit (Bytes.ofString (schema.array row))
      (.list ((Row.values schema.fields row).map Prod.snd)) :=
    document_compactList row.valueText_members
  exact (Schema.parse_list_iff hdocument).mpr rfl

/-! ## Both forms -/

/-- Messages of a type are written as objects and as arrays, both of them texts of their members,
and are read back from either. -/
structure IsFaithful {α : Type} (members : α → List (String × Value)) (object array : α → String)
    (parse : Bytes → Except Error α) : Prop where
  object_text : ∀ a, Document 1 (Bytes.ofString (object a)) (.object (members a))
  array_text : ∀ a, Document 1 (Bytes.ofString (array a)) (.list ((members a).map Prod.snd))
  parse_object : ∀ a, parse (Bytes.ofString (object a)) = .ok a
  parse_array : ∀ a, parse (Bytes.ofString (array a)) = .ok a
  /-- What was read, from whatever text, is written so that it is read and written again alike. -/
  rewritten : ∀ text a, parse text = .ok a →
    parse (Bytes.ofString (object a)) = .ok a ∧
      (parse (Bytes.ofString (object a))).map object = .ok (object a)

/-- A type of messages is faithful if its messages are the rows of a schema. -/
theorem Schema.isFaithful {schema : Schema} (hnames : (schema.fields.map Field.name).Nodup)
    {α : Type} {row : α → Row schema.fields} {ofRow : Row schema.fields → α}
    (hrow : ∀ a, ofRow (row a) = a) :
    IsFaithful (fun a => Row.values schema.fields (row a)) (fun a => schema.object (row a))
      (fun a => schema.array (row a)) (fun text => (schema.parse text).map ofRow) := by
  have hobject : ∀ a, (schema.parse (Bytes.ofString (schema.object (row a)))).map ofRow =
      .ok a := by
    intro a
    rw [Schema.parse_object hnames, Except.map, hrow]
  constructor
  case object_text =>
    intro a
    exact document_compactObject (row a).spells_members
  case array_text =>
    intro a
    exact document_compactList (row a).valueText_members
  case parse_object => exact hobject
  case parse_array =>
    intro a
    rw [Schema.parse_array, Except.map, hrow]
  case rewritten =>
    intro text a _
    exact ⟨hobject a, by rw [hobject a, Except.map]⟩

end InvoiceGateway.Json
