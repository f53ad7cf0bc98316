import InvoiceGateway.Proofs.Json.Objects
import Mathlib.Logic.Relation

/-! # Members that nobody asked for -/

namespace InvoiceGateway.Json

/-- The text of an object with these texts of its members, and with blanks around it. -/
def objectBytes (front : Bytes) (texts : List Bytes) (back : Bytes) : Bytes :=
  front ++ openBrace :: [comma].intercalate texts ++ closeBrace :: back

/-- One more member is put among the members of an object.  Its name is none of `names`, and its
value may nest to any depth and have numbers of any magnitude. -/
inductive Extension (names : List String) : Bytes → Bytes → Prop
  | mk {front back text t : Bytes} {name : String} {before after : List Bytes}
      {earlier later : List (String × Bytes)} :
      Blanks front → Blanks back → List.Forall₂ MemberText earlier before →
      List.Forall₂ MemberText later after → MemberText (name, t) text → AnyText t →
      name ∉ names →
      Extension names (objectBytes front (before ++ after) back)
        (objectBytes front (before ++ text :: after) back)

theorem valuesNamed_inserted {α : Type} {name key : String} (hkey : key ≠ name) (a : α)
    (earlier later : List (String × α)) :
    valuesNamed name (earlier ++ (key, a) :: later) = valuesNamed name (earlier ++ later) := by
  rw [valuesNamed_append, valuesNamed_cons, if_neg hkey, List.nil_append, valuesNamed_append]

theorem bodyText_intercalate {members : List (String × Bytes)} {texts : List Bytes}
    (h : List.Forall₂ MemberText members texts) :
    BodyText members ([comma].intercalate texts) := by
  cases members with
  | nil =>
      cases h
      exact .empty blanks_nil
  | cons m members => exact .members (List.cons_ne_nil m members) h

theorem Schema.parse_objectBytes_iff {schema : Schema}
    (hnames : (schema.fields.map Field.name).Nodup) {members : List (String × Bytes)}
    {texts : List Bytes} (htexts : List.Forall₂ MemberText members texts) {front back : Bytes}
    (hfront : Blanks front) (hback : Blanks back) {row : Row schema.fields} :
    schema.parse (objectBytes front texts back) = .ok row ↔
      ∀ m ∈ Row.values schema.fields row,
        ∃ t, valuesNamed m.1 members = [t] ∧ FieldText t m.2 :=
  Schema.parse_body_iff hnames hfront (bodyText_intercalate htexts) hback

/-- One more member changes nothing in what is read. -/
theorem Extension.parse_iff {schema : Schema} (hnames : (schema.fields.map Field.name).Nodup)
    {text text' : Bytes} (h : Extension (schema.fields.map Field.name) text text')
    (row : Row schema.fields) : schema.parse text' = .ok row ↔ schema.parse text = .ok row := by
  cases h with
  | @mk front back text t name before after earlier later hfront hback hbefore hafter htext _
      hname =>
      have hless : List.Forall₂ MemberText (earlier ++ later) (before ++ after) :=
        List.rel_append hbefore hafter
      have hmore : List.Forall₂ MemberText (earlier ++ (name, t) :: later)
          (before ++ text :: after) :=
        List.rel_append hbefore (.cons htext hafter)
      rw [Schema.parse_objectBytes_iff hnames hmore hfront hback,
        Schema.parse_objectBytes_iff hnames hless hfront hback]
      refine forall₂_congr fun m hm => ?_
      have hne : name ≠ m.1 := by
        rintro rfl
        rw [← Row.names_values row] at hname
        exact hname (List.mem_map_of_mem hm)
      rw [valuesNamed_inserted hne]

/-- Messages of a type that are read the same however many members are added to their texts, as long
as these have none of `names`. -/
structure IsExtensible {α : Type} (names : List String) (parse : Bytes → Except Error α) :
    Prop where
  /-- The text of an object that is read has members, so there are places for others. -/
  members : ∀ front s a, Blanks front → parse (front ++ openBrace :: s) = .ok a →
    ∃ members texts back, List.Forall₂ MemberText members texts ∧ Blanks back ∧
      front ++ openBrace :: s = objectBytes front texts back
  extended : ∀ text text', Relation.ReflTransGen (Extension names) text text' →
    ∀ a, parse text' = .ok a ↔ parse text = .ok a

/-- A type of messages is extensible if its messages are the rows of a schema. -/
theorem Schema.isExtensible {schema : Schema} (hnames : (schema.fields.map Field.name).Nodup)
    (hfields : schema.fields ≠ []) {α : Type} (ofRow : Row schema.fields → α) :
    IsExtensible (schema.fields.map Field.name) (fun text => (schema.parse text).map ofRow) := by
  constructor
  case members =>
    intro front s a hfront h
    obtain ⟨row, hrow, -⟩ := map_eq_ok_iff.mp h
    obtain ⟨members, body, back, hbody, hback, rfl⟩ := Schema.exists_body hfront hrow
    cases hbody with
    | members _ htexts => exact ⟨members, _, back, htexts, hback, by simp [objectBytes]⟩
    | empty hblank =>
        -- Some field has no member here, so nothing would have been read.
        have hnone : ∀ m ∈ Row.values schema.fields row, ∃ t, [] = [t] ∧ FieldText t m.2 := by
          rw [← List.cons_append, ← List.append_assoc] at hrow
          exact (Schema.parse_body_iff hnames hfront (.empty hblank) hback).mp hrow
        cases hvalues : Row.values schema.fields row with
        | nil =>
            have hnil := Row.names_values row
            rw [hvalues, List.map_nil, eq_comm, List.map_eq_nil_iff] at hnil
            exact absurd hnil hfields
        | cons m values =>
            obtain ⟨t, ht, -⟩ := hnone m (hvalues ▸ List.mem_cons_self)
            contradiction
  case extended =>
    intro text text' h a
    have hrows : ∀ row, schema.parse text' = .ok row ↔ schema.parse text = .ok row := by
      intro row
      induction h with
      | refl => exact Iff.rfl
      | tail _ hlast ih => exact (hlast.parse_iff hnames row).trans ih
    simp only [map_eq_ok_iff, hrows]

end InvoiceGateway.Json
