import InvoiceGateway.Proofs.Json.Nesting
import InvoiceGateway.Proofs.Packet.Precedence

/-! # What decides about an upload -/

namespace InvoiceGateway.Packet

open Json

/-! ## Tables -/

/-- The values that the members of an object give to the fields, if any. -/
def lastMembers (members : List (String × Value)) (f : Field) : Option Value :=
  lastMember? f.name members

/-- The members of the object with nothing but the values that a table gives to the fields. -/
def tableMembers (table : Field → Option Value) : List (String × Value) :=
  Field.all.filterMap fun f => (table f).map fun v => (f.name, v)

/-- The verdict on the object of a table. -/
def verdict (table : Field → Option Value) : Except Refusal Packet :=
  ofValue (.object (tableMembers table))

theorem Field.name_injective {f g : Field} (h : f.name = g.name) : f = g := by
  revert h
  cases f <;> cases g <;> decide

theorem lastMember?_filterMap (table : Field → Option Value) (f : Field) (fields : List Field) :
    lastMember? f.name (fields.filterMap fun g => (table g).map fun v => (g.name, v)) =
      if f ∈ fields then table f else none := by
  induction fields with
  | nil => rfl
  | cons g fields ih =>
      by_cases hg : g = f
      · subst hg
        cases htable : table g with
        | none => simpa [htable] using ih
        | some v =>
            rw [htable] at ih
            simp only [List.filterMap_cons, htable, Option.map_some, lastMember?_cons, ih,
              List.mem_cons_self, if_true]
            split <;> rfl
      · have hname : g.name ≠ f.name := fun h => hg (Field.name_injective h)
        have hmem : f ∈ g :: fields ↔ f ∈ fields := by simp [Ne.symm hg]
        simp only [hmem, ← ih]
        cases htable : table g with
        | none => simp [htable]
        | some v => simp [htable, lastMember?_cons_of_ne hname]

theorem lastMembers_tableMembers (table : Field → Option Value) :
    lastMembers (tableMembers table) = table := by
  funext f
  have hf : f ∈ Field.all := by cases f <;> decide
  exact (lastMember?_filterMap table f Field.all).trans (if_pos hf)

/-! ## The check of an object -/

theorem ofValue_eq_of_lastMembers_eq {members members' : List (String × Value)}
    (h : lastMembers members = lastMembers members') :
    ofValue (.object members) = ofValue (.object members') := by
  have hcheck : ∀ f, checkField members f = checkField members' f :=
    fun f => checkField_congr (congrFun h f)
  simp only [ofValue, hcheck]

theorem ofValue_eq_verdict (members : List (String × Value)) :
    ofValue (.object members) = verdict (lastMembers members) :=
  ofValue_eq_of_lastMembers_eq (lastMembers_tableMembers _).symm

/-- A refused object has a field that is refused for the same reason. -/
theorem exists_checkField_of_ofValue {members : List (String × Value)} {e : Refusal}
    (h : ofValue (.object members) = .error e) : ∃ f, checkField members f = .error e := by
  obtain ⟨f, hf, -⟩ := ofValue_eq_error_iff.mp h
  exact ⟨f, checkField_eq_error_iff.mpr hf⟩

/-- The refusal of a field names the field. -/
theorem refusal_of_checkField {members : List (String × Value)} {f : Field} {e : Refusal}
    (h : checkField members f = .error e) :
    e = .missingField f.name ∨ e = .wrongType f.name ∨ e = .outOfRange f.name f.max := by
  cases checkField_eq_error_iff.mp h with
  | missing _ => exact .inl rfl
  | wrongType _ _ => exact .inr (.inl rfl)
  | outOfRange _ _ => exact .inr (.inr rfl)

/-! ## Uploads that are objects -/

/-- The bytes are a text of the object with these members. -/
def Writes (s : Bytes) (members : List (String × Value)) : Prop :=
  ∃ depth, Document depth s (.object members)

/-- Lists and objects in the values of the members nest at most one hundred and twenty-six deep. -/
def FitsDepth (members : List (String × Value)) : Prop :=
  ∀ m ∈ members, NestsWithin 126 m.2

theorem ofUpload_of_writes {s : Bytes} {members : List (String × Value)} (h : Writes s members)
    (hdepth : FitsDepth members) : ofUpload s = ofValue (.object members) := by
  obtain ⟨depth, hdocument⟩ := h
  exact ofUpload_of_document (document_of_nestsWithin hdocument (.object hdepth))

/-- What is said about a text of members does not depend on how they are written. -/
structure IsJudged (s : Bytes) (members : List (String × Value)) : Prop where
  byTable : ofUpload s = verdict (lastMembers members)
  wellFormed : ∀ detail, ofUpload s ≠ .error (.malformedJson detail)
  isObject : ofUpload s ≠ .error .notAnObject
  /-- Members that do not count may change, and so may the way in which all are written. -/
  unchanged : ∀ s' members', Writes s' members' → FitsDepth members' →
    Relation.EqvGen (Revision (Field.all.map Field.name)) members members' →
    ofUpload s' = ofUpload s

/-- Every text of an object that does not nest too deep is judged by the last member of each
field's name. -/
theorem isJudged_of_writes {s : Bytes} {members : List (String × Value)} (h : Writes s members)
    (hdepth : FitsDepth members) : IsJudged s members := by
  have hvalue := ofUpload_of_writes h hdepth
  have hrefusal : ∀ e, ofUpload s = .error e → ∃ f : Field,
      e = .missingField f.name ∨ e = .wrongType f.name ∨ e = .outOfRange f.name f.max := by
    intro e he
    obtain ⟨f, hf⟩ := exists_checkField_of_ofValue (hvalue.symm.trans he)
    exact ⟨f, refusal_of_checkField hf⟩
  refine ⟨hvalue.trans (ofValue_eq_verdict members), ?_, ?_, ?_⟩
  · intro detail hmalformed
    obtain ⟨f, hf⟩ := hrefusal _ hmalformed
    simp at hf
  · intro hobject
    obtain ⟨f, hf⟩ := hrefusal _ hobject
    simp at hf
  · intro s' members' h' hdepth' hrevised
    rw [hvalue, ofUpload_of_writes h' hdepth']
    refine ofValue_eq_of_lastMembers_eq (funext fun f => ?_)
    have hf : f.name ∈ Field.all.map Field.name := by cases f <;> decide
    exact (lastMember?_eq_of_revised hrevised hf).symm

/-- An upload in which one name comes twice, another with an escape, and a third does not count. -/
def repeatedUpload : Bytes :=
  Bytes.ofString "\x7b\"amount\":null, \"sat\\u005fid\":\"2\",\"x\":[\x7b\x7d],\"amount\" :3\x7d"

def repeatedMembers : List (String × Value) :=
  [("amount", .null), ("sat_id", .string "2"), ("x", .list [.object []]),
    ("amount", .number (.natural 3))]

theorem isJudged_repeatedUpload :
    Writes repeatedUpload repeatedMembers ∧ FitsDepth repeatedMembers ∧
      IsJudged repeatedUpload repeatedMembers := by
  have hparse : Value.parse repeatedUpload = .ok (.object repeatedMembers) := by
    with_unfolding_all rfl
  have hwrites : Writes repeatedUpload repeatedMembers := ⟨depthLimit, parse_eq_ok_iff.mp hparse⟩
  have hdepth : FitsDepth repeatedMembers := by
    intro m hm
    simp only [repeatedMembers, List.mem_cons, List.not_mem_nil, or_false] at hm
    rcases hm with rfl | rfl | rfl | rfl
    · exact .null
    · exact .string
    · exact .list fun v hv => by
        rw [List.mem_singleton.mp hv]
        exact .object (by simp)
    · exact .number
  exact ⟨hwrites, hdepth, isJudged_of_writes hwrites hdepth⟩

end InvoiceGateway.Packet
