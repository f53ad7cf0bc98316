import InvoiceGateway.Proofs.Json.Documents

/-! # Where a text ends -/

namespace InvoiceGateway.Json

/-! ## What may follow a value -/

/-- Whatever stands behind the text of a value that is no number has to be blank. -/
theorem document_append_iff {depth : Nat} {front t : Bytes} {v w : Value}
    (hv : ∀ n, v ≠ .number n) (hfront : Blanks front) (ht : ValueText depth t v) (rest : Bytes) :
    Document depth (front ++ t ++ rest) w ↔ w = v ∧ Blanks rest := by
  constructor
  · intro h
    generalize hs : front ++ t ++ rest = s at h
    cases h with
    | @mk front' t' back _ hfront' ht' hback =>
        -- The reader goes through the same bytes, so it stops at the end of both texts.
        have hends : EndsValue v rest := fun n hn => absurd hn (hv n)
        have hends' : EndsLiteral back := by
          have h := endsLiteral_blanks_append hback endsLiteral_nil
          rwa [List.append_nil] at h
        have hsize : t.length ≤ (front' ++ t' ++ back).length := by
          rw [← hs]
          simp only [List.length_append]
          omega
        have hsize' : t'.length ≤ (front' ++ t' ++ back).length := by
          simp only [List.length_append]
          omega
        have hread := isComplete_value (front' ++ t' ++ back).length depth
        have h₁ := hread front t v rest hfront ht hsize hends
        have h₂ := hread front' t' w back hfront' ht' hsize' (hends'.endsValue w)
        rw [hs, h₂] at h₁
        injection h₁ with h₁
        injection h₁ with hw hrest
        exact ⟨hw, hrest ▸ hback⟩
  · rintro ⟨rfl, hrest⟩
    exact .mk hfront ht hrest

theorem Document.surround {depth : Nat} {front s back : Bytes} {v : Value} (hfront : Blanks front)
    (h : Document depth s v) (hback : Blanks back) : Document depth (front ++ s ++ back) v := by
  cases h with
  | @mk front' t back' _ hfront' ht hback' =>
      have h := Document.mk (blanks_append hfront hfront') ht (blanks_append hback' hback)
      simpa using h

theorem Document.not_blanks {depth : Nat} {s : Bytes} {v : Value} (h : Document depth s v) :
    ¬Blanks s := by
  cases h with
  | @mk front t back _ _ ht _ =>
      obtain ⟨b, u, rfl, hb, -⟩ := valueText_begins ht
      intro hblank
      rw [hblank b (by simp)] at hb
      contradiction

/-! ## First bytes -/

/-- What the first byte of its text tells about a value: whether it is a list or an object. -/
def Start.Fits : Start → Value → Prop
  | .list, v => ∃ items, v = .list items
  | .object, v => ∃ members, v = .object members
  | _, v => (∀ items, v ≠ .list items) ∧ ∀ members, v ≠ .object members

theorem valueText_fits {depth : Nat} {b : UInt8} {s : Bytes} {v : Value}
    (h : ValueText depth (b :: s) v) : (Start.of b).Fits v := by
  generalize ht : b :: s = t at h
  cases h with
  | null | true | false =>
      obtain ⟨rfl, -⟩ := List.cons.inj ht
      exact ⟨nofun, nofun⟩
  | number hliteral _ =>
      obtain ⟨c, u, rfl, hc⟩ := hliteral.exists_first
      obtain ⟨rfl, -⟩ := List.cons.inj ht
      rcases hc with rfl | hdigit
      · exact ⟨nofun, nofun⟩
      · rw [start_of_digit hdigit]
        exact ⟨nofun, nofun⟩
  | string hstring =>
      cases hstring with
      | mk _ =>
          obtain ⟨rfl, -⟩ := List.cons.inj ht
          exact ⟨nofun, nofun⟩
  | emptyList _ | list _ | emptyObject _ | object _ =>
      obtain ⟨rfl, -⟩ := List.cons.inj ht
      exact ⟨_, rfl⟩

/-! ## Objects -/

/-- A text whose value is an object stands between two braces. -/
theorem Document.exists_braces {depth : Nat} {s : Bytes} {members : List (String × Value)}
    (h : Document depth s (.object members)) :
    ∃ front inner back, Blanks front ∧
      ValueText depth (openBrace :: inner ++ [closeBrace]) (.object members) ∧ Blanks back ∧
        s = front ++ openBrace :: inner ++ closeBrace :: back := by
  cases h with
  | @mk front t back _ hfront ht hback =>
      have hbraces : ∃ inner, t = openBrace :: inner ++ [closeBrace] := by
        cases ht with
        | emptyObject _ => exact ⟨_, rfl⟩
        | object _ => exact ⟨_, rfl⟩
      obtain ⟨inner, rfl⟩ := hbraces
      exact ⟨front, inner, back, hfront, ht, hback, by simp⟩

/-- A part of the text of an object that stops before the closing brace is no text. -/
theorem not_document_of_part {depth : Nat} {front inner part : Bytes}
    {members : List (String × Value)} (hfront : Blanks front)
    (hobject : ValueText depth (openBrace :: inner ++ [closeBrace]) (.object members))
    (hpart : part <+: front ++ openBrace :: inner) (v : Value) : ¬Document depth part v := by
  intro h
  obtain ⟨cut, hcut⟩ := hpart
  cases h with
  | @mk front' t back _ hfront' ht hback =>
      obtain ⟨b, u, rfl, hb, -⟩ := valueText_begins ht
      -- The part begins as the whole does, so it would have to be an object that ends too early.
      have hopen : skipBlanks (front ++ openBrace :: inner) = openBrace :: inner :=
        skipBlanks_eq_cons_iff.mpr ⟨rfl, front, hfront, rfl⟩
      have hbegins : skipBlanks (front ++ openBrace :: inner) = b :: (u ++ back ++ cut) :=
        skipBlanks_eq_cons_iff.mpr ⟨hb, front', hfront', by simp [← hcut]⟩
      obtain ⟨rfl, -⟩ := List.cons.inj (hbegins.symm.trans hopen)
      obtain ⟨members', rfl⟩ : ∃ members', v = .object members' := valueText_fits ht
      have hwhole : Document depth (front' ++ (openBrace :: u) ++ (back ++ cut ++ [closeBrace]))
          (.object members) := by
        have h := Document.mk hfront hobject blanks_nil
        rw [List.append_nil, ← List.append_assoc, ← hcut] at h
        simpa using h
      have hblank := ((document_append_iff (by nofun) hfront' ht _).mp hwhole).2
      exact absurd (hblank closeBrace (by simp)) (by decide)

end InvoiceGateway.Json
