import InvoiceGateway.Text.Basic
import Mathlib.Data.List.DropRight

/-! # What is left of a text without the blanks around it -/

namespace InvoiceGateway.Text

/-- A text of blanks, or of nothing. -/
def IsBlankText (s : String) : Prop :=
  ∀ c ∈ s.toList, isBlank c = true

/-- The second text is the first one without the blanks around it. -/
structure TrimsTo (s t : String) : Prop where
  surrounded : ∃ front back, IsBlankText front ∧ IsBlankText back ∧ s = front ++ t ++ back
  first : ∀ c, t.toList.head? = some c → isBlank c = false
  last : ∀ c, t.toList.getLast? = some c → isBlank c = false

/-! ## Characters -/

theorem isBlank_head_dropWhile {cs : List Char} {c : Char}
    (h : (cs.dropWhile isBlank).head? = some c) : isBlank c = false := by
  have hnot := List.head?_dropWhile_not isBlank cs
  rw [h] at hnot
  simpa using hnot

theorem head?_trimEnd {cs : List Char} {c : Char} (h : (trimEnd cs).head? = some c) :
    cs.head? = some c := by
  obtain ⟨back, hback⟩ := List.rdropWhile_prefix isBlank cs
  have hcs : trimEnd cs ++ back = cs := hback
  rw [← hcs, List.head?_append, h]
  rfl

theorem forall_isBlank_dropWhile_iff {cs : List Char} :
    (∀ c ∈ cs.dropWhile isBlank, isBlank c = true) ↔ ∀ c ∈ cs, isBlank c = true := by
  constructor
  · intro h
    refine List.dropWhile_eq_nil_iff.mp ?_
    cases hcs : cs.dropWhile isBlank with
    | nil => rfl
    | cons c rest =>
        have hfalse : isBlank c = false := isBlank_head_dropWhile (by rw [hcs]; rfl)
        rw [h c (by simp [hcs])] at hfalse
        contradiction
  · intro h c hc
    exact h c ((List.dropWhile_sublist isBlank).subset hc)

/-! ## Texts -/

theorem trimsTo_trim (s : String) : TrimsTo s (trim s) where
  surrounded := by
    refine ⟨.ofList (s.toList.takeWhile isBlank),
      .ofList ((s.toList.dropWhile isBlank).rtakeWhile isBlank), ?_, ?_, ?_⟩
    · intro c hc
      rw [String.toList_ofList] at hc
      exact List.mem_takeWhile_imp hc
    · intro c hc
      rw [String.toList_ofList] at hc
      exact List.mem_rtakeWhile_imp hc
    · have hend : trimEnd (s.toList.dropWhile isBlank) ++
          (s.toList.dropWhile isBlank).rtakeWhile isBlank = s.toList.dropWhile isBlank :=
        List.rdropWhile_append_rtakeWhile
      rw [trim, ← String.ofList_append, ← String.ofList_append, List.append_assoc, hend,
        List.takeWhile_append_dropWhile, String.ofList_toList]
  first := by
    intro c hc
    rw [trim, String.toList_ofList] at hc
    exact isBlank_head_dropWhile (head?_trimEnd hc)
  last := by
    intro c hc
    rw [trim, String.toList_ofList, trimEnd, List.getLast?_reverse] at hc
    exact isBlank_head_dropWhile hc

theorem trim_eq_empty_iff {s : String} : trim s = "" ↔ IsBlankText s := by
  have hend : trimEnd (s.toList.dropWhile isBlank) = [] ↔
      ∀ c ∈ s.toList.dropWhile isBlank, isBlank c = true :=
    List.rdropWhile_eq_nil_iff
  rw [trim, String.ofList_eq_empty_iff, hend]
  exact forall_isBlank_dropWhile_iff

end InvoiceGateway.Text
