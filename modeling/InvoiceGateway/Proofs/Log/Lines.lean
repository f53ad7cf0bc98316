import InvoiceGateway.Log.Event

/-! # Events that are one line -/

namespace InvoiceGateway.Text

theorem append_append_of_eq {s t head : String} (h : s ++ t = head) (rest : String) :
    s ++ (t ++ rest) = head ++ rest := by
  rw [← String.append_assoc, h]

/-! ## Printable texts -/

/-- A text of printable characters of ASCII. -/
def IsPrintable (s : String) : Prop :=
  ∀ c ∈ s.toList, 0x20 ≤ c.toNat ∧ c.toNat ≤ 0x7E

theorem isPrintable_ofList {cs : List Char}
    (h : cs.all fun c => decide (0x20 ≤ c.toNat ∧ c.toNat ≤ 0x7E)) :
    IsPrintable (String.ofList cs) := by
  simpa only [IsPrintable, String.toList_ofList, List.all_eq_true, decide_eq_true_eq] using h

@[simp]
theorem isPrintable_append_iff {s t : String} :
    IsPrintable (s ++ t) ↔ IsPrintable s ∧ IsPrintable t := by
  simp only [IsPrintable, String.toList_append, List.forall_mem_append]

@[simp]
theorem isPrintable_toString (n : Nat) : IsPrintable (toString n) := by
  intro c hc
  rw [Nat.toString_eq_repr, Nat.toList_repr] at hc
  have hdigit := Nat.isDigit_of_mem_toDigits (by decide) (by decide) hc
  rw [Char.isDigit_iff_toNat] at hdigit
  exact ⟨Nat.le_trans (by decide) hdigit.1, Nat.le_trans hdigit.2 (by decide)⟩

theorem IsPrintable.not_mem {s : String} (h : IsPrintable s) : '\n' ∉ s.toList := by
  intro hmem
  exact absurd (h '\n' hmem).1 (by decide)

/-- A printable text is a single line. -/
theorem lines_eq_singleton {s : String} (h : IsPrintable s) (hne : s ≠ "") : lines s = [s] := by
  have hpieces : (s.toList.splitOn '\n').map String.ofList = [s] := by
    rw [List.splitOn_eq_singleton h.not_mem, List.map_singleton, String.ofList_toList]
  have hempty : s.isEmpty = false := by simpa using hne
  simp [lines, hpieces, hempty]

end InvoiceGateway.Text

namespace InvoiceGateway.Log

theorem Level.isPrintable_word (l : Level) : Text.IsPrintable l.word := by
  cases l <;> exact Text.isPrintable_ofList (by decide)

namespace Event

theorem isPrintable_source (e : Event) : Text.IsPrintable e.source := by
  cases e <;> exact Text.isPrintable_ofList (by decide)

/-- The line of an event whose text does not break it. -/
def line (e : Event) : String :=
  e.level.word ++ " " ++ e.source ++ ": " ++ e.text

theorem isPrintable_line {e : Event} (h : Text.IsPrintable e.text) : Text.IsPrintable e.line := by
  have hblank : Text.IsPrintable " " := Text.isPrintable_ofList (by decide)
  have hcolon : Text.IsPrintable ": " := Text.isPrintable_ofList (by decide)
  simp only [line, Text.isPrintable_append_iff, e.level.isPrintable_word, e.isPrintable_source, h,
    hblank, hcolon, and_self]

/-- The line begins with the word for the level, and so with no blank. -/
theorem line_begins (e : Event) :
    ∃ c cs, e.line.toList = c :: cs ∧ Text.isBlank c = false := by
  have hword : ∃ c cs, e.level.word.toList = c :: cs ∧ Text.isBlank c = false := by
    cases e.level with
    | error => exact ⟨'E', "RROR".toList, rfl, by decide +kernel⟩
    | warn => exact ⟨'W', "ARN".toList, rfl, by decide +kernel⟩
    | info => exact ⟨'I', "NFO".toList, rfl, by decide +kernel⟩
    | debug => exact ⟨'D', "EBUG".toList, rfl, by decide +kernel⟩
    | trace => exact ⟨'T', "RACE".toList, rfl, by decide +kernel⟩
  obtain ⟨c, cs, hcs, hc⟩ := hword
  exact ⟨c, cs ++ (" " ++ e.source ++ ": " ++ e.text).toList, by simp [line, hcs], hc⟩

/-- An event with a printable text is logged as its line. -/
theorem lines_of_isPrintable {e : Event} (h : Text.IsPrintable e.text) : e.lines = [e.line] := by
  obtain ⟨c, cs, hcs, hc⟩ := e.line_begins
  have hne : e.line ≠ "" := by
    intro hempty
    simp [hempty] at hcs
  have htrim : Text.trimStart e.line = e.line := by
    rw [Text.trimStart, hcs, List.dropWhile_cons_of_neg (by simp [hc]), ← hcs,
      String.ofList_toList]
  have hlines : Text.lines e.line = [e.line] := Text.lines_eq_singleton (isPrintable_line h) hne
  have htext : e.lines = (Text.lines e.line).map Text.trimStart := rfl
  rw [htext, hlines, List.map_singleton, htrim]

/-- The line of an event whose text is a message with details. -/
theorem lines_of_text {e : Event} (source : String) {message head details : String}
    (hprintable : Text.IsPrintable (head ++ details)) (hlevel : e.level = .debug)
    (hsource : e.source = source) (htext : e.text = message ++ details)
    (hhead : "DEBUG" ++ " " ++ source ++ ": " ++ message = head) : e.lines = [head ++ details] := by
  have hline : e.line = head ++ details := by
    rw [line, hlevel, hsource, htext]
    exact Text.append_append_of_eq hhead details
  rw [← hline, line] at hprintable
  rw [lines_of_isPrintable (Text.isPrintable_append_iff.mp hprintable).2, hline]

end Event

end InvoiceGateway.Log
