import InvoiceGateway.Json.Skip
import InvoiceGateway.Proofs.Json.Documents

/-! # Values that are left out

The texts that are left out are given by what has still to come inside the open brackets. -/

namespace InvoiceGateway.Json

/-! ## Strings -/

/-- What may stand between the quotes of a string that is left out. -/
inductive SkippedChars : Bytes → Prop
  | nil : SkippedChars []
  | plain {b : UInt8} {s : Bytes} : IsPlainByte b → SkippedChars s → SkippedChars (b :: s)
  | short {b : UInt8} {c : Char} {s : Bytes} :
      shortEscape? b = some c → SkippedChars s → SkippedChars (backslash :: b :: s)
  | code {a b c d : UInt8} {n : Nat} {s : Bytes} :
      hexQuad? a b c d = some n → SkippedChars s →
      SkippedChars (backslash :: 117 :: a :: b :: c :: d :: s)

theorem skipEscape_eq_ok {s rest : Bytes} (h : skipEscape s = .ok rest) :
    (∃ b c, shortEscape? b = some c ∧ s = b :: rest) ∨
      ∃ a b c d n, hexQuad? a b c d = some n ∧ s = 117 :: a :: b :: c :: d :: rest := by
  unfold skipEscape at h
  split at h
  · contradiction
  · next b t =>
      split at h
      · next c hc =>
          injection h with h
          exact .inl ⟨b, c, hc, by rw [h]⟩
      · split at h
        · next hb =>
            obtain ⟨⟨n, rest'⟩, hquad, rfl⟩ := map_eq_ok_iff.mp h
            obtain ⟨a, b', c, d, hn, rfl⟩ := hexQuad_eq_ok_iff.mp hquad
            exact .inr ⟨a, b', c, d, n, hn, by rw [hb]⟩
        · contradiction

theorem skipString_backslash {s rest : Bytes} (h : skipEscape s = .ok rest) :
    skipString (backslash :: s) = skipString rest := by
  rw [skipString]
  simp only [show backslash ≠ quote by decide, if_false, if_true]
  split
  · next fault hfault =>
      rw [h] at hfault
      contradiction
  · next rest' hrest => rw [Except.ok.inj (hrest.symm.trans h)]

theorem skipString_append {t : Bytes} (h : SkippedChars t) (rest : Bytes) :
    skipString (t ++ quote :: rest) = .ok rest := by
  induction h with
  | nil =>
      rw [List.nil_append, skipString]
      simp
  | @plain b s hb _ ih =>
      obtain ⟨hquote, hslash, hcontrol⟩ := hb
      rw [List.cons_append, skipString]
      simpa [hquote, hslash, hcontrol] using ih
  | @short b c s hb _ ih =>
      have hescape : skipEscape (b :: (s ++ quote :: rest)) = .ok (s ++ quote :: rest) := by
        simp [skipEscape, hb]
      rw [List.cons_append, List.cons_append, skipString_backslash hescape, ih]
  | @code a b c d n s hn _ ih =>
      have hescape : skipEscape (117 :: a :: b :: c :: d :: (s ++ quote :: rest)) =
          .ok (s ++ quote :: rest) := by
        simp [skipEscape, hexQuad, hn, show shortEscape? 117 = none by decide, Except.map]
      simp only [List.cons_append]
      rw [skipString_backslash hescape, ih]

theorem skipString_eq_ok_iff {s rest : Bytes} :
    skipString s = .ok rest ↔ ∃ t, SkippedChars t ∧ s = t ++ quote :: rest := by
  constructor
  · intro h
    fun_induction skipString s with
    | case1 => contradiction
    | case2 s =>
        injection h with h
        exact ⟨[], .nil, by rw [h]; rfl⟩
    | case3 => contradiction
    | case4 s s' hescape _ _ ih =>
        obtain ⟨t, ht, rfl⟩ := ih h
        rcases skipEscape_eq_ok hescape with ⟨b, c, hc, rfl⟩ | ⟨a, b, c, d, n, hn, rfl⟩
        · exact ⟨_, .short hc ht, rfl⟩
        · exact ⟨_, .code hn ht, rfl⟩
    | case5 => contradiction
    | case6 b s hquote hslash hcontrol ih =>
        obtain ⟨t, ht, rfl⟩ := ih h
        exact ⟨b :: t, .plain ⟨hquote, hslash, hcontrol⟩ ht, rfl⟩
  · rintro ⟨t, ht, rfl⟩
    exact skipString_append ht rest

/-! ## Values without parts -/

/-- A value without parts that is left out. -/
inductive SkippedScalar : Bytes → Prop
  | null : SkippedScalar (110 :: nullLetters)
  | true : SkippedScalar (116 :: trueLetters)
  | false : SkippedScalar (102 :: falseLetters)
  | number {s : Bytes} {l : Literal} : LiteralText s l → SkippedScalar s
  | string {s : Bytes} : SkippedChars s → SkippedScalar (quote :: s ++ [quote])

def Frame.opening : Frame → UInt8
  | .list => openBracket
  | .object => openBrace

theorem skipNumber_eq_ok {negative : Bool} {s rest : Bytes}
    (h : skipNumber negative s = .ok rest) :
    ∃ t, SkippedScalar (minusSign negative ++ t) ∧ s = t ++ rest := by
  obtain ⟨⟨l, rest'⟩, hl, rfl⟩ := map_eq_ok_iff.mp h
  obtain ⟨t, ht, rfl⟩ := literal_eq_ok hl
  exact ⟨t, .number ht, rfl⟩

theorem map_none_eq_ok_iff {r : Except Fault Bytes} {opened : Option Frame} {rest : Bytes} :
    r.map (fun s => ((none : Option Frame), s)) = .ok (opened, rest) ↔
      opened = none ∧ r = .ok rest := by
  cases r <;> simp [Except.map, eq_comm]

/-- What is read at the front of a value: a value without parts, or an opening bracket. -/
inductive SkippedStart : Option Frame → Bytes → Prop
  | scalar {s : Bytes} : SkippedScalar s → SkippedStart none s
  | opened (frame : Frame) : SkippedStart (some frame) [frame.opening]

theorem skippedStart_of_word {b : UInt8} {letters s rest : Bytes} {opened : Option Frame}
    (hb : SkippedScalar (b :: letters))
    (h : (word letters s).map (fun s => ((none : Option Frame), s)) = .ok (opened, rest)) :
    ∃ t, SkippedStart opened t ∧ b :: s = t ++ rest := by
  obtain ⟨rfl, hword⟩ := map_none_eq_ok_iff.mp h
  rw [word_eq_ok_iff.mp hword]
  exact ⟨_, .scalar hb, rfl⟩

theorem skippedStart_of_number {negative : Bool} {s rest : Bytes} {opened : Option Frame}
    (h : (skipNumber negative s).map (fun s => ((none : Option Frame), s)) = .ok (opened, rest)) :
    ∃ t, SkippedStart opened t ∧ minusSign negative ++ s = t ++ rest := by
  obtain ⟨rfl, hnumber⟩ := map_none_eq_ok_iff.mp h
  obtain ⟨t, ht, rfl⟩ := skipNumber_eq_ok hnumber
  exact ⟨_, .scalar ht, (List.append_assoc _ _ _).symm⟩

theorem skippedStart_of_string {s rest : Bytes} {opened : Option Frame}
    (h : (skipString s).map (fun s => ((none : Option Frame), s)) = .ok (opened, rest)) :
    ∃ t, SkippedStart opened t ∧ quote :: s = t ++ rest := by
  obtain ⟨rfl, hstring⟩ := map_none_eq_ok_iff.mp h
  obtain ⟨t, ht, rfl⟩ := skipString_eq_ok_iff.mp hstring
  exact ⟨_, .scalar (.string ht), by simp⟩

theorem skipStart_eq_ok {s rest : Bytes} {opened : Option Frame}
    (h : skipStart s = .ok (opened, rest)) :
    ∃ front t, Blanks front ∧ SkippedStart opened t ∧ s = front ++ t ++ rest := by
  unfold skipStart at h
  split at h
  · contradiction
  · next b s' hskip =>
      obtain ⟨-, front, hfront, rfl⟩ := skipBlanks_eq_cons_iff.mp hskip
      suffices htext : ∃ t, SkippedStart opened t ∧ b :: s' = t ++ rest by
        obtain ⟨t, ht, hs⟩ := htext
        exact ⟨front, t, hfront, ht, by rw [hs, List.append_assoc]⟩
      have hstart := isStart_of b
      clear hskip
      -- The first byte tells what was read past.
      generalize Start.of b = start at h hstart
      cases start with
      | null =>
          obtain rfl : b = 110 := hstart
          exact skippedStart_of_word .null h
      | true =>
          obtain rfl : b = 116 := hstart
          exact skippedStart_of_word .true h
      | false =>
          obtain rfl : b = 102 := hstart
          exact skippedStart_of_word .false h
      | minus =>
          obtain rfl : b = 45 := hstart
          exact skippedStart_of_number h
      | digit => exact skippedStart_of_number h
      | string =>
          obtain rfl : b = quote := hstart
          exact skippedStart_of_string h
      | list =>
          obtain rfl : b = openBracket := hstart
          injection h with h
          injection h with hopened hrest
          subst hopened hrest
          exact ⟨_, .opened .list, rfl⟩
      | object =>
          obtain rfl : b = openBrace := hstart
          injection h with h
          injection h with hopened hrest
          subst hopened hrest
          exact ⟨_, .opened .object, rfl⟩
      | other => contradiction

theorem skipStart_scalar_append {front t rest : Bytes} (hfront : Blanks front)
    (ht : SkippedScalar t) (hrest : EndsLiteral rest) :
    skipStart (front ++ t ++ rest) = .ok (none, rest) := by
  have hskip : ∀ b s, isBlank b = false → skipBlanks (front ++ b :: s) = b :: s := by
    intro b s hb
    exact skipBlanks_eq_cons_iff.mpr ⟨hb, front, hfront, rfl⟩
  rw [skipStart, List.append_assoc]
  cases ht with
  | null =>
      rw [List.cons_append, hskip 110 _ rfl]
      simp [show Start.of 110 = .null from rfl, word_append, Except.map]
  | true =>
      rw [List.cons_append, hskip 116 _ rfl]
      simp [show Start.of 116 = .true from rfl, word_append, Except.map]
  | false =>
      rw [List.cons_append, hskip 102 _ rfl]
      simp [show Start.of 102 = .false from rfl, word_append, Except.map]
  | @number _ l hliteral =>
      obtain ⟨u, rfl, hread⟩ := literal_append .invalidNumber hliteral hrest
      have hnumber : skipNumber l.negative (u ++ rest) = .ok rest := by
        rw [skipNumber, hread]
        rfl
      cases hnegative : l.negative with
      | true =>
          rw [hnegative] at hnumber
          rw [show minusSign true ++ u ++ rest = 45 :: (u ++ rest) from rfl, hskip 45 _ rfl]
          simp [show Start.of 45 = .minus from rfl, hnumber, Except.map]
      | false =>
          obtain ⟨d, ds, rfl, hd⟩ := literalText_begins hliteral rfl
          rw [hnegative] at hnumber
          rw [show minusSign false ++ (d :: ds) ++ rest = d :: (ds ++ rest) from rfl,
            hskip d _ (not_blank_of_isDigit hd).1]
          simp only [start_of_digit hd]
          rw [← List.cons_append, hnumber]
          rfl
  | @string chars hchars =>
      rw [List.append_assoc, List.cons_append, hskip quote _ rfl]
      simp [show Start.of quote = .string from rfl, skipString_append hchars, Except.map]

theorem skipStart_opening_append {front : Bytes} (hfront : Blanks front) (frame : Frame)
    (rest : Bytes) : skipStart (front ++ frame.opening :: rest) = .ok (some frame, rest) := by
  rw [skipStart, skipBlanks_append hfront]
  cases frame <;> rfl

/-! ## Inside brackets -/

/-- What stands before a value inside a bracket: blanks, and in an object a name and a colon. -/
inductive Entry : Frame → Bytes → Prop
  | item {front : Bytes} : Blanks front → Entry .list front
  | member {front name middle after : Bytes} :
      Blanks front → SkippedChars name → Blanks middle → Blanks after →
      Entry .object (front ++ quote :: name ++ quote :: middle ++ colonSign :: after)

/-- What is left to read inside open brackets, innermost first, up to the closing bracket of the
outermost.  Either a value has just been read there, or one has to come. -/
inductive Remainder : (afterValue : Bool) → List Frame → Bytes → Prop
  | done : Remainder true [] []
  | close {frame : Frame} {outer : List Frame} {back s : Bytes} :
      Blanks back → Remainder true outer s →
      Remainder true (frame :: outer) (back ++ frame.close :: s)
  | next {frame : Frame} {outer : List Frame} {back entry s : Bytes} :
      Blanks back → Entry frame entry → Remainder false (frame :: outer) s →
      Remainder true (frame :: outer) (back ++ comma :: entry ++ s)
  | scalar {stack : List Frame} {t s : Bytes} :
      SkippedScalar t → Remainder true stack s → Remainder false stack (t ++ s)
  | empty {frame : Frame} {stack : List Frame} {blank s : Bytes} :
      Blanks blank → Remainder true stack s →
      Remainder false stack (frame.opening :: blank ++ frame.close :: s)
  | nested {frame : Frame} {stack : List Frame} {entry s : Bytes} :
      Entry frame entry → Remainder false (frame :: stack) s →
      Remainder false stack (frame.opening :: entry ++ s)

/-- A value that is left out, without blanks around it. -/
def Skippable (t : Bytes) : Prop :=
  Remainder false [] t

theorem Remainder.begins {stack : List Frame} {t : Bytes} (h : Remainder false stack t) :
    BeginsItem t := by
  cases h with
  | scalar ht _ =>
      cases ht with
      | null => exact ⟨_, _, rfl, rfl, by decide⟩
      | true => exact ⟨_, _, rfl, rfl, by decide⟩
      | false => exact ⟨_, _, rfl, rfl, by decide⟩
      | @number t _ hliteral =>
          obtain ⟨b, u, rfl, hb⟩ := hliteral.beginsItem
          exact ⟨b, _, rfl, hb⟩
      | string _ => exact ⟨_, _, rfl, rfl, by decide⟩
  | @empty frame _ _ _ _ _ => cases frame <;> exact ⟨_, _, rfl, rfl, by decide⟩
  | @nested frame _ _ _ _ _ => cases frame <;> exact ⟨_, _, rfl, rfl, by decide⟩

theorem Remainder.endsLiteral {stack : List Frame} {s rest : Bytes} (h : Remainder true stack s)
    (hrest : EndsLiteral rest) : EndsLiteral (s ++ rest) := by
  cases h with
  | done => exact hrest
  | @close frame _ back _ hback _ =>
      rw [List.append_assoc]
      refine endsLiteral_blanks_append hback (endsLiteral_cons ?_)
      cases frame <;> simp [Frame.close]
  | next hback _ _ =>
      simp only [List.append_assoc, List.cons_append]
      exact endsLiteral_blanks_append hback (endsLiteral_cons (by simp))

/-! ## Reading what is left -/

theorem skipKey_eq_ok_iff {s rest : Bytes} :
    skipKey s = .ok rest ↔
      ∃ front name middle, Blanks front ∧ SkippedChars name ∧ Blanks middle ∧
        s = front ++ quote :: name ++ quote :: middle ++ colonSign :: rest := by
  constructor
  · intro h
    rw [skipKey] at h
    split at h
    · contradiction
    · next b t ht =>
        obtain ⟨-, front, hfront, rfl⟩ := skipBlanks_eq_cons_iff.mp ht
        split at h
        · next hb =>
            split at h
            · contradiction
            · next u hu =>
                obtain ⟨name, hname, rfl⟩ := skipString_eq_ok_iff.mp hu
                obtain ⟨middle, hmiddle, rfl⟩ := colon_eq_ok_iff.mp h
                exact ⟨front, name, middle, hfront, hname, hmiddle, by rw [hb]; simp⟩
        · contradiction
  · rintro ⟨front, name, middle, hfront, hname, hmiddle, rfl⟩
    have hskip : skipBlanks
        (front ++ quote :: name ++ quote :: middle ++ colonSign :: rest) =
          quote :: (name ++ quote :: (middle ++ colonSign :: rest)) :=
      skipBlanks_eq_cons_iff.mpr ⟨rfl, front, hfront, by simp⟩
    have hcolon : colon (middle ++ colonSign :: rest) = .ok rest :=
      colon_eq_ok_iff.mpr ⟨middle, hmiddle, rfl⟩
    simp only [skipKey, hskip, if_true, skipString_append hname, hcolon]

theorem Frame.enter_eq_ok {frame : Frame} {s rest : Bytes} (h : frame.enter s = .ok rest) :
    ∃ entry, s = entry ++ rest ∧
      ∀ front after, Blanks front → Blanks after → Entry frame (front ++ entry ++ after) := by
  cases frame with
  | list =>
      injection h with h
      refine ⟨[], h, fun front after hfront hafter => .item ?_⟩
      rw [List.append_nil]
      exact blanks_append hfront hafter
  | object =>
      obtain ⟨inner, name, middle, hinner, hname, hmiddle, rfl⟩ := skipKey_eq_ok_iff.mp h
      refine ⟨inner ++ quote :: name ++ quote :: middle ++ [colonSign], by simp,
        fun front after hfront hafter => ?_⟩
      simpa using Entry.member (blanks_append hfront hinner) hname hmiddle hafter

theorem Entry.enter {frame : Frame} {entry : Bytes} (h : Entry frame entry) (s : Bytes) :
    ∃ after, Blanks after ∧ frame.enter (entry ++ s) = .ok (after ++ s) := by
  cases h with
  | item hfront => exact ⟨entry, hfront, rfl⟩
  | @member front name middle after hfront hname hmiddle hafter =>
      exact ⟨after, hafter,
        skipKey_eq_ok_iff.mpr ⟨front, name, middle, hfront, hname, hmiddle, by simp⟩⟩

/-- Goes on inside the open brackets, after a value or where one has to come. -/
def proceed (fuel : Nat) : (afterValue : Bool) → List Frame → Bytes → Except Fault Bytes
  | false, stack, s => skipWithin fuel stack s
  | true, stack, s =>
      match resume stack true s with
      | .error fault => .error fault
      | .ok ([], s) => .ok s
      | .ok (frame :: outer, s) => skipWithin fuel (frame :: outer) s

theorem skipWithin_blanks (fuel : Nat) (stack : List Frame) {front : Bytes} (hfront : Blanks front)
    (s : Bytes) : skipWithin (fuel + 1) stack (front ++ s) = skipWithin (fuel + 1) stack s := by
  rw [skipWithin, skipWithin, skipStart, skipStart, skipBlanks_append hfront]

theorem proceed_close (fuel : Nat) (frame : Frame) (outer : List Frame) {back : Bytes}
    (hback : Blanks back) (s : Bytes) :
    proceed fuel true (frame :: outer) (back ++ frame.close :: s) = proceed fuel true outer s := by
  have hblank : isBlank frame.close = false ∧ frame.close ≠ comma := by cases frame <;> decide
  have hskip : skipBlanks (back ++ frame.close :: s) = frame.close :: s :=
    skipBlanks_eq_cons_iff.mpr ⟨hblank.1, back, hback, rfl⟩
  simp [proceed, resume, hskip, hblank.2]

theorem proceed_next (fuel : Nat) {frame : Frame} (outer : List Frame) {back entry : Bytes}
    (hback : Blanks back) (hentry : Entry frame entry) (s : Bytes) :
    proceed (fuel + 1) true (frame :: outer) (back ++ comma :: (entry ++ s)) =
      proceed (fuel + 1) false (frame :: outer) s := by
  have hskip : skipBlanks (back ++ comma :: (entry ++ s)) = comma :: (entry ++ s) :=
    skipBlanks_eq_cons_iff.mpr ⟨rfl, back, hback, rfl⟩
  obtain ⟨after, hafter, henter⟩ := hentry.enter s
  simp [proceed, resume, hskip, henter, Except.map, skipWithin_blanks fuel _ hafter]

theorem proceed_scalar (fuel : Nat) (stack : List Frame) {t s : Bytes} (ht : SkippedScalar t)
    (hs : EndsLiteral s) : proceed (fuel + 1) false stack (t ++ s) = proceed fuel true stack s := by
  have hstart := skipStart_scalar_append blanks_nil ht hs
  rw [List.nil_append] at hstart
  rw [proceed, skipWithin, hstart]
  rfl

theorem proceed_empty (fuel : Nat) (frame : Frame) (stack : List Frame) {blank : Bytes}
    (hblank : Blanks blank) (s : Bytes) :
    proceed (fuel + 1) false stack (frame.opening :: (blank ++ frame.close :: s)) =
      proceed fuel true stack s := by
  have hstart := skipStart_opening_append blanks_nil frame (blank ++ frame.close :: s)
  have hclose : isBlank frame.close = false := by cases frame <;> rfl
  have hskip : skipBlanks (blank ++ frame.close :: s) = frame.close :: s :=
    skipBlanks_eq_cons_iff.mpr ⟨hclose, blank, hblank, rfl⟩
  have hresume : resume (frame :: stack) false (blank ++ frame.close :: s) =
      resume stack true s := by
    simp [resume, hskip]
  rw [List.nil_append] at hstart
  rw [proceed, skipWithin, hstart]
  simp only [Option.toList_some, List.singleton_append, Option.isNone_some, hresume]
  rfl

/-- Once a bracket is opened, what stands before the first value is read. -/
theorem Entry.resume_eq {frame : Frame} {entry s : Bytes} (h : Entry frame entry)
    (outer : List Frame) (hs : BeginsItem s) :
    ∃ after, Blanks after ∧
      resume (frame :: outer) false (entry ++ s) = .ok (frame :: outer, after ++ s) := by
  cases h with
  | item hfront =>
      obtain ⟨b, t, rfl, hb, hclose⟩ := hs
      have hskip : skipBlanks (entry ++ b :: t) = b :: t :=
        skipBlanks_eq_cons_iff.mpr ⟨hb, entry, hfront, rfl⟩
      refine ⟨[], blanks_nil, ?_⟩
      simp [resume, hskip, hclose, Frame.close, Frame.enter, Except.map]
  | @member front name middle after hfront hname hmiddle hafter =>
      let inner := name ++ quote :: (middle ++ colonSign :: (after ++ s))
      have hskip : skipBlanks
          (front ++ quote :: name ++ quote :: middle ++ colonSign :: after ++ s) =
            quote :: inner :=
        skipBlanks_eq_cons_iff.mpr ⟨rfl, front, hfront, by simp [inner]⟩
      have hkey : skipKey (quote :: inner) = .ok (after ++ s) :=
        skipKey_eq_ok_iff.mpr ⟨[], name, middle, blanks_nil, hname, hmiddle, by simp [inner]⟩
      have hclose : quote ≠ closeBrace := by decide
      refine ⟨after, hafter, ?_⟩
      rw [resume, hskip]
      simp only [Bool.false_and, Bool.false_eq_true, if_false, Frame.close, if_neg hclose,
        Frame.enter, hkey, Except.map]

theorem proceed_nested (fuel : Nat) {frame : Frame} (stack : List Frame) {entry s : Bytes}
    (hentry : Entry frame entry) (hs : BeginsItem s) :
    proceed (fuel + 2) false stack (frame.opening :: (entry ++ s)) =
      proceed (fuel + 1) false (frame :: stack) s := by
  have hstart := skipStart_opening_append blanks_nil frame (entry ++ s)
  obtain ⟨after, hafter, hresume⟩ := hentry.resume_eq stack hs
  rw [List.nil_append] at hstart
  rw [proceed, skipWithin, hstart]
  simp only [Option.toList_some, List.singleton_append, Option.isNone_some, hresume,
    skipWithin_blanks fuel _ hafter]
  rfl

/-- What is left is read to its end, given more rounds than it has bytes. -/
theorem Remainder.proceed_append {afterValue : Bool} {stack : List Frame} {s : Bytes}
    (h : Remainder afterValue stack s) {rest : Bytes} (hrest : EndsLiteral rest) {fuel : Nat}
    (hfuel : s.length < fuel) : proceed fuel afterValue stack (s ++ rest) = .ok rest := by
  induction h generalizing fuel with
  | done => rfl
  | close hback hs ih =>
      rw [List.append_assoc, List.cons_append, proceed_close fuel _ _ hback]
      simp only [List.length_append, List.length_cons] at hfuel
      exact ih (by omega)
  | next hback hentry hs ih =>
      obtain ⟨fuel, rfl⟩ := Nat.exists_eq_add_one.mpr (Nat.zero_lt_of_lt hfuel)
      simp only [List.append_assoc, List.cons_append]
      rw [proceed_next fuel _ hback hentry]
      simp only [List.length_append, List.length_cons] at hfuel
      exact ih (by omega)
  | scalar ht hs ih =>
      obtain ⟨fuel, rfl⟩ := Nat.exists_eq_add_one.mpr (Nat.zero_lt_of_lt hfuel)
      rw [List.append_assoc, proceed_scalar fuel _ ht (hs.endsLiteral hrest)]
      obtain ⟨b, u, hu, -⟩ := (Remainder.scalar ht .done).begins
      rw [List.append_nil] at hu
      simp only [hu, List.length_append, List.length_cons] at hfuel
      exact ih (by omega)
  | empty hblank hs ih =>
      obtain ⟨fuel, rfl⟩ := Nat.exists_eq_add_one.mpr (Nat.zero_lt_of_lt hfuel)
      simp only [List.append_assoc, List.cons_append]
      rw [proceed_empty fuel _ _ hblank]
      simp only [List.length_append, List.length_cons] at hfuel
      exact ih (by omega)
  | nested hentry hs ih =>
      simp only [List.length_append, List.length_cons] at hfuel
      obtain ⟨fuel, rfl⟩ := Nat.exists_eq_add_of_le' (show 2 ≤ fuel by omega)
      obtain ⟨b, u, hu, hb⟩ := hs.begins
      simp only [List.append_assoc, List.cons_append]
      rw [proceed_nested fuel _ hentry ⟨b, u ++ rest, by rw [hu]; rfl, hb⟩]
      exact ih (by omega)

theorem skipValue_append {front t rest : Bytes} (hfront : Blanks front) (ht : Skippable t)
    (hrest : EndsLiteral rest) {fuel : Nat} (hfuel : t.length < fuel) :
    skipValue fuel (front ++ t ++ rest) = .ok rest := by
  obtain ⟨fuel, rfl⟩ := Nat.exists_eq_add_one.mpr (Nat.zero_lt_of_lt hfuel)
  rw [skipValue, List.append_assoc, skipWithin_blanks fuel [] hfront]
  exact ht.proceed_append hrest hfuel

/-! ## What was read -/

/-- What is read once the stack of open brackets has become `stack`: nothing more, or the next value
with the blanks before it and all that follows it inside the brackets. -/
inductive Awaited : (stack : List Frame) → Bytes → Prop
  | nothing : Awaited [] []
  | value {frame : Frame} {outer : List Frame} {front t : Bytes} :
      Blanks front → Remainder false (frame :: outer) t → Awaited (frame :: outer) (front ++ t)

theorem resume_true_eq_ok {stack stack' : List Frame} {s rest : Bytes}
    (h : resume stack true s = .ok (stack', rest)) :
    ∃ u, s = u ++ rest ∧ ∀ w, Awaited stack' w → Remainder true stack (u ++ w) := by
  induction stack generalizing s with
  | nil =>
      injection h with h
      injection h with hstack hrest
      subst hstack hrest
      refine ⟨[], rfl, fun w hw => ?_⟩
      cases hw
      exact .done
  | cons frame outer ih =>
      rw [resume] at h
      split at h
      · contradiction
      · next b s₁ hskip =>
          obtain ⟨-, back, hback, rfl⟩ := skipBlanks_eq_cons_iff.mp hskip
          clear hskip
          split at h
          · next hb =>
              obtain ⟨s₂, henter, hpair⟩ := map_eq_ok_iff.mp h
              injection hpair with hstack hrest
              subst hstack hrest
              obtain ⟨entry, rfl, hentry⟩ := Frame.enter_eq_ok henter
              refine ⟨back ++ comma :: entry, by simp_all, fun w hw => ?_⟩
              cases hw with
              | value hfront ht =>
                  have h := Remainder.next hback (hentry [] _ blanks_nil hfront) ht
                  simpa using h
          · split at h
            · next hb =>
                obtain ⟨u, rfl, hu⟩ := ih h
                refine ⟨back ++ frame.close :: u, by simp [hb], fun w hw => ?_⟩
                rw [List.append_assoc]
                exact .close hback (hu w hw)
            · contradiction

theorem resume_false_eq_ok {frame : Frame} {outer stack' : List Frame} {s rest : Bytes}
    (h : resume (frame :: outer) false s = .ok (stack', rest)) :
    ∃ u, s = u ++ rest ∧
      ∀ w, Awaited stack' w → Remainder false outer (frame.opening :: (u ++ w)) := by
  rw [resume] at h
  split at h
  · contradiction
  · next b s₁ hskip =>
      obtain ⟨-, blank, hblank, rfl⟩ := skipBlanks_eq_cons_iff.mp hskip
      simp only [Bool.false_and, Bool.false_eq_true, if_false] at h
      split at h
      · next hb =>
          obtain ⟨u, rfl, hu⟩ := resume_true_eq_ok h
          refine ⟨blank ++ frame.close :: u, by simp [hb], fun w hw => ?_⟩
          have h := @Remainder.empty frame _ _ _ hblank (hu w hw)
          simpa using h
      · obtain ⟨s₂, henter, hpair⟩ := map_eq_ok_iff.mp h
        injection hpair with hstack hrest
        subst hstack hrest
        obtain ⟨entry, hs, hentry⟩ := Frame.enter_eq_ok henter
        refine ⟨blank ++ entry, by rw [hs, List.append_assoc], fun w hw => ?_⟩
        cases hw with
        | value hfront ht =>
            have h := Remainder.nested (hentry blank _ hblank hfront) ht
            simpa using h

theorem resume_eq_ok {opened : Option Frame} {start : Bytes} (hstart : SkippedStart opened start)
    {stack stack' : List Frame} {s rest : Bytes}
    (h : resume (opened.toList ++ stack) opened.isNone s = .ok (stack', rest)) :
    ∃ u, s = u ++ rest ∧ ∀ w, Awaited stack' w → Remainder false stack (start ++ (u ++ w)) := by
  cases hstart with
  | scalar ht =>
      obtain ⟨u, hs, hu⟩ := resume_true_eq_ok h
      exact ⟨u, hs, fun w hw => .scalar ht (hu w hw)⟩
  | opened frame => exact resume_false_eq_ok h

theorem skipWithin_eq_ok {fuel : Nat} {stack : List Frame} {s rest : Bytes}
    (h : skipWithin fuel stack s = .ok rest) :
    ∃ front t, Blanks front ∧ Remainder false stack t ∧ s = front ++ t ++ rest := by
  induction fuel generalizing stack s with
  | zero => contradiction
  | succ fuel ih =>
      rw [skipWithin] at h
      split at h
      · contradiction
      · next opened s₁ hs₁ =>
          obtain ⟨front, start, hfront, hstart, rfl⟩ := skipStart_eq_ok hs₁
          split at h
          · contradiction
          · next s₂ hresume =>
              injection h with h
              subst h
              obtain ⟨u, rfl, hu⟩ := resume_eq_ok hstart hresume
              exact ⟨front, _, hfront, hu [] .nothing, by simp⟩
          · next frame outer s₂ hresume =>
              obtain ⟨u, rfl, hu⟩ := resume_eq_ok hstart hresume
              obtain ⟨blank, t, hblank, ht, rfl⟩ := ih h
              exact ⟨front, _, hfront, hu _ (.value hblank ht), by simp⟩

/-- Only texts given by the rules are left out. -/
theorem skipValue_eq_ok {fuel : Nat} {s rest : Bytes} (h : skipValue fuel s = .ok rest) :
    ∃ front t, Blanks front ∧ Skippable t ∧ s = front ++ t ++ rest :=
  skipWithin_eq_ok h

/-! ## Values of the grammar -/

theorem AnyChars.skipped {s : Bytes} (h : AnyChars s) : SkippedChars s := by
  induction h with
  | nil => exact .nil
  | @plain c s hc _ ih =>
      have hplain : ∀ b ∈ String.utf8EncodeChar c, IsPlainByte b := fun b hb =>
        isPlainByte_of_mem hc hb
      generalize String.utf8EncodeChar c = bytes at hplain
      induction bytes with
      | nil => exact ih
      | cons b bytes ih' =>
          exact .plain (hplain b List.mem_cons_self)
            (ih' fun b hb => hplain b (List.mem_cons_of_mem _ hb))
  | short hb _ ih => exact .short hb ih
  | code hn _ ih => exact .code hn ih

mutual

/-- A value of the grammar may come wherever one has to. -/
theorem AnyText.remainder {t : Bytes} (h : AnyText t) {stack : List Frame} {s : Bytes}
    (hs : Remainder true stack s) : Remainder false stack (t ++ s) := by
  cases h with
  | null => exact .scalar .null hs
  | true => exact .scalar .true hs
  | false => exact .scalar .false hs
  | number hliteral => exact .scalar (.number hliteral) hs
  | string hchars => exact .scalar (.string hchars.skipped) hs
  | emptyList hblank =>
      have h := @Remainder.empty .list _ _ _ hblank hs
      simpa [Frame.opening, Frame.close] using h
  | emptyObject hblank =>
      have h := @Remainder.empty .object _ _ _ hblank hs
      simpa [Frame.opening, Frame.close] using h
  | list hitems =>
      obtain ⟨entry, u, hentry, rfl, hu⟩ := AnyItems.remainder hitems hs
      have h := Remainder.nested hentry hu
      simpa [Frame.opening] using h
  | object hmembers =>
      obtain ⟨entry, u, hentry, rfl, hu⟩ := AnyMembers.remainder hmembers hs
      have h := Remainder.nested hentry hu
      simpa [Frame.opening] using h
termination_by 2 * t.length

theorem AnyItems.remainder {t : Bytes} (h : AnyItems t) {stack : List Frame} {s : Bytes}
    (hs : Remainder true stack s) :
    ∃ entry u, Entry .list entry ∧ t = entry ++ u ∧
      Remainder false (.list :: stack) (u ++ closeBracket :: s) := by
  cases h with
  | @last front t back hfront ht hback =>
      refine ⟨front, t ++ back, .item hfront, by simp, ?_⟩
      rw [List.append_assoc]
      exact AnyText.remainder ht (@Remainder.close .list _ _ _ hback hs)
  | @cons front t back rest hfront ht hback hrest =>
      obtain ⟨entry, u, hentry, rfl, hu⟩ := AnyItems.remainder hrest hs
      refine ⟨front, t ++ back ++ comma :: (entry ++ u), .item hfront, by simp, ?_⟩
      have h := AnyText.remainder ht (Remainder.next hback hentry hu)
      simpa using h
termination_by 2 * t.length + 1

theorem AnyMembers.remainder {t : Bytes} (h : AnyMembers t) {stack : List Frame} {s : Bytes}
    (hs : Remainder true stack s) :
    ∃ entry u, Entry .object entry ∧ t = entry ++ u ∧
      Remainder false (.object :: stack) (u ++ closeBrace :: s) := by
  cases h with
  | @last front name middle after t back hfront hname hmiddle hafter ht hback =>
      refine ⟨_, t ++ back, .member hfront hname.skipped hmiddle hafter, by simp, ?_⟩
      rw [List.append_assoc]
      exact AnyText.remainder ht (@Remainder.close .object _ _ _ hback hs)
  | @cons front name middle after t back rest hfront hname hmiddle hafter ht hback hrest =>
      obtain ⟨entry, u, hentry, rfl, hu⟩ := AnyMembers.remainder hrest hs
      refine ⟨_, t ++ back ++ comma :: (entry ++ u),
        .member hfront hname.skipped hmiddle hafter, by simp, ?_⟩
      have h := AnyText.remainder ht (Remainder.next hback hentry hu)
      simpa using h
termination_by 2 * t.length + 1

end

theorem AnyText.skippable {t : Bytes} (h : AnyText t) : Skippable t := by
  have hrest := AnyText.remainder h .done
  rwa [List.append_nil] at hrest

theorem CharsText.any {s : Bytes} {cs : List Char} (h : CharsText s cs) : AnyChars s := by
  induction h with
  | nil => exact .nil
  | plain hc _ ih => exact .plain hc ih
  | escape he _ ih =>
      cases he with
      | short hb => exact .short hb ih
      | code hn _ _ => exact .code hn ih
      | pair hn _ hm _ => exact .code hn (.code hm ih)

mutual

theorem ValueText.any {depth : Nat} {t : Bytes} {v : Value} (h : ValueText depth t v) :
    AnyText t := by
  cases h with
  | null => exact .null
  | true => exact .true
  | false => exact .false
  | number hliteral _ => exact .number hliteral
  | string hstring =>
      cases hstring with
      | mk hchars => exact .string hchars.any
  | emptyList hblank => exact .emptyList hblank
  | list hitems => exact .list (ItemsText.any hitems)
  | emptyObject hblank => exact .emptyObject hblank
  | object hmembers => exact .object (MembersText.any hmembers)
termination_by 2 * t.length

theorem ItemsText.any {depth : Nat} {t : Bytes} {vs : List Value} (h : ItemsText depth t vs) :
    AnyItems t := by
  cases h with
  | last hfront ht hback => exact .last hfront (ValueText.any ht) hback
  | cons hfront ht hback hrest =>
      exact .cons hfront (ValueText.any ht) hback (ItemsText.any hrest)
termination_by 2 * t.length + 1

theorem MembersText.any {depth : Nat} {t : Bytes} {members : List (String × Value)}
    (h : MembersText depth t members) : AnyMembers t := by
  cases h with
  | last hfront hname hmiddle hafter ht hback =>
      cases hname with
      | mk hchars =>
          have h := AnyMembers.last hfront hchars.any hmiddle hafter (ValueText.any ht) hback
          simpa using h
  | cons hfront hname hmiddle hafter ht hback hrest =>
      cases hname with
      | mk hchars =>
          have h := AnyMembers.cons hfront hchars.any hmiddle hafter (ValueText.any ht) hback
            (MembersText.any hrest)
          simpa using h
termination_by 2 * t.length + 1

end

end InvoiceGateway.Json
