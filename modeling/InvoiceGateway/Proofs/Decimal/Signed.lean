import InvoiceGateway.Decimal.Signed
import InvoiceGateway.Proofs.Success

/-! # Which texts are signed integers -/

namespace InvoiceGateway.Decimal

/-! ## Texts of integers -/

/-- Decimal digits, at least one, and the number that they spell. -/
structure DigitsText (cs : List Char) (n : Nat) : Prop where
  ne_nil : cs ≠ []
  isDigit : ∀ c ∈ cs, c.isDigit = true
  value : Nat.ofDigitChars 10 cs 0 = n

/-- Decimal digits behind an optional sign, and the integer that they spell. -/
inductive SignedText : List Char → Int → Prop
  | plain {cs : List Char} {n : Nat} (h : DigitsText cs n) : SignedText cs n
  | plus {cs : List Char} {n : Nat} (h : DigitsText cs n) : SignedText ('+' :: cs) n
  | minus {cs : List Char} {n : Nat} (h : DigitsText cs n) : SignedText ('-' :: cs) (-n)

theorem not_digitsText_nil (n : Nat) : ¬DigitsText [] n :=
  fun h => h.ne_nil rfl

theorem not_digitsText_cons {c : Char} (hc : c.isDigit = false) (cs : List Char) (n : Nat) :
    ¬DigitsText (c :: cs) n := by
  intro h
  have hdigit := h.isDigit c List.mem_cons_self
  rw [hc] at hdigit
  contradiction

theorem signedText_plus_iff {cs : List Char} {i : Int} :
    SignedText ('+' :: cs) i ↔ ∃ n, DigitsText cs n ∧ (n : Int) = i := by
  constructor
  · intro h
    cases h with
    | plain h => exact absurd h (not_digitsText_cons (by decide) _ _)
    | plus h => exact ⟨_, h, rfl⟩
  · rintro ⟨n, h, rfl⟩
    exact .plus h

theorem signedText_minus_iff {cs : List Char} {i : Int} :
    SignedText ('-' :: cs) i ↔ ∃ n, DigitsText cs n ∧ -(n : Int) = i := by
  constructor
  · intro h
    cases h with
    | plain h => exact absurd h (not_digitsText_cons (by decide) _ _)
    | minus h => exact ⟨_, h, rfl⟩
  · rintro ⟨n, h, rfl⟩
    exact .minus h

theorem signedText_iff_of_not_sign {cs : List Char} {i : Int} (hplus : ∀ t, cs ≠ '+' :: t)
    (hminus : ∀ t, cs ≠ '-' :: t) : SignedText cs i ↔ ∃ n, DigitsText cs n ∧ (n : Int) = i := by
  constructor
  · intro h
    cases h with
    | plain h => exact ⟨_, h, rfl⟩
    | plus h => exact absurd rfl (hplus _)
    | minus h => exact absurd rfl (hminus _)
  · rintro ⟨n, h, rfl⟩
    exact .plain h

/-! ## Readers -/

theorem le_ofDigitChars (start : Nat) (cs : List Char) : start ≤ Nat.ofDigitChars 10 cs start := by
  rw [Nat.ofDigitChars_eq_ofDigitChars_zero]
  have hpow : 1 * start ≤ Nat.pow 10 cs.length * start :=
    Nat.mul_le_mul_right start (Nat.pow_pos (by decide))
  rw [Nat.one_mul] at hpow
  exact Nat.le_trans hpow (Nat.le_add_right _ _)

theorem readDigits_eq_ok_iff {bound start n : Nat} {overflow : SignedError} {cs : List Char}
    (hstart : start ≤ bound) :
    readDigits bound overflow start cs = .ok n ↔
      (∀ c ∈ cs, c.isDigit = true) ∧ Nat.ofDigitChars 10 cs start = n ∧ n ≤ bound := by
  induction cs generalizing start with
  | nil =>
      constructor
      · intro h
        injection h with h
        subst h
        exact ⟨by simp, Nat.ofDigitChars_nil, hstart⟩
      · rintro ⟨-, rfl, -⟩
        rw [Nat.ofDigitChars_nil]
        rfl
  | cons c cs ih =>
      have hvalue : Nat.ofDigitChars 10 (c :: cs) start =
          Nat.ofDigitChars 10 cs (start * 10 + (c.toNat - 48)) := by
        rw [Nat.ofDigitChars_cons, Nat.mul_comm]
        rfl
      rw [readDigits, hvalue, List.forall_mem_cons]
      cases hc : c.isDigit with
      | false => simp
      | true =>
          by_cases hbound : bound < start * 10 + (c.toNat - 48)
          · -- Out of bounds here means out of bounds at the end.
            have hle := le_ofDigitChars (start * 10 + (c.toNat - 48)) cs
            simp only [Bool.not_true, Bool.false_eq_true, if_false, if_pos hbound]
            constructor
            · intro h
              contradiction
            · rintro ⟨-, rfl, hn⟩
              omega
          · simp only [Bool.not_true, Bool.false_eq_true, if_false, if_neg hbound, true_and]
            exact ih (Nat.not_lt.mp hbound)

theorem readDigits_zero_eq_ok_iff {bound n : Nat} {overflow : SignedError} {cs : List Char}
    (hcs : cs ≠ []) :
    readDigits bound overflow 0 cs = .ok n ↔ DigitsText cs n ∧ n ≤ bound := by
  rw [readDigits_eq_ok_iff (Nat.zero_le bound)]
  constructor
  · rintro ⟨hdigit, hvalue, hle⟩
    exact ⟨⟨hcs, hdigit, hvalue⟩, hle⟩
  · rintro ⟨h, hle⟩
    exact ⟨h.isDigit, h.value, hle⟩

theorem readPositive_eq_ok_iff {cs : List Char} {i : Int} (hcs : cs ≠ []) :
    ((readDigits greatest .tooLarge 0 cs).map fun n : Nat => (n : Int)) = .ok i ↔
      (∃ n, DigitsText cs n ∧ (n : Int) = i) ∧ -((greatest : Int) + 1) ≤ i ∧ i ≤ greatest := by
  simp only [map_eq_ok_iff, readDigits_zero_eq_ok_iff hcs]
  constructor
  · rintro ⟨n, ⟨h, hle⟩, rfl⟩
    exact ⟨⟨n, h, rfl⟩, by omega, by omega⟩
  · rintro ⟨⟨n, h, rfl⟩, -, hle⟩
    exact ⟨n, ⟨h, by omega⟩, rfl⟩

theorem readNegative_eq_ok_iff {cs : List Char} {i : Int} (hcs : cs ≠ []) :
    ((readDigits (greatest + 1) .tooSmall 0 cs).map fun n : Nat => -(n : Int)) = .ok i ↔
      (∃ n, DigitsText cs n ∧ -(n : Int) = i) ∧ -((greatest : Int) + 1) ≤ i ∧ i ≤ greatest := by
  simp only [map_eq_ok_iff, readDigits_zero_eq_ok_iff hcs]
  constructor
  · rintro ⟨n, ⟨h, hle⟩, rfl⟩
    exact ⟨⟨n, h, rfl⟩, by omega, by omega⟩
  · rintro ⟨⟨n, h, rfl⟩, hle, -⟩
    exact ⟨n, ⟨h, by omega⟩, rfl⟩

/-- A text is read as the integer that it spells, if that has sixty-four bits. -/
theorem readSigned_eq_ok_iff {s : String} {i : Int} :
    readSigned s = .ok i ↔
      SignedText s.toList i ∧ -((greatest : Int) + 1) ≤ i ∧ i ≤ greatest := by
  unfold readSigned
  generalize s.toList = cs
  split
  · simp [signedText_iff_of_not_sign, not_digitsText_nil]
  · simp [signedText_plus_iff, not_digitsText_nil]
  · simp [signedText_minus_iff, not_digitsText_nil]
  · next cs hcs =>
      rw [signedText_plus_iff]
      exact readPositive_eq_ok_iff hcs
  · next cs hcs =>
      rw [signedText_minus_iff]
      exact readNegative_eq_ok_iff hcs
  · next cs hnil _ _ hplus hminus =>
      rw [signedText_iff_of_not_sign hplus hminus]
      exact readPositive_eq_ok_iff hnil

end InvoiceGateway.Decimal
