import InvoiceGateway.Proofs.Json.Token

/-! # Numbers are read by their grammar -/

namespace InvoiceGateway.Json

/-! ## Digits -/

/-- A text that no digit begins. -/
def NoDigit (s : Bytes) : Prop :=
  ∀ b t, s = b :: t → Ascii.isDigit b = false

/-- A text that does not extend a literal that it follows. -/
def EndsLiteral (s : Bytes) : Prop :=
  ∀ b t, s = b :: t → Ascii.isDigit b = false ∧ b ≠ 46 ∧ b ≠ 101 ∧ b ≠ 69

theorem EndsLiteral.noDigit {s : Bytes} (h : EndsLiteral s) : NoDigit s :=
  fun b t hs => (h b t hs).1

theorem digits_takeWhile (s : Bytes) : Digits (s.takeWhile Ascii.isDigit) :=
  fun b hb => List.all_eq_true.mp List.all_takeWhile b hb

theorem dropWhile_of_noDigit {s : Bytes} (h : NoDigit s) : s.dropWhile Ascii.isDigit = s := by
  cases s with
  | nil => rfl
  | cons b t => rw [List.dropWhile_cons_of_neg (by simp [h b t rfl])]

theorem takeWhile_of_noDigit {s : Bytes} (h : NoDigit s) : s.takeWhile Ascii.isDigit = [] := by
  cases s with
  | nil => rfl
  | cons b t => rw [List.takeWhile_cons_of_neg (by simp [h b t rfl])]

theorem takeWhile_digits_append {ds s : Bytes} (hds : Digits ds) (hs : NoDigit s) :
    (ds ++ s).takeWhile Ascii.isDigit = ds := by
  rw [List.takeWhile_append_of_pos hds, takeWhile_of_noDigit hs, List.append_nil]

theorem dropWhile_digits_append {ds s : Bytes} (hds : Digits ds) (hs : NoDigit s) :
    (ds ++ s).dropWhile Ascii.isDigit = s := by
  rw [List.dropWhile_append_of_pos hds, dropWhile_of_noDigit hs]

/-! ## The parts of a literal -/

theorem wholePart_eq_ok {atEnd : Cause} {s whole rest : Bytes}
    (h : wholePart atEnd s = .ok (whole, rest)) : WholeText whole ∧ s = whole ++ rest := by
  unfold wholePart at h
  split at h
  · contradiction
  · next b t =>
      split at h
      · next hb =>
          split at h
          · contradiction
          · injection h with h
            injection h with hwhole hrest
            subst hwhole hrest hb
            exact ⟨.zero, rfl⟩
      · next hb =>
          split at h
          · next hdigit =>
              injection h with h
              injection h with hwhole hrest
              subst hwhole hrest
              refine ⟨.digits hdigit hb (digits_takeWhile t), ?_⟩
              rw [List.cons_append, List.takeWhile_append_dropWhile]
          · contradiction

theorem wholePart_append (atEnd : Cause) {whole rest : Bytes} (h : WholeText whole)
    (hrest : NoDigit rest) : wholePart atEnd (whole ++ rest) = .ok (whole, rest) := by
  cases h with
  | zero =>
      have hhead : rest.head?.any Ascii.isDigit = false := by
        cases rest with
        | nil => rfl
        | cons b t => exact hrest b t rfl
      simp [wholePart, hhead]
  | @digits d ds hd hzero hds =>
      rw [List.cons_append, wholePart]
      simp only [hzero, hd, if_false, if_true, takeWhile_digits_append hds hrest,
        dropWhile_digits_append hds hrest]

theorem fractionPart_eq_ok {atEnd : Cause} {s digits rest : Bytes}
    (h : fractionPart atEnd s = .ok (digits, rest)) :
    ∃ t, FractionText t digits ∧ s = t ++ rest := by
  unfold fractionPart at h
  split at h
  · injection h with h
    injection h with hdigits hrest
    subst hdigits hrest
    exact ⟨[], .absent, rfl⟩
  · next b t =>
      split at h
      · next hb =>
          subst hb
          split at h
          · contradiction
          · next d u =>
              split at h
              · next hd =>
                  injection h with h
                  injection h with hdigits hrest
                  subst hdigits hrest
                  have htake : (d :: u).takeWhile Ascii.isDigit =
                      d :: u.takeWhile Ascii.isDigit := List.takeWhile_cons_of_pos hd
                  have hdigits := digits_takeWhile (d :: u)
                  rw [htake] at hdigits ⊢
                  refine ⟨46 :: d :: u.takeWhile Ascii.isDigit, .present hdigits, ?_⟩
                  rw [List.dropWhile_cons_of_pos hd, List.cons_append, List.cons_append,
                    List.takeWhile_append_dropWhile]
              · contradiction
      · injection h with h
        injection h with hdigits hrest
        subst hdigits hrest
        exact ⟨[], .absent, rfl⟩

theorem fractionPart_append (atEnd : Cause) {t digits rest : Bytes} (h : FractionText t digits)
    (hrest : NoDigit rest) (hpoint : ∀ u, rest ≠ 46 :: u) :
    fractionPart atEnd (t ++ rest) = .ok (digits, rest) := by
  cases h with
  | absent =>
      cases rest with
      | nil => rfl
      | cons b u =>
          have hb : b ≠ 46 := fun hb => hpoint u (by rw [hb])
          simp [fractionPart, hb]
  | @present d ds hds =>
      have hd : Ascii.isDigit d = true := hds d (by simp)
      have htake := takeWhile_digits_append hds hrest
      have hdrop := dropWhile_digits_append hds hrest
      rw [List.cons_append] at htake hdrop
      rw [List.cons_append, List.cons_append, fractionPart]
      simp only [hd, if_true, htake, hdrop]

theorem exponentSign_eq {s rest : Bytes} {negative : Bool}
    (h : exponentSign s = (negative, rest)) :
    ∃ sign, SignText sign negative ∧ s = sign ++ rest := by
  unfold exponentSign at h
  split at h
  · injection h with hnegative hrest
    subst hnegative hrest
    exact ⟨[], .absent, rfl⟩
  · next b t =>
      split at h
      · next hb =>
          injection h with hnegative hrest
          subst hnegative hrest hb
          exact ⟨[43], .plus, rfl⟩
      · split at h
        · next hb =>
            injection h with hnegative hrest
            subst hnegative hrest hb
            exact ⟨[45], .minus, rfl⟩
        · injection h with hnegative hrest
          subst hnegative hrest
          exact ⟨[], .absent, rfl⟩

theorem exponentDigits_eq_ok {atEnd : Cause} {s digits rest : Bytes}
    (h : exponentDigits atEnd s = .ok (digits, rest)) :
    ∃ d ds, digits = d :: ds ∧ Digits (d :: ds) ∧ s = d :: ds ++ rest := by
  unfold exponentDigits at h
  split at h
  · contradiction
  · next b t =>
      split at h
      · next hb =>
          injection h with h
          injection h with hdigits hrest
          subst hdigits hrest
          refine ⟨b, t.takeWhile Ascii.isDigit, rfl, ?_, ?_⟩
          · intro x hx
            rcases List.mem_cons.mp hx with rfl | hx
            · exact hb
            · exact digits_takeWhile t x hx
          · rw [List.cons_append, List.takeWhile_append_dropWhile]
      · contradiction

theorem exponentPart_eq_ok {atEnd : Cause} {s rest : Bytes} {exponent : Option (Bool × Bytes)}
    (h : exponentPart atEnd s = .ok (exponent, rest)) :
    ∃ t, ExponentText t exponent ∧ s = t ++ rest := by
  unfold exponentPart at h
  split at h
  · injection h with h
    injection h with hexponent hrest
    subst hexponent hrest
    exact ⟨[], .absent, rfl⟩
  · next b t =>
      split at h
      · next hb =>
          cases hsplit : exponentSign t with
          | mk negative u =>
              obtain ⟨sign, hsign, rfl⟩ := exponentSign_eq hsplit
              rw [hsplit] at h
              obtain ⟨⟨digits, v⟩, hdigits, hpair⟩ := map_eq_ok_iff.mp h
              injection hpair with hexponent hrest
              subst hexponent hrest
              obtain ⟨d, ds, rfl, hds, rfl⟩ := exponentDigits_eq_ok hdigits
              exact ⟨b :: sign ++ d :: ds, .present (by simpa using hb) hsign hds, by simp⟩
      · injection h with h
        injection h with hexponent hrest
        subst hexponent hrest
        exact ⟨[], .absent, rfl⟩

theorem exponentPart_append (atEnd : Cause) {t rest : Bytes} {exponent : Option (Bool × Bytes)}
    (h : ExponentText t exponent) (hrest : EndsLiteral rest) :
    exponentPart atEnd (t ++ rest) = .ok (exponent, rest) := by
  cases h with
  | absent =>
      cases rest with
      | nil => rfl
      | cons b u =>
          obtain ⟨-, -, hlower, hupper⟩ := hrest b u rfl
          simp [exponentPart, hlower, hupper]
  | @present letter d sign ds negative hletter hsign hds =>
      have hd : Ascii.isDigit d = true := hds d (by simp)
      have htail : Digits ds := fun b hb => hds b (by simp [hb])
      have hdigits : exponentDigits atEnd (d :: ds ++ rest) = .ok (d :: ds, rest) := by
        rw [List.cons_append, exponentDigits]
        simp only [hd, if_true, takeWhile_digits_append htail hrest.noDigit,
          dropWhile_digits_append htail hrest.noDigit]
      have hplain : d ≠ 43 ∧ d ≠ 45 := by
        constructor <;> rintro rfl <;> contradiction
      have hsplit : exponentSign (sign ++ (d :: ds ++ rest)) = (negative, d :: ds ++ rest) := by
        cases hsign with
        | absent => simp [exponentSign, hplain]
        | plus => rfl
        | minus => rfl
      have hletter' : (letter = 101 || letter = 69) = true := by simpa using hletter
      rw [List.append_assoc, List.cons_append, exponentPart]
      simp only [hletter', if_true, hsplit, hdigits]
      rfl

/-! ## Literals -/

/-- The minus sign of a literal, if it has one. -/
def minusSign (negative : Bool) : Bytes :=
  if negative then [45] else []

theorem literal_eq_ok {atEnd : Cause} {negative : Bool} {s rest : Bytes} {l : Literal}
    (h : literal atEnd negative s = .ok (l, rest)) :
    ∃ t, LiteralText (minusSign negative ++ t) l ∧ s = t ++ rest := by
  unfold literal at h
  obtain ⟨⟨whole, s₁⟩, hwhole, h₁⟩ := bind_eq_ok_iff.mp h
  obtain ⟨⟨fraction, s₂⟩, hfraction, h₂⟩ := bind_eq_ok_iff.mp h₁
  obtain ⟨⟨exponent, s₃⟩, hexponent, h₃⟩ := bind_eq_ok_iff.mp h₂
  clear h h₁ h₂
  injection h₃ with h₃
  injection h₃ with hl hrest
  subst hl hrest
  obtain ⟨hwholeText, rfl⟩ := wholePart_eq_ok hwhole
  obtain ⟨t, hfractionText, rfl⟩ := fractionPart_eq_ok hfraction
  obtain ⟨u, hexponentText, rfl⟩ := exponentPart_eq_ok hexponent
  have hliteral : LiteralText (minusSign negative ++ whole ++ t ++ u) _ :=
    .mk hwholeText hfractionText hexponentText
  refine ⟨whole ++ t ++ u, ?_, by simp⟩
  simpa [minusSign] using hliteral

/-- No digit follows the digits of a part: a point, a letter or the end of the literal does. -/
theorem noDigit_exponent {t rest : Bytes} {exponent : Option (Bool × Bytes)}
    (h : ExponentText t exponent) (hrest : EndsLiteral rest) :
    NoDigit (t ++ rest) ∧ ∀ u, t ++ rest ≠ 46 :: u := by
  cases h with
  | absent => exact ⟨hrest.noDigit, fun u hu => (hrest 46 u hu).2.1 rfl⟩
  | @present letter d sign ds negative hletter _ _ =>
      constructor
      · intro b u hu
        injection hu with hb _
        subst hb
        rcases hletter with rfl | rfl <;> rfl
      · intro u hu
        injection hu with hb _
        rcases hletter with rfl | rfl <;> contradiction

theorem noDigit_fraction {t digits rest : Bytes} (h : FractionText t digits)
    (hrest : NoDigit rest) : NoDigit (t ++ rest) := by
  cases h with
  | absent => exact hrest
  | present _ =>
      intro b u hu
      injection hu with hb _
      subst hb
      rfl

theorem literal_append (atEnd : Cause) {s rest : Bytes} {l : Literal} (h : LiteralText s l)
    (hrest : EndsLiteral rest) :
    ∃ t, s = minusSign l.negative ++ t ∧ literal atEnd l.negative (t ++ rest) = .ok (l, rest) := by
  cases h with
  | @mk negative whole t digits u exponent hwhole hfraction hexponent =>
      obtain ⟨hnone, hpoint⟩ := noDigit_exponent hexponent hrest
      have h₁ := wholePart_append atEnd hwhole (noDigit_fraction hfraction hnone)
      have h₂ := fractionPart_append atEnd hfraction hnone hpoint
      have h₃ := exponentPart_append atEnd hexponent hrest
      refine ⟨whole ++ t ++ u, by simp [minusSign], ?_⟩
      simp only [List.append_assoc, literal, bind, Except.bind, h₁, h₂, h₃]
      rfl

theorem literalText_whole {s : Bytes} (h : WholeText s) : LiteralText s ⟨false, s, [], none⟩ := by
  have hliteral : LiteralText (minusSign false ++ s ++ [] ++ []) ⟨false, s, [], none⟩ :=
    .mk h .absent .absent
  simpa [minusSign] using hliteral

theorem digits_of_wholeText {s : Bytes} (h : WholeText s) : Digits s := by
  cases h with
  | zero => simp [Digits, Ascii.isDigit]
  | @digits d ds hd _ hds =>
      intro b hb
      rcases List.mem_cons.mp hb with rfl | hb
      · exact hd
      · exact hds b hb

/-- A literal consists of the digits before the point alone exactly when it has no minus sign, no
fraction and no exponent. -/
theorem LiteralText.wholeText_iff {s : Bytes} {l : Literal} (h : LiteralText s l) :
    WholeText s ↔ l.negative = false ∧ l.fraction = [] ∧ l.exponent = none := by
  cases h with
  | @mk negative whole t digits u exponent hwhole hfraction hexponent =>
      constructor
      · intro hs
        have hdigits := digits_of_wholeText hs
        refine ⟨?_, ?_, ?_⟩
        · cases negative with
          | false => rfl
          | true => exact absurd (hdigits 45 (by simp)) (by decide)
        · cases hfraction with
          | absent => rfl
          | present _ => exact absurd (hdigits 46 (by simp)) (by decide)
        · cases hexponent with
          | absent => rfl
          | @present letter _ _ _ _ hletter _ _ =>
              have hdigit := hdigits letter (by simp)
              rcases hletter with rfl | rfl
              · exact absurd hdigit (by decide)
              · exact absurd hdigit (by decide)
      · rintro ⟨rfl, rfl, rfl⟩
        cases hfraction
        cases hexponent
        simpa using hwhole

/-! ## The values of integer literals -/

/-- The natural number that digits spell. -/
def decimalValue (digits : Bytes) : Nat :=
  digits.foldl (fun n d => n * 10 + Ascii.digitValue d) 0

theorem le_foldl_digits (n : Nat) (ds : Bytes) :
    n ≤ ds.foldl (fun n d => n * 10 + Ascii.digitValue d) n := by
  induction ds generalizing n with
  | nil => exact Nat.le_refl n
  | cons d ds ih =>
      have h := ih (n * 10 + Ascii.digitValue d)
      simp only [List.foldl_cons]
      omega

/-- All digits are taken exactly when the number that they complete stays below the bound. -/
theorem absorb_eq_nil_iff {bound n m : Nat} {ds : Bytes} (hn : n < bound) :
    absorb bound n ds = (m, []) ↔
      m = ds.foldl (fun n d => n * 10 + Ascii.digitValue d) n ∧ m < bound := by
  induction ds generalizing n with
  | nil =>
      simp only [absorb, Prod.mk.injEq, and_true, List.foldl_nil]
      constructor
      · rintro rfl
        exact ⟨rfl, hn⟩
      · rintro ⟨rfl, -⟩
        rfl
  | cons d ds ih =>
      rw [absorb, List.foldl_cons]
      split
      · next hlt => exact ih hlt
      · next hge =>
          have hle := le_foldl_digits (n * 10 + Ascii.digitValue d) ds
          constructor
          · intro h
            injection h with _ h
            contradiction
          · rintro ⟨rfl, hlt⟩
            omega

theorem Number.ofInteger_eq_natural_iff (negative : Bool) {m : Nat} {n : UInt64}
    (hm : m < UInt64.size) :
    Number.ofInteger negative m = .natural n ↔ negative = false ∧ m = n.toNat := by
  unfold Number.ofInteger
  cases negative with
  | true =>
      simp only [if_true, Bool.true_eq_false, false_and, iff_false]
      split <;> simp
  | false =>
      simp only [Bool.false_eq_true, if_false, Number.natural.injEq, true_and]
      constructor
      · rintro rfl
        exact (UInt64.toNat_ofNat_of_lt hm).symm
      · rintro rfl
        exact UInt64.ofNat_toNat

/-- Exactly the literals of digits alone, below `2 ^ 64`, are held as natural numbers. -/
theorem Literal.number_eq_natural_iff {l : Literal} {rest : Bytes} {n : UInt64} :
    l.number rest = .ok (.natural n) ↔
      l.negative = false ∧ l.fraction = [] ∧ l.exponent = none ∧
        decimalValue l.whole = n.toNat := by
  have hzero : 0 < UInt64.size := by decide
  constructor
  · intro h
    unfold Literal.number at h
    cases habsorb : absorb UInt64.size 0 l.whole with
    | mk significand dropped =>
        simp only [habsorb] at h
        split at h
        · next hinteger =>
            simp only [Bool.and_eq_true, List.isEmpty_iff, Option.isNone_iff_eq_none] at hinteger
            obtain ⟨⟨rfl, hfraction⟩, hexponent⟩ := hinteger
            obtain ⟨hvalue, hlt⟩ := (absorb_eq_nil_iff hzero).mp habsorb
            injection h with h
            obtain ⟨hsign, hn⟩ := (Number.ofInteger_eq_natural_iff _ hlt).mp h
            exact ⟨hsign, hfraction, hexponent, by rw [← hn, hvalue]; rfl⟩
        · split at h
          · split at h <;> simp at h
          · split at h
            · split at h <;> simp at h
            · split at h <;> simp at h
  · rintro ⟨hsign, hfraction, hexponent, hvalue⟩
    have habsorb : absorb UInt64.size 0 l.whole = (n.toNat, []) :=
      (absorb_eq_nil_iff hzero).mpr ⟨hvalue.symm, n.toNat_lt⟩
    have hnumber := (Number.ofInteger_eq_natural_iff false n.toNat_lt).mpr ⟨rfl, rfl⟩
    simp [Literal.number, habsorb, hfraction, hexponent, hsign, hnumber]

/-- What follows a literal decides only where its fault is, if it has one. -/
theorem Literal.number_eq_ok_iff {l : Literal} {rest : Bytes} {n : Number} :
    l.number rest = .ok n ↔ l.number [] = .ok n := by
  unfold Literal.number
  cases absorb UInt64.size 0 l.whole with
  | mk significand dropped =>
      simp only
      split
      · exact Iff.rfl
      · split
        · split <;> simp
        · split
          · split <;> simp
          · split <;> simp

/-! ## Numbers -/

theorem number_eq_ok {negative : Bool} {s rest : Bytes} {n : Number}
    (h : number negative s = .ok (n, rest)) :
    ∃ t l, LiteralText (minusSign negative ++ t) l ∧ l.number [] = .ok n ∧ s = t ++ rest := by
  unfold number at h
  obtain ⟨⟨l, s₁⟩, hliteral, h₁⟩ := bind_eq_ok_iff.mp h
  obtain ⟨m, hnumber, h₂⟩ := bind_eq_ok_iff.mp h₁
  injection h₂ with h₂
  injection h₂ with hm hrest
  subst hm hrest
  obtain ⟨t, ht, hs⟩ := literal_eq_ok hliteral
  exact ⟨t, l, ht, Literal.number_eq_ok_iff.mp hnumber, hs⟩

theorem number_append {s rest : Bytes} {l : Literal} {n : Number} (h : LiteralText s l)
    (hn : l.number [] = .ok n) (hrest : EndsLiteral rest) :
    ∃ t, s = minusSign l.negative ++ t ∧ number l.negative (t ++ rest) = .ok (n, rest) := by
  obtain ⟨t, hs, hliteral⟩ := literal_append .eofInValue h hrest
  have hnumber : l.number rest = .ok n := Literal.number_eq_ok_iff.mpr hn
  refine ⟨t, hs, ?_⟩
  simp only [number, bind, Except.bind, hliteral, hnumber]
  rfl

end InvoiceGateway.Json
