import InvoiceGateway.Json.Grammar
import InvoiceGateway.Json.Parser
import InvoiceGateway.Proofs.Success

/-! # What stands between values -/

namespace InvoiceGateway.Json

/-! ## Blanks -/

theorem blanks_nil : Blanks [] := by
  intro b hb
  simp at hb

theorem blanks_append {s t : Bytes} (hs : Blanks s) (ht : Blanks t) : Blanks (s ++ t) := by
  intro b hb
  rcases List.mem_append.mp hb with hb | hb
  · exact hs b hb
  · exact ht b hb

theorem skipBlanks_append {front s : Bytes} (h : Blanks front) :
    skipBlanks (front ++ s) = skipBlanks s := by
  induction front with
  | nil => rfl
  | cons b front ih =>
      have hb : isBlank b = true := h b (by simp)
      rw [skipBlanks, List.cons_append, List.dropWhile_cons_of_pos hb]
      exact ih fun c hc => h c (by simp [hc])

theorem skipBlanks_of_not_blank {b : UInt8} {s : Bytes} (h : isBlank b = false) :
    skipBlanks (b :: s) = b :: s := by
  rw [skipBlanks, List.dropWhile_cons_of_neg (by simp [h])]

theorem exists_blanks_append_skipBlanks (s : Bytes) :
    ∃ front, Blanks front ∧ s = front ++ skipBlanks s := by
  refine ⟨s.takeWhile isBlank, ?_, (List.takeWhile_append_dropWhile).symm⟩
  intro b hb
  exact List.all_eq_true.mp List.all_takeWhile b hb

theorem skipBlanks_eq_nil_iff {s : Bytes} : skipBlanks s = [] ↔ Blanks s := by
  constructor
  · intro h
    obtain ⟨front, hfront, hs⟩ := exists_blanks_append_skipBlanks s
    rw [h, List.append_nil] at hs
    rwa [hs]
  · intro h
    have hs := skipBlanks_append (s := []) h
    rwa [List.append_nil] at hs

theorem not_blank_of_skipBlanks {s rest : Bytes} {b : UInt8} (h : skipBlanks s = b :: rest) :
    isBlank b = false := by
  induction s with
  | nil => simp [skipBlanks] at h
  | cons c s ih =>
      by_cases hc : isBlank c = true
      · rw [skipBlanks, List.dropWhile_cons_of_pos hc] at h
        exact ih h
      · have hc' : isBlank c = false := by simpa using hc
        rw [skipBlanks_of_not_blank hc'] at h
        injection h with h _
        rwa [← h]

theorem skipBlanks_eq_cons_iff {s rest : Bytes} {b : UInt8} :
    skipBlanks s = b :: rest ↔
      isBlank b = false ∧ ∃ front, Blanks front ∧ s = front ++ b :: rest := by
  constructor
  · intro h
    obtain ⟨front, hfront, hs⟩ := exists_blanks_append_skipBlanks s
    refine ⟨?_, front, hfront, by rwa [h] at hs⟩
    exact not_blank_of_skipBlanks h
  · rintro ⟨hb, front, hfront, rfl⟩
    rw [skipBlanks_append hfront, skipBlanks_of_not_blank hb]

theorem endOfText_eq_ok_iff {s : Bytes} : endOfText s = .ok () ↔ Blanks s := by
  rw [← skipBlanks_eq_nil_iff, endOfText]
  cases skipBlanks s with
  | nil => simp
  | cons b rest => simp

/-! ## Words -/

theorem word_append (letters s : Bytes) : word letters (letters ++ s) = .ok s := by
  induction letters with
  | nil => rfl
  | cons letter letters ih => simp [word, ih]

theorem word_eq_ok_iff {letters s rest : Bytes} :
    word letters s = .ok rest ↔ s = letters ++ rest := by
  constructor
  · intro h
    induction letters generalizing s with
    | nil =>
        injection h
    | cons letter letters ih =>
        cases s with
        | nil => contradiction
        | cons b s =>
            rw [word] at h
            split at h
            · next hb => rw [hb, ih h, List.cons_append]
            · contradiction
  · rintro rfl
    exact word_append letters rest

/-! ## Colons -/

theorem colon_eq_ok_iff {s rest : Bytes} :
    colon s = .ok rest ↔ ∃ front, Blanks front ∧ s = front ++ colonSign :: rest := by
  constructor
  · intro h
    rw [colon] at h
    split at h
    · contradiction
    · next b t ht =>
        obtain ⟨-, front, hfront, rfl⟩ := skipBlanks_eq_cons_iff.mp ht
        split at h
        · next hb =>
            injection h with h
            exact ⟨front, hfront, by rw [hb, h]⟩
        · contradiction
  · rintro ⟨front, hfront, rfl⟩
    have hskip : skipBlanks (front ++ colonSign :: rest) = colonSign :: rest :=
      skipBlanks_eq_cons_iff.mpr ⟨rfl, front, hfront, rfl⟩
    rw [colon, hskip]
    rfl

/-! ## Items of a list -/

theorem nextItem_eq_closed_iff {first : Bool} {s rest : Bytes} :
    nextItem first s = .ok (false, rest) ↔
      ∃ front, Blanks front ∧ s = front ++ closeBracket :: rest := by
  constructor
  · intro h
    rw [nextItem] at h
    split at h
    · contradiction
    · next b t ht =>
        obtain ⟨-, front, hfront, rfl⟩ := skipBlanks_eq_cons_iff.mp ht
        split at h
        · next hb =>
            injection h with h
            injection h with _ h
            exact ⟨front, hfront, by rw [hb, h]⟩
        · split at h
          · injection h with h
            injection h with h _
            contradiction
          · split at h
            · split at h
              · contradiction
              · split at h
                · contradiction
                · injection h with h
                  injection h with h _
                  contradiction
            · contradiction
  · rintro ⟨front, hfront, rfl⟩
    have hskip : skipBlanks (front ++ closeBracket :: rest) = closeBracket :: rest :=
      skipBlanks_eq_cons_iff.mpr ⟨rfl, front, hfront, rfl⟩
    rw [nextItem, hskip]
    rfl

/-- A text that begins an item: neither with a blank nor with the closing bracket. -/
def BeginsItem (s : Bytes) : Prop :=
  ∃ b rest, s = b :: rest ∧ isBlank b = false ∧ b ≠ closeBracket

theorem nextItem_first_iff {s rest : Bytes} :
    nextItem true s = .ok (true, rest) ↔
      BeginsItem rest ∧ ∃ front, Blanks front ∧ s = front ++ rest := by
  constructor
  · intro h
    rw [nextItem] at h
    split at h
    · contradiction
    · next b t ht =>
        obtain ⟨hblank, front, hfront, rfl⟩ := skipBlanks_eq_cons_iff.mp ht
        split at h
        · injection h with h
          injection h with h _
          contradiction
        · next hb =>
            simp only [if_true, Except.ok.injEq, Prod.mk.injEq, true_and] at h
            subst h
            exact ⟨⟨b, t, rfl, hblank, hb⟩, front, hfront, rfl⟩
  · rintro ⟨⟨b, t, rfl, hblank, hb⟩, front, hfront, rfl⟩
    have hskip : skipBlanks (front ++ b :: t) = b :: t :=
      skipBlanks_eq_cons_iff.mpr ⟨hblank, front, hfront, rfl⟩
    rw [nextItem, hskip]
    simp [hb]

theorem nextItem_later_iff {s rest : Bytes} :
    nextItem false s = .ok (true, rest) ↔
      BeginsItem rest ∧
        ∃ back front, Blanks back ∧ Blanks front ∧ s = back ++ comma :: front ++ rest := by
  constructor
  · intro h
    rw [nextItem] at h
    split at h
    · contradiction
    · next b t ht =>
        obtain ⟨-, back, hback, rfl⟩ := skipBlanks_eq_cons_iff.mp ht
        split at h
        · injection h with h
          injection h with h _
          contradiction
        · simp only [Bool.false_eq_true, if_false] at h
          split at h
          · next hb =>
              split at h
              · contradiction
              · next c u hu =>
                  obtain ⟨hblank, front, hfront, rfl⟩ := skipBlanks_eq_cons_iff.mp hu
                  split at h
                  · contradiction
                  · next hc =>
                      injection h with h
                      injection h with _ h
                      subst h
                      refine ⟨⟨c, u, rfl, hblank, hc⟩, back, front, hback, hfront, ?_⟩
                      rw [hb, List.append_assoc, List.cons_append]
          · contradiction
  · rintro ⟨⟨c, u, rfl, hblank, hc⟩, back, front, hback, hfront, rfl⟩
    have hcomma : skipBlanks (back ++ comma :: front ++ c :: u) = comma :: (front ++ c :: u) :=
      skipBlanks_eq_cons_iff.mpr ⟨rfl, back, hback, by simp⟩
    have hitem : skipBlanks (front ++ c :: u) = c :: u :=
      skipBlanks_eq_cons_iff.mpr ⟨hblank, front, hfront, rfl⟩
    rw [nextItem, hcomma]
    simp [hitem, hc, show comma ≠ closeBracket by decide]

/-! ## Names of members -/

theorem string_map_eq_some_iff {t rest : Bytes} {found : Option String} :
    (string t).map (fun (name, s) => (some name, s)) = .ok (found, rest) ↔
      ∃ name, found = some name ∧ string t = .ok (name, rest) := by
  rw [map_eq_ok_iff]
  constructor
  · rintro ⟨⟨name, s⟩, ht, h⟩
    injection h with hname hs
    exact ⟨name, hname.symm, by rw [ht, hs]⟩
  · rintro ⟨name, rfl, ht⟩
    exact ⟨(name, rest), ht, rfl⟩

theorem nextKey_eq_closed_iff {first : Bool} {s rest : Bytes} :
    nextKey first s = .ok (none, rest) ↔
      ∃ front, Blanks front ∧ s = front ++ closeBrace :: rest := by
  constructor
  · intro h
    rw [nextKey] at h
    split at h
    · contradiction
    · next b t ht =>
        obtain ⟨-, front, hfront, rfl⟩ := skipBlanks_eq_cons_iff.mp ht
        split at h
        · next hb =>
            injection h with h
            injection h with _ h
            exact ⟨front, hfront, by rw [hb, h]⟩
        · split at h
          · split at h
            · obtain ⟨name, hname, -⟩ := string_map_eq_some_iff.mp h
              contradiction
            · contradiction
          · split at h
            · split at h
              · contradiction
              · next c u _ =>
                  split at h
                  · obtain ⟨name, hname, -⟩ := string_map_eq_some_iff.mp h
                    contradiction
                  · split at h <;> contradiction
            · contradiction
  · rintro ⟨front, hfront, rfl⟩
    have hskip : skipBlanks (front ++ closeBrace :: rest) = closeBrace :: rest :=
      skipBlanks_eq_cons_iff.mpr ⟨rfl, front, hfront, rfl⟩
    rw [nextKey, hskip]
    rfl

theorem nextKey_first_iff {s rest : Bytes} {name : String} :
    nextKey true s = .ok (some name, rest) ↔
      ∃ front t, Blanks front ∧ string t = .ok (name, rest) ∧ s = front ++ quote :: t := by
  constructor
  · intro h
    rw [nextKey] at h
    split at h
    · contradiction
    · next b t ht =>
        obtain ⟨-, front, hfront, rfl⟩ := skipBlanks_eq_cons_iff.mp ht
        split at h
        · injection h with h
          injection h with h _
          contradiction
        · simp only [if_true] at h
          split at h
          · next hb =>
              obtain ⟨_, hname, ht⟩ := string_map_eq_some_iff.mp h
              injection hname with hname
              exact ⟨front, t, hfront, by rw [ht, hname], by rw [hb]⟩
          · contradiction
  · rintro ⟨front, t, hfront, ht, rfl⟩
    have hskip : skipBlanks (front ++ quote :: t) = quote :: t :=
      skipBlanks_eq_cons_iff.mpr ⟨rfl, front, hfront, rfl⟩
    rw [nextKey, hskip]
    exact string_map_eq_some_iff.mpr ⟨name, rfl, ht⟩

theorem nextKey_later_iff {s rest : Bytes} {name : String} :
    nextKey false s = .ok (some name, rest) ↔
      ∃ back front t, Blanks back ∧ Blanks front ∧ string t = .ok (name, rest) ∧
        s = back ++ comma :: front ++ quote :: t := by
  constructor
  · intro h
    rw [nextKey] at h
    split at h
    · contradiction
    · next b t ht =>
        obtain ⟨-, back, hback, rfl⟩ := skipBlanks_eq_cons_iff.mp ht
        split at h
        · injection h with h
          injection h with h _
          contradiction
        · simp only [Bool.false_eq_true, if_false] at h
          split at h
          · next hb =>
              split at h
              · contradiction
              · next c u hu =>
                  obtain ⟨-, front, hfront, rfl⟩ := skipBlanks_eq_cons_iff.mp hu
                  split at h
                  · next hc =>
                      obtain ⟨_, hname, ht⟩ := string_map_eq_some_iff.mp h
                      injection hname with hname
                      refine ⟨back, front, u, hback, hfront, by rw [ht, hname], ?_⟩
                      rw [hb, hc, List.append_assoc, List.cons_append]
                  · split at h <;> contradiction
          · contradiction
  · rintro ⟨back, front, t, hback, hfront, ht, rfl⟩
    have hcomma : skipBlanks (back ++ comma :: front ++ quote :: t) =
        comma :: (front ++ quote :: t) :=
      skipBlanks_eq_cons_iff.mpr ⟨rfl, back, hback, by simp⟩
    have hname : skipBlanks (front ++ quote :: t) = quote :: t :=
      skipBlanks_eq_cons_iff.mpr ⟨rfl, front, hfront, rfl⟩
    rw [nextKey, hcomma]
    simp only [hname]
    exact string_map_eq_some_iff.mpr ⟨name, rfl, ht⟩

end InvoiceGateway.Json
