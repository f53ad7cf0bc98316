import InvoiceGateway.Proofs.Json.Token
import InvoiceGateway.Proofs.Text.Encoding

/-! # Strings are read by their grammar

The reader speaks of bytes, the grammar of characters. -/

namespace InvoiceGateway.Json

/-! ## Escapes -/

theorem hexQuad_eq_ok_iff {s rest : Bytes} {n : Nat} :
    hexQuad s = .ok (n, rest) ↔
      ∃ a b c d, hexQuad? a b c d = some n ∧ s = a :: b :: c :: d :: rest := by
  constructor
  · intro h
    unfold hexQuad at h
    split at h
    · next a b c d t =>
        split at h
        · next m hm =>
            injection h with h
            injection h with hn ht
            exact ⟨a, b, c, d, by rw [hm, hn], by rw [ht]⟩
        · contradiction
    · contradiction
  · rintro ⟨a, b, c, d, hn, rfl⟩
    simp [hexQuad, hn]

theorem escapeByte_eq_ok_iff {b : UInt8} {s rest : Bytes} :
    escapeByte b s = .ok rest ↔ s = b :: rest := by
  constructor
  · intro h
    unfold escapeByte at h
    split at h
    · contradiction
    · split at h
      · next hb =>
          injection h with h
          rw [hb, h]
      · contradiction
  · rintro rfl
    simp [escapeByte]

theorem unicodeEscape_eq_ok {s rest : Bytes} {c : Char} (h : unicodeEscape s = .ok (c, rest)) :
    ∃ e, EscapeText (backslash :: 117 :: e) c ∧ s = e ++ rest := by
  unfold unicodeEscape at h
  obtain ⟨⟨n, s₁⟩, hquad, hcode⟩ := bind_eq_ok_iff.mp h
  clear h
  obtain ⟨a, b, c', d, hn, rfl⟩ := hexQuad_eq_ok_iff.mp hquad
  simp only at hcode
  split at hcode
  · contradiction
  · next htrailing =>
      have htrailing : isTrailing n = false := by simpa using htrailing
      split at hcode
      · next hleading =>
          obtain ⟨s₂, hslash, hpair⟩ := bind_eq_ok_iff.mp hcode
          obtain ⟨s₃, hu, hlow⟩ := bind_eq_ok_iff.mp hpair
          obtain ⟨⟨m, s₄⟩, hquad', hend⟩ := bind_eq_ok_iff.mp hlow
          clear hcode hpair hlow
          obtain ⟨a', b', c'', d', hm, rfl⟩ := hexQuad_eq_ok_iff.mp hquad'
          rw [escapeByte_eq_ok_iff] at hslash hu
          subst hslash hu
          simp only at hend
          split at hend
          · next htrailing' =>
              injection hend with hend
              injection hend with hc hrest
              subst hc hrest
              exact ⟨[a, b, c', d, backslash, 117, a', b', c'', d'],
                .pair hn hleading hm htrailing', rfl⟩
          · contradiction
      · next hleading =>
          have hleading : isLeading n = false := by simpa using hleading
          injection hcode with hcode
          injection hcode with hc hrest
          subst hc hrest
          exact ⟨[a, b, c', d], .code hn hleading htrailing, rfl⟩

theorem escape_eq_ok {s rest : Bytes} {c : Char} (h : escape s = .ok (c, rest)) :
    ∃ e, EscapeText (backslash :: e) c ∧ s = e ++ rest := by
  unfold escape at h
  split at h
  · contradiction
  · next b t =>
      split at h
      · next c' hc' =>
          injection h with h
          injection h with hc hrest
          subst hc hrest
          exact ⟨[b], .short hc', rfl⟩
      · split at h
        · next hb =>
            obtain ⟨e, he, rfl⟩ := unicodeEscape_eq_ok h
            exact ⟨b :: e, by rwa [hb], rfl⟩
        · contradiction

theorem escape_append {e : Bytes} {c : Char} (h : EscapeText e c) (rest : Bytes) :
    ∃ t, e = backslash :: t ∧ escape (t ++ rest) = .ok (c, rest) := by
  cases h with
  | @short b _ hb => exact ⟨[b], rfl, by simp [escape, hb]⟩
  | @code a b c d n hn hleading htrailing =>
      refine ⟨[117, a, b, c, d], rfl, ?_⟩
      simp [escape, unicodeEscape, hexQuad, hn, hleading, htrailing, bind, Except.bind,
        show shortEscape? 117 = none by decide]
  | @pair a b c d a' b' c' d' n m hn hleading hm htrailing =>
      have hfirst : isTrailing n = false := by
        simp only [isLeading, isTrailing, Bool.and_eq_true, decide_eq_true_eq] at hleading ⊢
        simp only [Bool.and_eq_false_iff, decide_eq_false_iff_not]
        omega
      refine ⟨[117, a, b, c, d, backslash, 117, a', b', c', d'], rfl, ?_⟩
      simp [escape, unicodeEscape, hexQuad, escapeByte, hn, hleading, hm, htrailing, hfirst, bind,
        Except.bind, show shortEscape? 117 = none by decide]

/-! ## The bytes that a string stands for -/

/-- A byte that may stand for itself in a string. -/
def IsPlainByte (b : UInt8) : Prop :=
  b ≠ quote ∧ b ≠ backslash ∧ ¬b < 32

/-- What may stand between the quotes of a string, and the bytes it stands for, which need not be
the bytes of a text. -/
inductive ContentText : Bytes → Bytes → Prop
  | nil : ContentText [] []
  | plain {b : UInt8} {s content : Bytes} :
      IsPlainByte b → ContentText s content → ContentText (b :: s) (b :: content)
  | escape {c : Char} {e s content : Bytes} :
      EscapeText e c → ContentText s content →
      ContentText (e ++ s) (String.utf8EncodeChar c ++ content)

theorem contentOnto_append {t content : Bytes} (h : ContentText t content) (done rest : Bytes) :
    contentOnto done (t ++ quote :: rest) = .ok (done.reverse ++ content, rest) := by
  induction h generalizing done with
  | nil =>
      rw [List.nil_append, contentOnto]
      simp
  | @plain b s content hb _ ih =>
      obtain ⟨hquote, hslash, hcontrol⟩ := hb
      rw [List.cons_append, contentOnto]
      simp only [hquote, hslash, hcontrol, if_false]
      rw [ih (b :: done)]
      simp
  | @escape c e s content he _ ih =>
      obtain ⟨u, rfl, hu⟩ := escape_append he (s ++ quote :: rest)
      rw [List.append_assoc, List.cons_append, contentOnto]
      simp only [show backslash ≠ quote by decide, if_false, if_true]
      split
      · next fault hfault =>
          rw [hu] at hfault
          contradiction
      · next d s' hd =>
          rw [hu] at hd
          injection hd with hd
          injection hd with hc hs
          subst hc hs
          rw [ih]
          simp

theorem contentOnto_eq_ok {done s content rest : Bytes}
    (h : contentOnto done s = .ok (content, rest)) :
    ∃ t c, ContentText t c ∧ s = t ++ quote :: rest ∧ content = done.reverse ++ c := by
  fun_induction contentOnto done s with
  | case1 => contradiction
  | case2 done s =>
      injection h with h
      injection h with hcontent hrest
      exact ⟨[], [], .nil, by rw [hrest]; rfl, by simp [← hcontent]⟩
  | case3 => contradiction
  | case4 done s c s' hescape _ _ ih =>
      obtain ⟨t, content', ht, rfl, rfl⟩ := ih h
      obtain ⟨e, he, rfl⟩ := escape_eq_ok hescape
      refine ⟨backslash :: e ++ t, _, .escape he ht, ?_, by simp⟩
      rw [List.append_assoc, List.cons_append]
  | case5 => contradiction
  | case6 done b s hb hslash hcontrol ih =>
      obtain ⟨t, content', ht, rfl, rfl⟩ := ih h
      exact ⟨b :: t, b :: content', .plain ⟨hb, hslash, hcontrol⟩ ht, rfl, by simp⟩

/-! ## The characters that a string stands for -/

theorem isPlainByte_of_mem {c : Char} (hc : IsPlainChar c) {b : UInt8}
    (hb : b ∈ String.utf8EncodeChar c) : IsPlainByte b := by
  by_cases hlt : b.toNat < 128
  · have heq := Text.eq_ofNat_of_mem_utf8EncodeChar hb hlt
    have hnat : c.toNat = b.toNat := by
      rw [heq, Text.toNat_ofNat_of_isValidChar (Or.inl (by omega))]
    obtain ⟨hquote, hslash, hcontrol⟩ := hc
    refine ⟨?_, ?_, ?_⟩
    · rintro rfl
      exact hquote heq
    · rintro rfl
      exact hslash heq
    · intro h
      have : b.toNat < 32 := h
      omega
  · refine ⟨?_, ?_, ?_⟩
    · rintro rfl
      exact hlt (by decide)
    · rintro rfl
      exact hlt (by decide)
    · intro h
      have : b.toNat < 32 := h
      omega

theorem isPlainChar_of_utf8EncodeChar {c : Char} {b : UInt8} {tail : Bytes}
    (h : String.utf8EncodeChar c = b :: tail) (hb : IsPlainByte b) : IsPlainChar c := by
  obtain ⟨hquote, hslash, hcontrol⟩ := hb
  refine ⟨?_, ?_, ?_⟩
  · rintro rfl
    injection h with h _
    exact hquote h.symm
  · rintro rfl
    injection h with h _
    exact hslash h.symm
  · refine Nat.le_of_not_lt ?_
    intro hlt
    rw [Text.utf8EncodeChar_of_lt (by omega)] at h
    injection h with h _
    apply hcontrol
    rw [← h, UInt8.lt_iff_toNat_lt, UInt8.toNat_ofNat']
    change c.toNat % 256 < 32
    omega

theorem ContentText.plain_append {l s content : Bytes} (hl : ∀ b ∈ l, IsPlainByte b)
    (h : ContentText s content) : ContentText (l ++ s) (l ++ content) := by
  induction l with
  | nil => exact h
  | cons b l ih => exact .plain (hl b (by simp)) (ih fun x hx => hl x (by simp [hx]))

/-- Bytes that begin no character are written as they are: an escape would begin one. -/
theorem ContentText.split_tail {tail t content : Bytes}
    (htail : ∀ b ∈ tail, ¬b.IsUTF8FirstByte) (h : ContentText t (tail ++ content)) :
    ∃ s, t = tail ++ s ∧ ContentText s content := by
  induction tail generalizing t with
  | nil => exact ⟨t, rfl, h⟩
  | cons b tail ih =>
      generalize hall : b :: tail ++ content = all at h
      cases h with
      | nil => contradiction
      | @plain b' s content' _ hs =>
          injection hall with hb hcontent
          subst hb hcontent
          obtain ⟨u, rfl, hu⟩ := ih (fun x hx => htail x (by simp [hx])) hs
          exact ⟨u, rfl, hu⟩
      | @escape c e s content' _ _ =>
          obtain ⟨a, rest, ha, hfirst, -⟩ := Text.exists_utf8EncodeChar_eq_cons c
          rw [ha] at hall
          injection hall with hb _
          subst hb
          exact absurd hfirst (htail b (by simp))

theorem contentText_of_charsText {t : Bytes} {cs : List Char} (h : CharsText t cs) :
    ContentText t (cs.flatMap String.utf8EncodeChar) := by
  induction h with
  | nil => exact .nil
  | plain hc _ ih =>
      rw [List.flatMap_cons]
      exact .plain_append (fun b hb => isPlainByte_of_mem hc hb) ih
  | escape he _ ih =>
      rw [List.flatMap_cons]
      exact .escape he ih

theorem charsText_of_contentText {t : Bytes} {cs : List Char}
    (h : ContentText t (cs.flatMap String.utf8EncodeChar)) : CharsText t cs := by
  induction cs generalizing t with
  | nil =>
      generalize hall : List.flatMap String.utf8EncodeChar [] = all at h
      cases h with
      | nil => exact .nil
      | plain _ _ => contradiction
      | escape _ _ =>
          exact absurd (List.append_eq_nil_iff.mp hall.symm).1 String.utf8EncodeChar_ne_nil
  | cons c cs ih =>
      rw [List.flatMap_cons] at h
      generalize hall : String.utf8EncodeChar c ++ cs.flatMap String.utf8EncodeChar = all at h
      cases h with
      | nil => exact absurd (List.append_eq_nil_iff.mp hall).1 String.utf8EncodeChar_ne_nil
      | @escape d e s content he hs =>
          obtain ⟨rfl, rfl⟩ := Text.utf8EncodeChar_append_inj hall
          exact .escape he (ih hs)
      | @plain b s content hb hs =>
          obtain ⟨a, tail, ha, -, htail⟩ := Text.exists_utf8EncodeChar_eq_cons c
          rw [ha] at hall
          injection hall with hab hcontent
          subst hab hcontent
          obtain ⟨u, rfl, hu⟩ := hs.split_tail htail
          have hchar : a :: (tail ++ u) = String.utf8EncodeChar c ++ u := by
            rw [ha, List.cons_append]
          rw [hchar]
          exact .plain (isPlainChar_of_utf8EncodeChar ha hb) (ih hu)

/-! ## Strings -/

/-- A string is read, after its opening quote, exactly when its characters stand there. -/
theorem string_eq_ok_iff {s rest : Bytes} {text : String} :
    string s = .ok (text, rest) ↔ ∃ t, CharsText t text.toList ∧ s = t ++ quote :: rest := by
  constructor
  · intro h
    rw [string] at h
    split at h
    · contradiction
    · next content rest' hread =>
        obtain ⟨text', htext, hpair⟩ := map_eq_ok_iff.mp h
        injection hpair with heq hrest
        subst heq hrest
        obtain ⟨t, c, ht, rfl, rfl⟩ := contentOnto_eq_ok hread
        rw [contentText] at htext
        split at htext
        · next u hu =>
            injection htext with htext
            subst htext
            rw [Bytes.toString?_eq_some_iff, Bytes.ofString_eq_flatMap] at hu
            rw [hu] at ht
            exact ⟨t, charsText_of_contentText ht, rfl⟩
        · contradiction
  · rintro ⟨t, ht, rfl⟩
    have hread := contentOnto_append (contentText_of_charsText ht) [] rest
    rw [← Bytes.ofString_eq_flatMap, List.reverse_nil, List.nil_append] at hread
    have htext : contentText (Bytes.ofString text) rest = .ok text := by
      rw [contentText, Bytes.toString?_ofString]
    rw [string, hread]
    change (contentText (Bytes.ofString text) rest).map (fun text => (text, rest)) = _
    rw [htext]
    rfl

end InvoiceGateway.Json
