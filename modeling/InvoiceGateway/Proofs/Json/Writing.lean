import InvoiceGateway.Json.Printer
import InvoiceGateway.Proofs.Json.Members

/-! # What is written belongs to the grammar -/

namespace InvoiceGateway.Json

/-! ## Strings -/

theorem hexQuad?_control : ∀ n, n < 32 →
    (hexChar (n / 16)).toNat < 128 ∧ (hexChar n).toNat < 128 ∧
      hexQuad? 48 48 (UInt8.ofNat (hexChar (n / 16)).toNat) (UInt8.ofNat (hexChar n).toNat) =
        some n := by
  decide

/-- Written before other characters, a character stays what it is. -/
theorem charsText_escapeChar {c : Char} {s : Bytes} {cs : List Char} (h : CharsText s cs) :
    CharsText ((escapeChar c).flatMap String.utf8EncodeChar ++ s) (c :: cs) := by
  have hshort : ∀ {b : Char} {n : Nat}, shortEscape? (UInt8.ofNat b.toNat) = some (Char.ofNat n) →
      b.toNat < 128 → c.toNat = n →
      CharsText (['\\', b].flatMap String.utf8EncodeChar ++ s) (c :: cs) := by
    intro b n hb hlt hc
    have hslash : String.utf8EncodeChar '\\' = [backslash] := rfl
    have happ : ['\\', b].flatMap String.utf8EncodeChar ++ s =
        [backslash, UInt8.ofNat b.toNat] ++ s := by
      simp [hslash, Text.utf8EncodeChar_of_lt hlt]
    rw [happ, ← Char.ofNat_toNat c, hc]
    exact .escape (.short hb) h
  unfold escapeChar
  split
  · next hc => exact hshort (n := 34) (by decide) (by decide) (by rw [hc]; rfl)
  split
  · next hc => exact hshort (n := 92) (by decide) (by decide) (by rw [hc]; rfl)
  split
  · next hc => exact hshort (by decide) (by decide) hc
  split
  · next hc => exact hshort (by decide) (by decide) hc
  split
  · next hc => exact hshort (by decide) (by decide) hc
  split
  · next hc => exact hshort (by decide) (by decide) hc
  split
  · next hc => exact hshort (by decide) (by decide) hc
  split
  · next hcontrol =>
      obtain ⟨hhigh, hlow, hquad⟩ := hexQuad?_control c.toNat hcontrol
      have hcode := EscapeText.code hquad (by simp [isLeading]; omega) (by simp [isTrailing]; omega)
      rw [Char.ofNat_toNat] at hcode
      have happ := CharsText.escape hcode h
      have hslash : String.utf8EncodeChar '\\' = [backslash] := rfl
      have hletter : String.utf8EncodeChar 'u' = [117] := rfl
      have hzero : String.utf8EncodeChar '0' = [48] := rfl
      simpa [hslash, hletter, hzero, Text.utf8EncodeChar_of_lt hhigh,
        Text.utf8EncodeChar_of_lt hlow] using happ
  · next hquote hslash _ _ _ _ _ hplain =>
      have hc : IsPlainChar c := ⟨hquote, hslash, by omega⟩
      simpa using CharsText.plain hc h

theorem charsText_flatMap_escapeChar (cs : List Char) :
    CharsText ((cs.flatMap escapeChar).flatMap String.utf8EncodeChar) cs := by
  induction cs with
  | nil => exact .nil
  | cons c cs ih =>
      rw [List.flatMap_cons, List.flatMap_append]
      exact charsText_escapeChar ih

theorem stringText_quoteString (s : String) : StringText (Bytes.ofString (quoteString s)) s := by
  have hquote : String.utf8EncodeChar '"' = [quote] := rfl
  have h := StringText.mk (charsText_flatMap_escapeChar s.toList)
  simpa [quoteString, Bytes.ofString_eq_flatMap, hquote] using h

/-! ## Natural numbers -/

/-- The bytes of a written natural number. -/
def natBytes (n : Nat) : Bytes :=
  Bytes.ofString (toString n)

theorem natBytes_eq_flatMap (n : Nat) :
    natBytes n = (Nat.toDigits 10 n).flatMap String.utf8EncodeChar := by
  rw [natBytes, Bytes.ofString_eq_flatMap, Nat.toString_eq_repr, Nat.toList_repr]

theorem natBytes_of_lt {k : Nat} (hk : k < 10) : natBytes k = [UInt8.ofNat (48 + k)] := by
  have hchar := Nat.toNat_digitChar_of_lt_ten hk
  rw [natBytes_eq_flatMap, Nat.toDigits_of_lt_base hk, List.flatMap_singleton,
    Text.utf8EncodeChar_of_lt (by omega), hchar]

theorem natBytes_append {m k : Nat} (hm : 0 < m) (hk : k < 10) :
    natBytes (10 * m + k) = natBytes m ++ [UInt8.ofNat (48 + k)] := by
  rw [natBytes_eq_flatMap, ← Nat.toDigits_append_toDigits (by decide) hm hk, List.flatMap_append,
    ← natBytes_eq_flatMap, ← natBytes_eq_flatMap, natBytes_of_lt hk]

theorem isDigit_ofNat {k : Nat} (hk : k < 10) :
    Ascii.isDigit (UInt8.ofNat (48 + k)) = true ∧ Ascii.digitValue (UInt8.ofNat (48 + k)) = k := by
  have hall : ∀ k, k < 10 →
      Ascii.isDigit (UInt8.ofNat (48 + k)) = true ∧
        Ascii.digitValue (UInt8.ofNat (48 + k)) = k := by
    decide
  exact hall k hk

theorem digits_natBytes (n : Nat) : Digits (natBytes n) ∧ decimalValue (natBytes n) = n := by
  induction n using Nat.base_induction 10 (by decide) with
  | single k hk =>
      obtain ⟨hdigit, hvalue⟩ := isDigit_ofNat hk
      rw [natBytes_of_lt hk]
      refine ⟨by simpa [Digits] using hdigit, ?_⟩
      simp only [decimalValue, List.foldl_cons, List.foldl_nil, hvalue]
      omega
  | digit m k hk hm ih =>
      obtain ⟨hdigits, hm'⟩ := ih
      obtain ⟨hdigit, hvalue⟩ := isDigit_ofNat hk
      rw [natBytes_append hm hk]
      constructor
      · intro b hb
        rcases List.mem_append.mp hb with hb | hb
        · exact hdigits b hb
        · rw [List.mem_singleton.mp hb]
          exact hdigit
      · simp only [decimalValue] at hm'
        simp only [decimalValue, List.foldl_append, List.foldl_cons, List.foldl_nil, hm', hvalue]
        omega

theorem length_natBytes_le {n k : Nat} (h : n < Nat.pow 10 (k + 1)) :
    (natBytes n).length ≤ k + 1 := by
  induction k generalizing n with
  | zero =>
      rw [natBytes_of_lt h]
      exact Nat.le_refl 1
  | succ k ih =>
      cases Nat.lt_or_ge n 10 with
      | inl hlt =>
          rw [natBytes_of_lt hlt, List.length_singleton]
          omega
      | inr hge =>
          have hpow : Nat.pow 10 (k + 1 + 1) = Nat.pow 10 (k + 1) * 10 := rfl
          have hdigit := natBytes_append (m := n / 10) (k := n % 10) (by omega) (by omega)
          rw [Nat.div_add_mod] at hdigit
          rw [hdigit, List.length_append, List.length_singleton]
          exact Nat.succ_le_succ (ih (by omega))

/-- Only zero is written with a zero in front. -/
theorem natBytes_begins {n : Nat} (hn : 0 < n) : ∃ d ds, natBytes n = d :: ds ∧ d ≠ 48 := by
  induction n using Nat.base_induction 10 (by decide) with
  | single k hk =>
      have hall : ∀ k, k < 10 → 0 < k → UInt8.ofNat (48 + k) ≠ 48 := by decide
      exact ⟨_, [], natBytes_of_lt hk, hall k hk hn⟩
  | digit m k hk hm ih =>
      obtain ⟨d, ds, hds, hd⟩ := ih hm
      exact ⟨d, ds ++ [UInt8.ofNat (48 + k)], by rw [natBytes_append hm hk, hds]; rfl, hd⟩

theorem wholeText_natBytes (n : Nat) : WholeText (natBytes n) := by
  cases Nat.eq_zero_or_pos n with
  | inl hzero =>
      rw [hzero, natBytes_of_lt (by decide)]
      exact .zero
  | inr hpos =>
      obtain ⟨d, ds, hds, hd⟩ := natBytes_begins hpos
      have hdigits := (digits_natBytes n).1
      rw [hds] at hdigits ⊢
      exact .digits (hdigits d (by simp)) hd fun b hb => hdigits b (by simp [hb])

/-- A digit is written for its own value. -/
theorem ofNat_digitValue {d : UInt8} (h : Ascii.isDigit d = true) :
    Ascii.digitValue d < 10 ∧ UInt8.ofNat (48 + Ascii.digitValue d) = d := by
  simp only [Ascii.isDigit, Bool.and_eq_true, decide_eq_true_eq, UInt8.le_iff_toNat_le] at h
  obtain ⟨hlow, hhigh⟩ := h
  have hlow' : 48 ≤ d.toNat := hlow
  have hhigh' : d.toNat ≤ 57 := hhigh
  have hvalue : 48 + Ascii.digitValue d = d.toNat := by
    rw [Ascii.digitValue]
    omega
  refine ⟨by omega, ?_⟩
  rw [hvalue, UInt8.ofNat_toNat]

theorem natBytes_foldl {n : Nat} {ds : Bytes} (hn : 0 < n) (hds : Digits ds) :
    natBytes (ds.foldl (fun n d => n * 10 + Ascii.digitValue d) n) = natBytes n ++ ds := by
  induction ds generalizing n with
  | nil => simp
  | cons d ds ih =>
      obtain ⟨hlt, hd⟩ := ofNat_digitValue (hds d (by simp))
      have hstep : natBytes (n * 10 + Ascii.digitValue d) = natBytes n ++ [d] := by
        rw [Nat.mul_comm, natBytes_append hn hlt, hd]
      have hpos : 0 < n * 10 + Ascii.digitValue d := by omega
      rw [List.foldl_cons, ih hpos fun b hb => hds b (by simp [hb]), hstep]
      simp

/-- Digits without a leading zero are what is written for their value. -/
theorem natBytes_decimalValue {s : Bytes} (h : WholeText s) : natBytes (decimalValue s) = s := by
  cases h with
  | zero => exact natBytes_of_lt (by decide)
  | @digits d ds hd hzero hds =>
      obtain ⟨hlt, hofNat⟩ := ofNat_digitValue hd
      have hpos : 0 < Ascii.digitValue d := by
        apply Nat.pos_of_ne_zero
        intro hvalue
        rw [hvalue] at hofNat
        exact hzero hofNat.symm
      have hstart : decimalValue (d :: ds) =
          ds.foldl (fun n d => n * 10 + Ascii.digitValue d) (Ascii.digitValue d) := by
        simp [decimalValue]
      rw [hstart, natBytes_foldl hpos hds, natBytes_of_lt hlt, hofNat]
      rfl

theorem valueText_natBytes {depth n : Nat} (h : n < UInt64.size) :
    ValueText depth (natBytes n) (.number (.natural (UInt64.ofNat n))) := by
  refine valueText_natural_iff.mpr ⟨wholeText_natBytes n, ?_⟩
  rw [(digits_natBytes n).2]
  exact (UInt64.toNat_ofNat_of_lt h).symm

/-! ## Objects -/

theorem ofString_joinCommas_cons (text : String) (rest : List String) :
    Bytes.ofString (joinCommas (text :: rest)) =
      Bytes.ofString text ++ rest.flatMap fun t => comma :: Bytes.ofString t := by
  induction rest generalizing text with
  | nil => simp [joinCommas]
  | cons t rest ih =>
      have hjoin : joinCommas (text :: t :: rest) = text ++ "," ++ joinCommas (t :: rest) := rfl
      have hcomma : Bytes.ofString "," = [comma] := rfl
      simp [hjoin, Bytes.ofString_append, ih, hcomma]

theorem ofString_compactMember (name value : String) :
    Bytes.ofString (compactMember name value) =
      Bytes.ofString (quoteString name) ++ colonSign :: Bytes.ofString value := by
  have hcolon : Bytes.ofString ":" = [colonSign] := rfl
  simp [compactMember, Bytes.ofString_append, hcolon]

theorem spelledMembers_joinCommas {depth : Nat} {written : String × String}
    {rest : List (String × String)}
    (h : ∀ w ∈ written :: rest, ∃ v, ValueText depth (Bytes.ofString w.2) v) :
    SpelledMembers depth
      (Bytes.ofString (joinCommas ((written :: rest).map fun (name, value) =>
        compactMember name value)))
      ((written :: rest).map fun (name, value) => (name, Bytes.ofString value)) := by
  induction rest generalizing written with
  | nil =>
      obtain ⟨name, text⟩ := written
      obtain ⟨v, hvalue⟩ := h (name, text) (by simp)
      have hlast := SpelledMembers.last blanks_nil (stringText_quoteString name) blanks_nil
        blanks_nil hvalue blanks_nil
      simpa [joinCommas, ofString_compactMember] using hlast
  | cons next rest ih =>
      obtain ⟨name, text⟩ := written
      obtain ⟨v, hvalue⟩ := h (name, text) (by simp)
      have hrest := ih fun w hw => h w (List.mem_cons_of_mem _ hw)
      have hcons := SpelledMembers.cons blanks_nil (stringText_quoteString name) blanks_nil
        blanks_nil hvalue blanks_nil hrest
      simpa [ofString_joinCommas_cons, ofString_compactMember] using hcons

/-- An object of members whose texts are texts of values has these members, spelled like this. -/
theorem objectText_compactObject {depth : Nat} {written : List (String × String)}
    (h : ∀ w ∈ written, ∃ v, ValueText depth (Bytes.ofString w.2) v) :
    ObjectText (depth + 1) (Bytes.ofString (compactObject written))
      (written.map fun (name, value) => (name, Bytes.ofString value)) := by
  have hopen : Bytes.ofString "\x7b" = [openBrace] := rfl
  have hclose : Bytes.ofString "\x7d" = [closeBrace] := rfl
  cases written with
  | nil => exact .empty blanks_nil blanks_nil blanks_nil
  | cons w written =>
      have hobject := ObjectText.members blanks_nil (spelledMembers_joinCommas h) blanks_nil
      simpa [compactObject, Bytes.ofString_append, hopen, hclose] using hobject

/-- Members that are spelled alike are the same members. -/
theorem spells_unique {depth : Nat} {spelled : List (String × Bytes)}
    {members members' : List (String × Value)} (h : List.Forall₂ (Spells depth) spelled members)
    (h' : List.Forall₂ (Spells depth) spelled members') : members = members' := by
  induction h generalizing members' with
  | nil =>
      cases h'
      rfl
  | @cons s m spelled members hm _ ih =>
      cases h' with
      | @cons _ m' _ members' hm' hrest' =>
          have hmember : m = m' :=
            Prod.ext (hm.1.symm.trans hm'.1) (valueText_unique hm.2 hm'.2)
          rw [hmember, ih hrest']

/-- An object of members whose texts are texts of values is a text of the object of these values. -/
theorem document_compactObject {depth : Nat} {written : List (String × String)}
    {members : List (String × Value)}
    (h : List.Forall₂ (fun w m => Spells depth (w.1, Bytes.ofString w.2) m) written members) :
    Document (depth + 1) (Bytes.ofString (compactObject written)) (.object members) := by
  have hvalues : ∀ w ∈ written, ∃ v, ValueText depth (Bytes.ofString w.2) v := by
    induction h with
    | nil => simp
    | @cons w m written members hm _ ih =>
        intro x hx
        rcases List.mem_cons.mp hx with rfl | hx
        · exact ⟨m.2, hm.2⟩
        · exact ih x hx
  obtain ⟨members', hdocument, hall⟩ := (objectText_compactObject hvalues).exists_document
  have hspelled : List.Forall₂ (Spells depth)
      (written.map fun (name, value) => (name, Bytes.ofString value)) members :=
    List.forall₂_map_left_iff.mpr h
  rwa [spells_unique hspelled hall]

/-! ## Lists -/

theorem itemsText_joinCommas {depth : Nat} {text : String} {rest : List String}
    {items : List Value}
    (h : List.Forall₂ (fun t v => ValueText depth (Bytes.ofString t) v) (text :: rest) items) :
    ItemsText depth (Bytes.ofString (joinCommas (text :: rest))) items := by
  induction rest generalizing text items with
  | nil =>
      cases h with
      | @cons _ v _ _ hv hrest =>
          cases hrest
          simpa [joinCommas] using ItemsText.last blanks_nil hv blanks_nil
  | cons next rest ih =>
      cases h with
      | @cons _ v _ vs hv hrest =>
          have hcons := ItemsText.cons blanks_nil hv blanks_nil (ih hrest)
          simpa [ofString_joinCommas_cons] using hcons

/-- A list of texts of values is a text of the list of these values. -/
theorem document_compactList {depth : Nat} {texts : List String} {items : List Value}
    (h : List.Forall₂ (fun t v => ValueText depth (Bytes.ofString t) v) texts items) :
    Document (depth + 1) (Bytes.ofString (compactList texts)) (.list items) := by
  have hopen : Bytes.ofString "[" = [openBracket] := rfl
  have hclose : Bytes.ofString "]" = [closeBracket] := rfl
  have hvalue : ValueText (depth + 1) (Bytes.ofString (compactList texts)) (.list items) := by
    cases h with
    | nil => exact .emptyList blanks_nil
    | cons hv hrest =>
        have hlist := ValueText.list (itemsText_joinCommas (.cons hv hrest))
        simpa [compactList, Bytes.ofString_append, hopen, hclose] using hlist
  simpa using Document.mk blanks_nil hvalue blanks_nil

end InvoiceGateway.Json
