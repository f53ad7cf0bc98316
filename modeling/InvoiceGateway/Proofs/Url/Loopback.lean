import InvoiceGateway.Client
import InvoiceGateway.Proofs.Json.Writing
import Mathlib.Data.List.TakeWhile

/-! # Addresses of this machine -/

namespace InvoiceGateway.Url

/-! ## Characters without a meaning -/

/-- Letters, digits, slashes and all characters outside ASCII. -/
def IsOrdinary (c : Char) : Prop :=
  c = '/' ∨ c.isAlphanum = true ∨ 128 ≤ c.toNat

instance (c : Char) : Decidable (IsOrdinary c) :=
  inferInstanceAs (Decidable (_ ∨ _ ∨ _))

theorem isOrdinary_of_all {cs : List Char} (h : cs.all (fun c => decide (IsOrdinary c)) = true) :
    ∀ c ∈ cs, IsOrdinary c :=
  fun c hc => of_decide_eq_true (List.all_eq_true.mp h c hc)

/-- Neither blanks nor controls, nor what ends a part of a path or stands for another character
there. -/
def IsInert (c : Char) : Prop :=
  0x20 < c.toNat ∧ c ∉ ['\\', '%', '#', '?', '.']

instance (c : Char) : Decidable (IsInert c) :=
  inferInstanceAs (Decidable (_ ∧ _))

theorem IsInert.ne {c d : Char} (h : IsInert c) (hd : ¬IsInert d) : c ≠ d := by
  rintro rfl
  exact hd h

theorem isInert_of_all {cs : List Char} (h : cs.all (fun c => decide (IsInert c)) = true) :
    ∀ c ∈ cs, IsInert c :=
  fun c hc => of_decide_eq_true (List.all_eq_true.mp h c hc)

/-- Letters and digits stand between the digit zero and the small z. -/
theorem toNat_of_isAlphanum {c : Char} (h : c.isAlphanum = true) :
    48 ≤ c.toNat ∧ c.toNat ≤ 122 := by
  have hbetween : ∀ first last : Char, 48 ≤ first.toNat → last.toNat ≤ 122 →
      c.val ≥ first.val → c.val ≤ last.val → 48 ≤ c.toNat ∧ c.toNat ≤ 122 :=
    fun first last hfirst hlast hle hge =>
      ⟨Nat.le_trans hfirst (UInt32.le_iff_toNat_le.mp hle),
        Nat.le_trans (UInt32.le_iff_toNat_le.mp hge) hlast⟩
  rcases Bool.or_eq_true_iff.mp h with halpha | hdigit
  · rcases Bool.or_eq_true_iff.mp halpha with hupper | hlower
    · obtain ⟨hle, hge⟩ := of_decide_eq_true hupper
      exact hbetween 'A' 'Z' (by decide) (by decide) hle hge
    · obtain ⟨hle, hge⟩ := Bool.and_eq_true_iff.mp hlower
      exact hbetween 'a' 'z' (by decide) (by decide) (of_decide_eq_true hle) (of_decide_eq_true hge)
  · obtain ⟨hle, hge⟩ := Bool.and_eq_true_iff.mp hdigit
    exact hbetween '0' '9' (by decide) (by decide) (of_decide_eq_true hle) (of_decide_eq_true hge)

theorem IsOrdinary.isInert {c : Char} (h : IsOrdinary c) : IsInert c := by
  refine ⟨?_, fun hmem => ?_⟩
  · rcases h with rfl | halphanum | hge
    · decide
    · have hrange := toNat_of_isAlphanum halphanum
      omega
    · omega
  · simp only [List.mem_cons, List.not_mem_nil, or_false] at hmem
    rcases hmem with rfl | rfl | rfl | rfl | rfl <;> exact absurd h (by decide)

theorem isSkipped_of_lt {c : Char} (h : 0x20 < c.toNat) : isSkipped c = false := by
  have hne : c ≠ '\t' ∧ c ≠ '\n' ∧ c ≠ '\r' := by
    refine ⟨?_, ?_, ?_⟩ <;> rintro rfl <;> revert h <;> decide
  simp [isSkipped, hne]

theorem plain_of_lt {cs : List Char} (h : ∀ c ∈ cs, 0x20 < c.toNat) : plain cs = cs := by
  refine List.filter_eq_self.mpr fun c hc => ?_
  rw [isSkipped_of_lt (h c hc)]
  rfl

theorem isSlash_of_isInert {c : Char} (h : IsInert c) :
    isSlash true c = decide (c = '/') := by
  have hne : c ≠ '\\' := h.ne (by decide)
  simp [isSlash, hne]

/-! ## Paths -/

theorem plainDots_of_isInert {cs : List Char} (h : ∀ c ∈ cs, IsInert c) :
    plainDots cs = cs := by
  induction cs with
  | nil => rfl
  | cons c cs ih =>
      have hne : c ≠ '%' := (h c List.mem_cons_self).ne (by decide)
      have hrest : plainDots cs = cs := ih fun d hd => h d (List.mem_cons_of_mem c hd)
      unfold plainDots
      split
      · next heq =>
          injection heq with heq _
          contradiction
      · next heq =>
          injection heq with heq _
          contradiction
      · next heq =>
          injection heq with hc hcs
          rw [← hc, ← hcs, hrest]
      · contradiction

theorem not_dot_of_isInert {cs : List Char} (h : ∀ c ∈ cs, IsInert c) :
    isSingleDot cs = false ∧ isDoubleDot cs = false := by
  have hdot : '.' ∉ cs := fun hmem => absurd (h '.' hmem) (by decide)
  rw [isSingleDot, isDoubleDot, plainDots_of_isInert h]
  constructor
  · refine decide_eq_false fun heq => hdot ?_
    simp [heq]
  · refine decide_eq_false fun heq => hdot ?_
    simp [heq]

theorem mem_of_mem_rawSegments {special : Bool} {cs segment : List Char}
    (h : segment ∈ rawSegments special cs) {c : Char} (hc : c ∈ segment) : c ∈ cs := by
  induction cs generalizing segment with
  | nil =>
      rw [List.mem_singleton.mp h] at hc
      contradiction
  | cons d cs ih =>
      rw [rawSegments] at h
      split at h
      · rw [List.mem_singleton.mp h] at hc
        rw [List.mem_singleton.mp hc]
        exact List.mem_cons_self
      · next part parts hraw =>
          rw [hraw] at ih
          split at h
          · rcases List.mem_cons.mp h with rfl | h
            · contradiction
            · exact List.mem_cons_of_mem d (ih h hc)
          · rcases List.mem_cons.mp h with rfl | h
            · rcases List.mem_cons.mp hc with rfl | hc
              · exact List.mem_cons_self
              · exact List.mem_cons_of_mem d (ih List.mem_cons_self hc)
            · exact List.mem_cons_of_mem d (ih (List.mem_cons_of_mem part h) hc)

theorem take_of_isInert {raws : List (List Char)} (taken : List (List Char))
    (h : ∀ segment ∈ raws, ∀ c ∈ segment, IsInert c) :
    (Taken.take false ⟨taken, false⟩ raws).segments =
      (raws.map (encode pathSet)).reverse ++ taken := by
  induction raws generalizing taken with
  | nil => rfl
  | cons raw rest ih =>
      have hraw : ∀ c ∈ raw, IsInert c := h raw List.mem_cons_self
      have hplain : plain raw = raw := plain_of_lt fun c hc => (hraw c hc).1
      obtain ⟨hsingle, hdouble⟩ := not_dot_of_isInert hraw
      have hrest := ih (encode pathSet raw :: taken)
        fun segment hsegment => h segment (List.mem_cons_of_mem raw hsegment)
      simp only [Taken.take, Bool.false_and, Bool.false_eq_true, if_false, hplain, hdouble, hsingle,
        hrest]
      simp

theorem pathText_cons (segment : List Char) (later : List (List Char)) :
    pathText (segment :: later) = '/' :: (segment ++ pathText later) :=
  rfl

theorem encode_cons (set : Char → Bool) (c : Char) (cs : List Char) :
    encode set (c :: cs) = encodeChar set c ++ encode set cs :=
  rfl

theorem length_le_length_encode (set : Char → Bool) (cs : List Char) :
    cs.length ≤ (encode set cs).length := by
  induction cs with
  | nil => exact Nat.le_refl 0
  | cons c cs ih =>
      have hchar : 0 < (encodeChar set c).length := by
        unfold encodeChar
        split
        · obtain ⟨b, tail, htail, -⟩ := Text.exists_utf8EncodeChar_eq_cons c
          rw [htail, List.flatMap_cons]
          simp [percentByte]
        · exact Nat.one_pos
      rw [encode_cons, List.length_append, List.length_cons]
      omega

theorem pathText_rawSegments {cs : List Char} (h : ∀ c ∈ cs, IsInert c) :
    pathText ((rawSegments true cs).map (encode pathSet)) = '/' :: encode pathSet cs := by
  induction cs with
  | nil => rfl
  | cons c cs ih =>
      have hc : IsInert c := h c List.mem_cons_self
      have hrest := ih fun d hd => h d (List.mem_cons_of_mem c hd)
      rw [rawSegments]
      split
      · next hraw => simp [hraw, pathText] at hrest
      · next part parts hraw =>
          rw [hraw, List.map_cons, pathText_cons] at hrest
          have hcs : encode pathSet part ++ pathText (parts.map (encode pathSet)) =
              encode pathSet cs :=
            (List.cons.inj hrest).2
          rw [isSlash_of_isInert hc]
          by_cases hslash : c = '/'
          · have hencoded : encodeChar pathSet '/' = ['/'] := by decide
            rw [if_pos (decide_eq_true hslash), List.map_cons, List.map_cons, pathText_cons,
              pathText_cons, hcs, hslash, encode_cons, hencoded]
            rfl
          · rw [if_neg (by simpa using hslash), List.map_cons, pathText_cons, encode_cons,
              List.append_assoc, hcs, encode_cons]

/-- Inert characters make up a path as they are, or encoded. -/
theorem hierarchicalPath_of_isInert {cs : List Char} (h : ∀ c ∈ cs, IsInert c) :
    hierarchicalPath true ('/' :: cs) = '/' :: encode pathSet cs := by
  have hraw : ∀ segment ∈ rawSegments true cs, ∀ c ∈ segment, IsInert c :=
    fun segment hsegment c hc => h c (mem_of_mem_rawSegments hsegment hc)
  have hsegments : segments true cs = (rawSegments true cs).map (encode pathSet) := by
    rw [segments, take_of_isInert [] hraw, List.append_nil, List.reverse_reverse]
  have hslash : isSlash true '/' = true := rfl
  rw [hierarchicalPath, if_pos hslash, hsegments, pathText_rawSegments h]

/-! ## Authorities -/

/-- The address of a path at a port of this machine. -/
def loopback (port : UInt16) (path : String) : Address where
  scheme := "http"
  authority := some
    { user := ""
      password := ""
      host := .ipv4 2130706433
      port := if port = 80 then none else some port.toNat }
  path := path
  query := none
  fragment := none

theorem cut_of_not_stop {stop : Char → Bool} {cs : List Char} (h : ∀ c ∈ cs, stop c = false) :
    cut stop cs = (cs, none) := by
  have hdrop : (cs.dropWhile fun c => !stop c) = [] := by
    refine List.dropWhile_eq_nil_iff.mpr fun c hc => ?_
    simp [h c hc]
  rw [cut, hdrop]

theorem splitPath_of_isInert {cs : List Char} (h : ∀ c ∈ cs, IsInert c) :
    splitPath cs = (cs, none, none) := by
  have hfragment : cut (· = '#') cs = (cs, none) :=
    cut_of_not_stop fun c hc => decide_eq_false ((h c hc).ne (by decide))
  have hquery : cut (· = '?') cs = (cs, none) :=
    cut_of_not_stop fun c hc => decide_eq_false ((h c hc).ne (by decide))
  simp only [splitPath, hfragment, hquery]

theorem port?_toDigits (port : UInt16) :
    port? "http" (Nat.toDigits 10 port.toNat) =
      some (if port = 80 then none else some port.toNat, []) := by
  have hdigits : ∀ c ∈ Nat.toDigits 10 port.toNat, c.isDigit = true := fun c hc =>
    Nat.isDigit_of_mem_toDigits (by decide) (by decide) hc
  have htake : (Nat.toDigits 10 port.toNat).takeWhile Char.isDigit = Nat.toDigits 10 port.toNat :=
    List.takeWhile_eq_self_iff.mpr hdigits
  have hdrop : (Nat.toDigits 10 port.toNat).dropWhile Char.isDigit = [] :=
    List.dropWhile_eq_nil_iff.mpr hdigits
  have hsize : ¬UInt16.size ≤ port.toNat := Nat.not_le_of_lt port.toNat_lt
  have husual : usualPort? "http" = some port.toNat ↔ port = 80 := by
    rw [← UInt16.toNat_inj]
    exact ⟨fun h => (Option.some.inj h).symm, fun h => congrArg some h.symm⟩
  simp only [port?, htake, hdrop, Nat.ofDigitChars_ten_toDigits]
  by_cases hport : port = 80
  · subst hport
    rfl
  · simp [hsize, husual, hport, Nat.toDigits_ne_nil]

/-- The characters of a port's address, which no slash and no user stands in. -/
def loopbackName (port : UInt16) : List Char :=
  "127.0.0.1:".toList ++ Nat.toDigits 10 port.toNat

theorem mem_loopbackName {port : UInt16} {c : Char} (h : c ∈ loopbackName port) :
    c.isDigit = true ∨ c = '.' ∨ c = ':' := by
  rcases List.mem_append.mp h with h | h
  · have hall : "127.0.0.1:".toList.all (fun c => c.isDigit || c = '.' || c = ':') = true := by
      decide
    have hc := List.all_eq_true.mp hall c h
    simpa [or_assoc] using hc
  · exact .inl (Nat.isDigit_of_mem_toDigits (by decide) (by decide) h)

theorem authority?_loopbackName (port : UInt16) (rest : List Char) :
    authority? "http" true (loopbackName port) rest =
      some (⟨"", "", .ipv4 2130706433, if port = 80 then none else some port.toNat⟩, rest) := by
  have huser : splitUserinfo (loopbackName port) = (none, loopbackName port) := by
    have hdrop : (loopbackName port).reverse.dropWhile (· != '@') = [] := by
      refine List.dropWhile_eq_nil_iff.mpr fun c hc => ?_
      rcases mem_loopbackName (List.mem_reverse.mp hc) with hdigit | rfl | rfl
      · refine bne_iff_ne.mpr ?_
        rintro rfl
        contradiction
      · rfl
      · rfl
    rw [splitUserinfo, hdrop]
  have hsplit : splitPort false (loopbackName port) =
      ("127.0.0.1".toList, some (Nat.toDigits 10 port.toNat)) :=
    rfl
  have hhost : Host.parse? true "127.0.0.1".toList = some (.ipv4 2130706433) := by decide +kernel
  have hcredentials : credentials [] = ("", "") := rfl
  simp only [authority?, huser, hsplit, hhost, hcredentials, Option.getD_none, Option.getD_some,
    port?_toDigits, bind, Option.bind]
  rfl

/-! ## Addresses -/

theorem trimOuter_of_ends {cs : List Char} (hfirst : ∀ c, cs.head? = some c → 0x20 < c.toNat)
    (hlast : ∀ c, cs.getLast? = some c → 0x20 < c.toNat) : trimOuter cs = cs := by
  have hdrop : ∀ ds : List Char, (∀ c, ds.head? = some c → 0x20 < c.toNat) →
      (ds.dropWhile fun c => decide (c.toNat ≤ 0x20)) = ds := by
    intro ds hds
    cases ds with
    | nil => rfl
    | cons d ds =>
        refine List.dropWhile_cons_of_neg ?_
        simpa using hds d rfl
  have hreverse : ∀ c, cs.reverse.head? = some c → 0x20 < c.toNat := by
    rw [List.head?_reverse]
    exact hlast
  rw [trimOuter, hdrop cs hfirst, hdrop cs.reverse hreverse, List.reverse_reverse]

/-- Up to the first slash, a text is the authority. -/
theorem splitAuthority_loopbackName (port : UInt16) (path : List Char) :
    splitAuthority true (loopbackName port ++ '/' :: path) = (loopbackName port, '/' :: path) := by
  have hstop : ∀ c ∈ loopbackName port,
      (!(isSlash true c || decide (c = '?') || decide (c = '#'))) = true := by
    intro c hc
    rcases mem_loopbackName hc with hdigit | rfl | rfl
    · have hne : c ≠ '/' ∧ c ≠ '\\' ∧ c ≠ '?' ∧ c ≠ '#' := by
        refine ⟨?_, ?_, ?_, ?_⟩ <;> rintro rfl <;> contradiction
      simp [isSlash, hne]
    · rfl
    · rfl
  have hslash : (!(isSlash true '/' || decide ('/' = '?') || decide ('/' = '#'))) = false := rfl
  simp only [splitAuthority, List.takeWhile_append_of_pos hstop, List.dropWhile_append_of_pos hstop,
    List.takeWhile_cons, List.dropWhile_cons, hslash, Bool.false_eq_true, if_false, List.append_nil]

theorem plain_append (cs ds : List Char) : plain (cs ++ ds) = plain cs ++ plain ds :=
  List.filter_append cs ds

/-- Up to its path, an address is read as it is written, and no character that does not count is
left in the path. -/
theorem parse?_loopbackName (port : UInt16) {path : List Char}
    (hlast : ∀ c, ('/' :: path).getLast? = some c → 0x20 < c.toNat) :
    Address.parse? (String.ofList ("http://".toList ++ (loopbackName port ++ '/' :: path))) =
      some (assemble "http" true (loopback port "").authority
        (hierarchicalPath true (splitPath (plain ('/' :: path))).1)
        (splitPath (plain ('/' :: path))).2.1 (splitPath (plain ('/' :: path))).2.2) := by
  have hname : ∀ c ∈ loopbackName port, 0x20 < c.toNat := by
    intro c hc
    rcases mem_loopbackName hc with hdigit | rfl | rfl
    · have hordinary : IsOrdinary c := .inr (.inl (by simp [Char.isAlphanum, hdigit]))
      exact hordinary.isInert.1
    · decide
    · decide
  have htrim : trimOuter ("http://".toList ++ (loopbackName port ++ '/' :: path)) =
      "http://".toList ++ (loopbackName port ++ '/' :: path) := by
    refine trimOuter_of_ends ?_ ?_
    · intro c hc
      rw [← Option.some.inj hc]
      decide
    · intro c hc
      rw [← List.append_assoc, List.getLast?_append_of_ne_nil _ (List.cons_ne_nil '/' path)] at hc
      exact hlast c hc
  have hplain : plain ("http://".toList ++ (loopbackName port ++ '/' :: path)) =
      "http://".toList ++ (loopbackName port ++ '/' :: plain path) := by
    rw [plain_append, plain_append, plain_of_lt hname]
    rfl
  have hscheme : scheme? ("http://".toList ++ (loopbackName port ++ '/' :: plain path)) =
      some ("http", '/' :: '/' :: (loopbackName port ++ '/' :: plain path)) :=
    rfl
  have hslashes :
      ('/' :: '/' :: (loopbackName port ++ '/' :: plain path)).dropWhile (isSlash true) =
        loopbackName port ++ '/' :: plain path :=
    rfl
  simp only [Address.parse?, String.toList_ofList, htrim, hplain, hscheme, bind, Option.bind]
  rw [if_neg (by decide), if_pos (by decide)]
  simp only [Address.parseSpecial?, hslashes, splitAuthority_loopbackName,
    authority?_loopbackName, bind, Option.bind]
  rfl

/-- An address with inert characters in its path is read as it is written. -/
theorem parse?_loopback (port : UInt16) {path : List Char} (h : ∀ c ∈ path, IsInert c) :
    Address.parse? (String.ofList ("http://".toList ++ (loopbackName port ++ '/' :: path))) =
      some (loopback port (String.ofList ('/' :: encode pathSet path))) := by
  have hpath : ∀ c ∈ '/' :: path, IsInert c := by
    intro c hc
    rcases List.mem_cons.mp hc with rfl | hc
    · decide
    · exact h c hc
  have hplain : plain ('/' :: path) = '/' :: path := plain_of_lt fun c hc => (hpath c hc).1
  rw [parse?_loopbackName port fun c hc => (hpath c (List.mem_of_getLast? hc)).1, hplain,
    splitPath_of_isInert hpath, hierarchicalPath_of_isInert h]
  rfl

theorem text_loopback (port : UInt16) (path : String) :
    (loopback port path).text =
      "http://127.0.0.1" ++ (if port = 80 then "" else ":" ++ toString port.toNat) ++ path := by
  have hhost : (Host.ipv4 2130706433).text = "127.0.0.1" := by decide +kernel
  have hfront : "http" ++ ":" ++ "//" ++ "127.0.0.1" = "http://127.0.0.1" := by decide
  have hparts : (loopback port path).text =
      "http" ++ ":" ++ ("//" ++ ("" ++ (Host.ipv4 2130706433).text ++
        (if port = 80 then "" else ":" ++ toString port.toNat))) ++ (path ++ "") ++ "" := by
    by_cases hport : port = 80
    · rw [loopback, if_pos hport, if_pos hport]
      rfl
    · rw [loopback, if_neg hport, if_neg hport]
      rfl
  rw [hparts, hhost]
  simp only [String.empty_append, String.append_empty, ← String.append_assoc, hfront]

theorem utf8ByteSize_text_loopback_le (port : UInt16) (path : String) :
    (loopback port path).text.utf8ByteSize ≤ 22 + path.utf8ByteSize := by
  have hdigits : (toString port.toNat).utf8ByteSize ≤ 5 := by
    have hlength : (Json.natBytes port.toNat).length ≤ 4 + 1 :=
      Json.length_natBytes_le (Nat.lt_of_lt_of_le port.toNat_lt (by decide))
    exact hlength
  have hport : (if port = 80 then "" else ":" ++ toString port.toNat).utf8ByteSize ≤ 6 := by
    split
    · decide
    · rw [String.utf8ByteSize_append]
      have hcolon : ":".utf8ByteSize = 1 := by decide
      omega
  have hfront : "http://127.0.0.1".utf8ByteSize = 16 := by decide
  rw [text_loopback, String.utf8ByteSize_append, String.utf8ByteSize_append]
  omega

/-- An address is no shorter than what its path begins with. -/
theorem length_le_text_loopback (port : UInt16) (cs : List Char) (rest : String) :
    cs.length ≤ (loopback port (String.ofList cs ++ rest)).text.utf8ByteSize := by
  have hpath := Text.length_le_utf8ByteSize cs
  rw [text_loopback, String.utf8ByteSize_append, String.utf8ByteSize_append,
    String.utf8ByteSize_append]
  omega

end InvoiceGateway.Url
