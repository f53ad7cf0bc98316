import InvoiceGateway.Http.Reply
import Mathlib.Data.List.Forall2
import Mathlib.Data.List.TakeWhile

/-! # Heads of replies

A head within the limits is read as what it says, and a part of a head is none. -/

namespace InvoiceGateway.Http

/-! ## Lines -/

/-- A line with its end, which is a line feed and mostly a carriage return before it. -/
inductive LineText : Bytes → Bytes → Prop
  | short {line : Bytes} :
      (10 : UInt8) ∉ line → line.getLast? ≠ some 13 → LineText (line ++ [10]) line
  | full {line : Bytes} : (10 : UInt8) ∉ line → LineText (line ++ [13, 10]) line

theorem isLineFeed_eq_false {s : Bytes} (h : (10 : UInt8) ∉ s) :
    ∀ b ∈ s, (!isLineFeed b) = true := by
  intro b hb
  have hne : b ≠ 10 := by
    rintro rfl
    exact h hb
  simp [isLineFeed, hne]

/-- Bytes that pass a test are taken up to the first that does not. -/
theorem takeWhile_append_cons {p : UInt8 → Bool} {s : Bytes} {b : UInt8}
    (hs : ∀ x ∈ s, p x = true) (hb : p b = false) (rest : Bytes) :
    (s ++ b :: rest).takeWhile p = s := by
  rw [List.takeWhile_append_of_pos hs, List.takeWhile_cons_of_neg (by simp [hb]), List.append_nil]

theorem dropWhile_append_cons {p : UInt8 → Bool} {s : Bytes} {b : UInt8}
    (hs : ∀ x ∈ s, p x = true) (hb : p b = false) (rest : Bytes) :
    (s ++ b :: rest).dropWhile p = b :: rest := by
  rw [List.dropWhile_append_of_pos hs, List.dropWhile_cons_of_neg (by simp [hb])]

theorem takeLine_append_lineFeed {s : Bytes} (h : (10 : UInt8) ∉ s) (rest : Bytes) :
    takeLine (s ++ 10 :: rest) = some (stripReturn s, rest) := by
  have hbytes := isLineFeed_eq_false h
  have hfeed : (!isLineFeed 10) = false := rfl
  simp only [takeLine, dropWhile_append_cons hbytes hfeed, takeWhile_append_cons hbytes hfeed]

theorem takeLine_of_not_mem {s : Bytes} (h : (10 : UInt8) ∉ s) : takeLine s = none := by
  have hdrop : s.dropWhile (fun b => !isLineFeed b) = [] :=
    List.dropWhile_eq_nil_iff.mpr (isLineFeed_eq_false h)
  simp only [takeLine, hdrop]

/-- Exactly a line with its end is taken as that line. -/
theorem takeLine_eq_some_iff {s line rest : Bytes} :
    takeLine s = some (line, rest) ↔ ∃ t, LineText t line ∧ s = t ++ rest := by
  constructor
  · intro h
    by_cases hfeed : (10 : UInt8) ∈ s
    · obtain ⟨front, rest', rfl, hfront⟩ := List.eq_append_cons_of_mem hfeed
      rw [takeLine_append_lineFeed hfront] at h
      injection h with h
      injection h with hline hrest
      subst hline hrest
      by_cases hreturn : front.getLast? = some 13
      · obtain ⟨line, rfl⟩ := List.getLast?_eq_some_iff.mp hreturn
        have hstrip : stripReturn (line ++ [13]) = line := by
          rw [stripReturn, if_pos hreturn, List.dropLast_concat]
        rw [hstrip]
        refine ⟨line ++ [13, 10], .full fun hmem => hfront ?_, by simp⟩
        exact List.mem_append_left [13] hmem
      · rw [stripReturn, if_neg hreturn]
        exact ⟨front ++ [10], .short hfront hreturn, by simp⟩
    · rw [takeLine_of_not_mem hfeed] at h
      contradiction
  · rintro ⟨t, ht, rfl⟩
    cases ht with
    | short hfeed hreturn =>
        have h := takeLine_append_lineFeed hfeed rest
        rw [stripReturn, if_neg hreturn] at h
        simpa using h
    | full hfeed =>
        have hfeed' : (10 : UInt8) ∉ line ++ [13] := by simpa using hfeed
        have h := takeLine_append_lineFeed hfeed' rest
        rw [stripReturn, if_pos (by simp), List.dropLast_concat] at h
        simpa using h

/-! ## Heads -/

/-- The lines of a head after its first, through the blank line that ends it. -/
inductive LinesText : Bytes → List Bytes → Prop
  | blank {s : Bytes} : LineText s [] → LinesText s []
  | cons {s t line : Bytes} {lines : List Bytes} :
      LineText s line → line ≠ [] → LinesText t lines → LinesText (s ++ t) (line :: lines)

/-- One line is taken, and after it the others unless it is blank. -/
theorem takeHead_eq (s : Bytes) :
    takeHead s =
      match takeLine s with
      | none => none
      | some (line, rest) =>
          if line.isEmpty then some ([], rest)
          else (takeHead rest).map fun (lines, body) => (line :: lines, body) := by
  rw [takeHead]
  split
  · next h => rw [h]
  · next h => simp only [h]

theorem takeHead_eq_some_iff {s rest : Bytes} {lines : List Bytes} :
    takeHead s = some (lines, rest) ↔ ∃ t, LinesText t lines ∧ s = t ++ rest := by
  constructor
  · intro h
    fun_induction takeHead s generalizing lines with
    | case1 => contradiction
    | case2 s line rest' hline _ hempty =>
        injection h with h
        injection h with hlines hrest
        subst hlines hrest
        obtain ⟨t, ht, rfl⟩ := takeLine_eq_some_iff.mp hline
        rw [List.isEmpty_iff.mp hempty] at ht
        exact ⟨t, .blank ht, rfl⟩
    | case3 s line rest' hline _ hempty ih =>
        obtain ⟨⟨lines', rest''⟩, hhead, hpair⟩ := Option.map_eq_some_iff.mp h
        injection hpair with hlines hrest
        subst hlines hrest
        obtain ⟨t, ht, rfl⟩ := takeLine_eq_some_iff.mp hline
        obtain ⟨u, hu, rfl⟩ := ih hhead
        have hne : line ≠ [] := fun hnil => hempty (List.isEmpty_iff.mpr hnil)
        exact ⟨t ++ u, .cons ht hne hu, by simp⟩
  · rintro ⟨t, ht, rfl⟩
    induction ht with
    | @blank s hs =>
        have hline : takeLine (s ++ rest) = some ([], rest) :=
          takeLine_eq_some_iff.mpr ⟨s, hs, rfl⟩
        rw [takeHead_eq, hline]
        rfl
    | @cons s t line lines hs hne _ ih =>
        have hline : takeLine (s ++ (t ++ rest)) = some (line, t ++ rest) :=
          takeLine_eq_some_iff.mpr ⟨s, hs, rfl⟩
        have hempty : line.isEmpty = false := by simpa using hne
        rw [List.append_assoc, takeHead_eq, hline]
        simp [hempty, ih]

/-! ## What a head says -/

/-- A status line: the version, the three digits of the code, and a phrase that may be missing. -/
inductive StatusLineText : Bytes → StatusLine → Prop
  | mk {old : Bool} {a b c : UInt8} {phrase : Bytes} :
      Ascii.isDigit a = true → Ascii.isDigit b = true → Ascii.isDigit c = true →
      100 ≤ digitsNumber [a, b, c] → (phrase = [] ∨ ∃ words, phrase = 32 :: words) →
      (∀ x ∈ phrase, isTextByte x = true) →
      StatusLineText
        (Bytes.ofString (if old then "HTTP/1.0" else "HTTP/1.1") ++ 32 :: a :: b :: c :: phrase)
        ⟨old, ⟨digitsNumber [a, b, c]⟩⟩

/-- A header line: its name, a colon and its value, which count in lower case and without the blanks
around it. -/
inductive FieldText : Bytes → Bytes × Bytes → Prop
  | mk {name value : Bytes} :
      name ≠ [] → (∀ b ∈ name, isTokenByte b = true) → (∀ b ∈ value, isTextByte b = true) →
      FieldText (name ++ 58 :: value) (name.map Ascii.toLower, trimBytes value)

/-- A whole head: a status line, header lines and the blank line.  Other blank lines may stand before
it. -/
inductive HeadText : Bytes → StatusLine → List (Bytes × Bytes) → Prop
  | mk {s t line : Bytes} {lines : List Bytes} {first : StatusLine} {fields : List (Bytes × Bytes)} :
      LineText s line → StatusLineText line first → LinesText t lines →
      List.Forall₂ FieldText lines fields → HeadText (s ++ t) first fields
  | blank {s t : Bytes} {first : StatusLine} {fields : List (Bytes × Bytes)} :
      LineText s [] → HeadText t first fields → HeadText (s ++ t) first fields

/-- A head that is always taken: its header lines are not too many, no name among them is too long,
and neither is the whole. -/
structure IsWithinLimits (head : Bytes) (fields : List (Bytes × Bytes)) : Prop where
  count : fields.length ≤ headerLimit
  names : ∀ field ∈ fields, field.1.length ≤ nameLimit
  size : head.length ≤ Reply.headLimit

theorem statusLine?_of_text {line : Bytes} {first : StatusLine} (h : StatusLineText line first) :
    statusLine? line = some first := by
  cases h with
  | @mk old a b c phrase ha hb hc hcode hphrase htext =>
      have hempty : (phrase.isEmpty || phrase.head? = some 32) = true := by
        rcases hphrase with rfl | ⟨words, rfl⟩ <;> rfl
      have hall : phrase.all isTextByte = true := List.all_eq_true.mpr htext
      have hdigits : [a, b, c].all Ascii.isDigit = true := by simp [ha, hb, hc]
      have hold : Bytes.ofString "HTTP/1.0" = [72, 84, 84, 80, 47, 49, 46, 48] := rfl
      have hnew : Bytes.ofString "HTTP/1.1" = [72, 84, 84, 80, 47, 49, 46, 49] := rfl
      cases old <;> simp [statusLine?, hold, hnew, hdigits, hcode, hempty, hall]

theorem drop_length_takeWhile (p : UInt8 → Bool) (s : Bytes) :
    s.drop (s.takeWhile p).length = s.dropWhile p := by
  have h : (s.takeWhile p ++ s.dropWhile p).drop (s.takeWhile p).length = s.dropWhile p :=
    List.drop_left
  rwa [List.takeWhile_append_dropWhile] at h

theorem headerLine?_eq_some_iff {line : Bytes} {field : Bytes × Bytes} :
    headerLine? line = some field ↔ FieldText line field := by
  constructor
  · intro h
    rw [headerLine?, drop_length_takeWhile] at h
    split at h
    · next value hdrop =>
        split at h
        · contradiction
        · next hfits =>
            injection h with h
            subst h
            simp only [Bool.or_eq_true, not_or, Bool.not_eq_true, Bool.not_eq_false',
              List.isEmpty_eq_false_iff, List.all_eq_true] at hfits
            have hname : ∀ b ∈ line.takeWhile isTokenByte, isTokenByte b = true :=
              fun b hb => List.mem_takeWhile_imp hb
            have hfield := FieldText.mk hfits.1 hname hfits.2
            rwa [← hdrop, List.takeWhile_append_dropWhile] at hfield
    · contradiction
  · intro h
    cases h with
    | @mk name value hne hname hvalue =>
        have htake := takeWhile_append_cons hname (by decide : isTokenByte 58 = false) value
        have hempty : name.isEmpty = false := by simpa using hne
        have hall : value.all isTextByte = true := List.all_eq_true.mpr hvalue
        simp [headerLine?, htake, hempty, hall]

theorem mapM_headerLine? {lines : List Bytes} {fields : List (Bytes × Bytes)}
    (h : List.Forall₂ FieldText lines fields) : lines.mapM headerLine? = some fields := by
  induction h with
  | nil => rfl
  | cons hfield _ ih => simp [headerLine?_eq_some_iff.mpr hfield, ih]

theorem headers?_eq_some {lines : List Bytes} {fields : List (Bytes × Bytes)}
    (h : List.Forall₂ FieldText lines fields) (hcount : fields.length ≤ headerLimit)
    (hnames : ∀ field ∈ fields, field.1.length ≤ nameLimit) : headers? lines = some fields := by
  have hall : (fields.all fun field => field.1.length ≤ nameLimit) = true :=
    List.all_eq_true.mpr fun field hfield => decide_eq_true (hnames field hfield)
  rw [headers?, mapM_headerLine? h, Option.filter_some]
  simp only [hcount, hall, decide_true, Bool.and_self, if_true]

theorem le_of_headers? {lines : List Bytes} {fields headers : List (Bytes × Bytes)}
    (h : List.Forall₂ FieldText lines fields) (hheaders : headers? lines = some headers) :
    fields.length ≤ headerLimit ∧ ∀ field ∈ fields, field.1.length ≤ nameLimit := by
  rw [headers?, mapM_headerLine? h, Option.filter_eq_some_iff] at hheaders
  obtain ⟨hfields, hfits⟩ := hheaders
  obtain rfl := Option.some.inj hfields
  simpa using hfits

/-! ## Heads that are written -/

theorem ne_of_isTokenByte {b : UInt8} (h : isTokenByte b = true) : b ≠ 10 := by
  rintro rfl
  revert h
  decide

theorem ne_of_isTextByte {b : UInt8} (h : isTextByte b = true) : b ≠ 10 := by
  rintro rfl
  contradiction

theorem FieldText.ne_nil {line : Bytes} {field : Bytes × Bytes} (h : FieldText line field) :
    line ≠ [] := by
  cases h
  simp

theorem FieldText.not_mem {line : Bytes} {field : Bytes × Bytes} (h : FieldText line field) :
    (10 : UInt8) ∉ line := by
  cases h with
  | mk _ hname hvalue =>
      intro hmem
      rcases List.mem_append.mp hmem with hmem | hmem
      · exact ne_of_isTokenByte (hname 10 hmem) rfl
      · rcases List.mem_cons.mp hmem with hcolon | hmem
        · exact absurd hcolon (by decide)
        · exact ne_of_isTextByte (hvalue 10 hmem) rfl

theorem StatusLineText.not_mem {line : Bytes} {first : StatusLine} (h : StatusLineText line first) :
    (10 : UInt8) ∉ line := by
  cases h with
  | @mk old a b c phrase ha hb hc _ _ hphrase =>
      have hversion : (10 : UInt8) ∉ Bytes.ofString (if old then "HTTP/1.0" else "HTTP/1.1") := by
        cases old <;> decide
      have hdigit : ∀ {d : UInt8}, Ascii.isDigit d = true → (10 : UInt8) ≠ d := by
        rintro d hd rfl
        contradiction
      intro hmem
      rcases List.mem_append.mp hmem with hmem | hmem
      · exact hversion hmem
      · simp only [List.mem_cons, hdigit ha, hdigit hb, hdigit hc, false_or] at hmem
        rcases hmem with hspace | hmem
        · exact absurd hspace (by decide)
        · exact ne_of_isTextByte (hphrase 10 hmem) rfl

theorem linesText_endedLines {lines : List Bytes} {fields : List (Bytes × Bytes)}
    (h : List.Forall₂ FieldText lines fields) : LinesText (endedLines lines ++ [13, 10]) lines := by
  induction h with
  | nil => exact .blank (@LineText.full [] List.not_mem_nil)
  | cons hfield _ ih =>
      rw [endedLines, List.flatMap_cons, List.append_assoc]
      exact .cons (.full hfield.not_mem) hfield.ne_nil ih

/-- A status line and header lines, each with its end, and the blank line are a head. -/
theorem headText_endedLines {line : Bytes} {first : StatusLine} {lines : List Bytes}
    {fields : List (Bytes × Bytes)} (hfirst : StatusLineText line first)
    (hfields : List.Forall₂ FieldText lines fields) :
    HeadText (line ++ [13, 10] ++ (endedLines lines ++ [13, 10])) first fields :=
  .mk (.full hfirst.not_mem) hfirst (linesText_endedLines hfields) hfields

/-! ## Replies -/

/-- What may stand before the head of a reply: heads that announce it. -/
inductive Announcements : Bytes → Prop
  | nil : Announcements []
  | interim {s t : Bytes} {first : StatusLine} {fields : List (Bytes × Bytes)} :
      HeadText s first fields → IsWithinLimits s fields →
      Reply.isInterim first.status = true → Announcements t → Announcements (s ++ t)

theorem StatusLineText.ne_nil {line : Bytes} {first : StatusLine} (h : StatusLineText line first) :
    line ≠ [] := by
  cases h
  simp

namespace Reply

theorem isInterim_eq_false {status : Status} (h : 200 ≤ status.code) : isInterim status = false := by
  have hcode : ¬status.code < 200 := by omega
  simp [isInterim, hcode]

theorem takeMessage_eq (s : Bytes) :
    takeMessage s =
      match takeLine s with
      | none => none
      | some (line, rest) =>
          if line.isEmpty then takeMessage rest
          else (takeHead rest).map fun (lines, body) => (line, lines, body) := by
  rw [takeMessage]
  split
  · next h => rw [h]
  · next h => simp only [h]

theorem takeMessage_blank {s rest : Bytes} (h : takeLine s = some ([], rest)) :
    takeMessage s = takeMessage rest := by
  rw [takeMessage_eq, h]
  rfl

/-- A head is found, whatever follows it. -/
theorem takeMessage_append {head : Bytes} {first : StatusLine} {fields : List (Bytes × Bytes)}
    (h : HeadText head first fields) (rest : Bytes) :
    ∃ line lines, takeMessage (head ++ rest) = some (line, lines, rest) ∧
      statusLine? line = some first ∧ List.Forall₂ FieldText lines fields := by
  induction h with
  | @mk s t line lines _ _ hline hfirst hlines hfields =>
      have htake : takeLine (s ++ (t ++ rest)) = some (line, t ++ rest) :=
        takeLine_eq_some_iff.mpr ⟨s, hline, rfl⟩
      have hhead : takeHead (t ++ rest) = some (lines, rest) :=
        takeHead_eq_some_iff.mpr ⟨t, hlines, rfl⟩
      have hempty : line.isEmpty = false := by simpa using hfirst.ne_nil
      refine ⟨line, lines, ?_, statusLine?_of_text hfirst, hfields⟩
      rw [List.append_assoc, takeMessage_eq, htake]
      simp [hempty, hhead]
  | @blank s t _ _ hs _ ih =>
      have htake : takeLine (s ++ (t ++ rest)) = some ([], t ++ rest) :=
        takeLine_eq_some_iff.mpr ⟨s, hs, rfl⟩
      rwa [List.append_assoc, takeMessage_blank htake]

theorem read_of_takeMessage_none {s : Bytes} (h : takeMessage s = none) :
    read .closed s = .broken := by
  rw [read]
  split
  · split <;> rfl
  · simp_all

/-- What follows the lines of a head decides, unless its lines are refused. -/
theorem read_message {s line rest : Bytes} {lines : List Bytes} {first : StatusLine}
    (hmessage : takeMessage s = some (line, lines, rest)) (hfirst : statusLine? line = some first)
    (ending : Ending) :
    read ending s =
      if headLimit < s.length - rest.length then .broken
      else
        match headers? lines with
        | some headers =>
            if isInterim first.status then read ending rest
            else
              match framing? first headers with
              | some framing => .headed first.status (readBody framing ending rest)
              | none => .broken
        | none => .broken := by
  rw [read]
  split
  · simp_all
  · next line' lines' rest' hmessage' =>
      obtain ⟨rfl, rfl, rfl⟩ : line = line' ∧ lines = lines' ∧ rest = rest' := by
        simpa [hmessage] using hmessage'
      cases headers? lines with
      | none => simp only [hfirst]
      | some headers => cases hframing : framing? first headers <;> simp only [hfirst, hframing]

/-- A head within the limits is read as what it says. -/
theorem read_head {head : Bytes} {first : StatusLine} {fields : List (Bytes × Bytes)}
    (h : HeadText head first fields) (hlimits : IsWithinLimits head fields) (ending : Ending)
    (rest : Bytes) :
    read ending (head ++ rest) =
      if isInterim first.status then read ending rest
      else
        match framing? first fields with
        | some framing => .headed first.status (readBody framing ending rest)
        | none => .broken := by
  obtain ⟨line, lines, hmessage, hfirst, hfields⟩ := takeMessage_append h rest
  have hsize : ¬headLimit < (head ++ rest).length - rest.length := by
    rw [List.length_append, Nat.add_sub_cancel]
    exact Nat.not_lt.mpr hlimits.size
  rw [read_message hmessage hfirst, if_neg hsize,
    headers?_eq_some hfields hlimits.count hlimits.names]

/-- A head beyond the limits is no reply. -/
theorem read_beyond {head : Bytes} {first : StatusLine} {fields : List (Bytes × Bytes)}
    (h : HeadText head first fields) (hlimits : ¬IsWithinLimits head fields) (ending : Ending)
    (rest : Bytes) : read ending (head ++ rest) = .broken := by
  obtain ⟨line, lines, hmessage, hfirst, hfields⟩ := takeMessage_append h rest
  rw [read_message hmessage hfirst]
  split
  · rfl
  · next hsize =>
      rw [List.length_append, Nat.add_sub_cancel, Nat.not_lt] at hsize
      split
      · next headers hheaders =>
          obtain ⟨hcount, hnames⟩ := le_of_headers? hfields hheaders
          exact absurd ⟨hcount, hnames, hsize⟩ hlimits
      · rfl

theorem read_announcements {front : Bytes} (h : Announcements front) (ending : Ending)
    (rest : Bytes) : read ending (front ++ rest) = read ending rest := by
  induction h with
  | nil => rfl
  | interim hhead hlimits hinterim _ ih =>
      rw [List.append_assoc, read_head hhead hlimits, if_pos hinterim, ih]

/-- What arrives of a reply is told by its head and what follows the head. -/
theorem read_append {front head : Bytes} {first : StatusLine} {fields : List (Bytes × Bytes)}
    {framing : Framing} (hfront : Announcements front) (hhead : HeadText head first fields)
    (hlimits : IsWithinLimits head fields) (hfinal : isInterim first.status = false)
    (hframing : framing? first fields = some framing) (ending : Ending) (rest : Bytes) :
    read ending (front ++ head ++ rest) =
      .headed first.status (readBody framing ending rest) := by
  rw [List.append_assoc, read_announcements hfront, read_head hhead hlimits, hfinal, hframing]
  rfl

end Reply

/-! ## Heads that are cut off -/

/-- A part of two texts stops in the first, or else takes a part of the second. -/
theorem part_append {part s t : Bytes} (h : part <+: s ++ t) :
    (part <+: s ∧ part ≠ s) ∨ ∃ rest, part = s ++ rest ∧ rest <+: t := by
  obtain ⟨cut, hcut⟩ := h
  rcases List.append_eq_append_iff.mp hcut with ⟨front, rfl, -⟩ | ⟨rest, rfl, rfl⟩
  · cases front with
    | nil => exact .inr ⟨[], by simp, List.nil_prefix⟩
    | cons b front => exact .inl ⟨⟨b :: front, rfl⟩, by simp⟩
  · exact .inr ⟨rest, rfl, cut, rfl⟩

/-- The only line feed of a line is its last byte. -/
theorem LineText.exists_append {t line : Bytes} (h : LineText t line) :
    ∃ u, (10 : UInt8) ∉ u ∧ t = u ++ [10] := by
  cases h with
  | short hfeed _ => exact ⟨line, hfeed, rfl⟩
  | full hfeed => exact ⟨line ++ [13], by simpa using hfeed, by simp⟩

theorem takeLine_part {part t line : Bytes} (h : LineText t line) (hpart : part <+: t)
    (hne : part ≠ t) : takeLine part = none := by
  obtain ⟨u, hfeed, rfl⟩ := h.exists_append
  have hu : part <+: u := (List.prefix_concat_iff.mp hpart).resolve_left hne
  exact takeLine_of_not_mem fun hmem => hfeed (hu.subset hmem)

theorem takeHead_part {part t : Bytes} {lines : List Bytes} (h : LinesText t lines)
    (hpart : part <+: t) (hne : part ≠ t) : takeHead part = none := by
  induction h generalizing part with
  | blank hs => rw [takeHead_eq, takeLine_part hs hpart hne]
  | @cons s t line lines hs hnil _ ih =>
      rcases part_append hpart with ⟨hpart, hne⟩ | ⟨rest, rfl, hrest⟩
      · rw [takeHead_eq, takeLine_part hs hpart hne]
      · have hline : takeLine (s ++ rest) = some (line, rest) :=
          takeLine_eq_some_iff.mpr ⟨s, hs, rfl⟩
        have hempty : line.isEmpty = false := by simpa using hnil
        have hnone := ih hrest fun h => hne (by rw [h])
        rw [takeHead_eq, hline]
        simp [hempty, hnone]

theorem Reply.takeMessage_part {part head : Bytes} {first : StatusLine}
    {fields : List (Bytes × Bytes)} (h : HeadText head first fields) (hpart : part <+: head)
    (hne : part ≠ head) : takeMessage part = none := by
  induction h generalizing part with
  | @mk s t line lines _ _ hline hfirst hlines hfields =>
      rcases part_append hpart with ⟨hpart, hne⟩ | ⟨rest, rfl, hrest⟩
      · rw [takeMessage_eq, takeLine_part hline hpart hne]
      · have htake : takeLine (s ++ rest) = some (line, rest) :=
          takeLine_eq_some_iff.mpr ⟨s, hline, rfl⟩
        have hempty : line.isEmpty = false := by simpa using hfirst.ne_nil
        have hnone := takeHead_part hlines hrest fun h => hne (by rw [h])
        rw [takeMessage_eq, htake]
        simp [hempty, hnone]
  | @blank s t _ _ hs _ ih =>
      rcases part_append hpart with ⟨hpart, hne⟩ | ⟨rest, rfl, hrest⟩
      · rw [takeMessage_eq, takeLine_part hs hpart hne]
      · have htake : takeLine (s ++ rest) = some ([], rest) :=
          takeLine_eq_some_iff.mpr ⟨s, hs, rfl⟩
        rw [takeMessage_blank htake]
        exact ih hrest fun h => hne (by rw [h])

/-- Where a head is cut off, nothing of the reply is known. -/
theorem Reply.read_part {part head : Bytes} {first : StatusLine} {fields : List (Bytes × Bytes)}
    (h : HeadText head first fields) (hpart : part <+: head) (hne : part ≠ head) :
    read .closed part = .broken :=
  read_of_takeMessage_none (takeMessage_part h hpart hne)

end InvoiceGateway.Http
