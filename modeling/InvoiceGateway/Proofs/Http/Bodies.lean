import InvoiceGateway.Proofs.Http.Heads

/-! # Bodies on the wire

When the whole of a body has arrived, for each way of finding its end. -/

namespace InvoiceGateway.Http

/-! ## Chunks -/

/-- The number that hexadecimal digits spell. -/
def hexNumber (digits : Bytes) : Nat :=
  digits.foldl (fun n d => n * 16 + (Ascii.hexDigit? d).getD 0) 0

/-- The line that opens a chunk: its size in digits, blanks that do not count, and an extension, of
which all but the semicolon counts towards the limit. -/
inductive SizeText : Bytes → Nat → Nat → Prop
  | mk {digits blanks extension : Bytes} :
      digits ≠ [] → (∀ d ∈ digits, (Ascii.hexDigit? d).isSome = true) →
      (∀ b ∈ blanks, isSpaceByte b = true) → (extension = [] ∨ ∃ t, extension = 59 :: t) →
      (∀ b ∈ extension, isInLine b = true) → hexNumber digits < UInt64.size →
      SizeText (digits ++ blanks ++ extension) (hexNumber digits) (extension.length - 1)

/-- What follows the last chunk: lines with no more header lines in them than they are, and a blank
line.  A header line may also end in a line feed alone. -/
inductive TrailersText : Bytes → Prop
  | mk {lines : List Bytes} {head rest : Bytes} {headLines : List Bytes}
      {fields : List (Bytes × Bytes)} :
      (∀ line ∈ lines, line ≠ [] ∧ (13 : UInt8) ∉ line) → lines.length < headerLimit →
      LinesText head headLines → List.Forall₂ FieldText headLines fields →
      headLines.length ≤ lines.length → endedLines lines ++ [13, 10] = head ++ rest →
      (endedLines lines ++ [13, 10]).length ≤ trailerLimit →
      TrailersText (endedLines lines ++ [13, 10])

/-- Chunks through the empty one and what follows it, the body they make up, and how much of their
extensions counts. -/
inductive ChunksText : Bytes → Bytes → Nat → Prop
  | last {size trailers : Bytes} {e : Nat} :
      SizeText size 0 e → TrailersText trailers → ChunksText (size ++ 13 :: 10 :: trailers) [] e
  | cons {size data s body : Bytes} {e e' : Nat} :
      SizeText size data.length e → data ≠ [] → ChunksText s body e' →
      ChunksText (size ++ 13 :: 10 :: data ++ 13 :: 10 :: s) (data ++ body) (e + e')

theorem isInLine_of_hexDigit {d : UInt8} (h : (Ascii.hexDigit? d).isSome = true) :
    isInLine d = true ∧ isSpaceByte d = false ∧ d ≠ 59 := by
  have hne : d ≠ 13 ∧ d ≠ 10 ∧ d ≠ 32 ∧ d ≠ 9 ∧ d ≠ 59 := by
    refine ⟨?_, ?_, ?_, ?_, ?_⟩ <;> rintro rfl <;> contradiction
  simp [isInLine, isSpaceByte, hne]

theorem isInLine_of_isSpaceByte {b : UInt8} (h : isSpaceByte b = true) :
    isInLine b = true ∧ (Ascii.hexDigit? b).isSome = false := by
  simp only [isSpaceByte, Bool.or_eq_true, decide_eq_true_eq] at h
  rcases h with rfl | rfl <;> decide

theorem SizeText.forall_isInLine {size : Bytes} {n e : Nat} (h : SizeText size n e) :
    ∀ b ∈ size, isInLine b = true := by
  cases h with
  | mk _ hdigits hblanks _ hextension _ =>
      intro b hb
      rcases List.mem_append.mp hb with hb | hb
      · rcases List.mem_append.mp hb with hb | hb
        · exact (isInLine_of_hexDigit (hdigits b hb)).1
        · exact (isInLine_of_isSpaceByte (hblanks b hb)).1
      · exact hextension b hb

/-- Neither blanks nor an extension begin with a hexadecimal digit. -/
theorem takeWhile_hexDigit_append {digits blanks extension : Bytes}
    (hdigits : ∀ d ∈ digits, (Ascii.hexDigit? d).isSome = true)
    (hblanks : ∀ b ∈ blanks, isSpaceByte b = true)
    (hextension : extension = [] ∨ ∃ t, extension = 59 :: t) :
    (digits ++ blanks ++ extension).takeWhile (fun b => (Ascii.hexDigit? b).isSome) = digits := by
  have hrest : (blanks ++ extension).takeWhile (fun b => (Ascii.hexDigit? b).isSome) = [] := by
    cases blanks with
    | cons b blanks =>
        have hb := (isInLine_of_isSpaceByte (hblanks b List.mem_cons_self)).2
        simp [hb]
    | nil => rcases hextension with rfl | ⟨t, rfl⟩ <;> rfl
  rw [List.append_assoc, List.takeWhile_append_of_pos hdigits, hrest, List.append_nil]

/-- A line that says a size is a text of it. -/
theorem sizeText_of_chunkSize? {line : Bytes} (hline : ∀ b ∈ line, isInLine b = true)
    {room left n : Nat} (h : chunkSize? room line = some (n, left)) :
    ∃ e, SizeText line n e ∧ room = e + left := by
  rw [chunkSize?, drop_length_takeWhile] at h
  -- The three parts of the line, as the reader finds them.
  generalize hdigits : line.takeWhile (fun b => (Ascii.hexDigit? b).isSome) = digits at h
  generalize hafter : line.dropWhile (fun b => (Ascii.hexDigit? b).isSome) = after at h
  generalize hextension : after.dropWhile isSpaceByte = extension at h
  have hsplit : line = digits ++ after.takeWhile isSpaceByte ++ extension := by
    rw [← hextension, List.append_assoc, List.takeWhile_append_dropWhile, ← hafter, ← hdigits,
      List.takeWhile_append_dropWhile]
  split at h
  · contradiction
  · next hfits =>
      split at h
      · next hlimits =>
          injection h with h
          injection h with hnumber hleft
          simp only [Bool.or_eq_true, not_or, Bool.not_eq_true, Bool.not_eq_false',
            List.isEmpty_eq_false_iff, decide_eq_true_eq] at hfits
          simp only [Bool.and_eq_true, decide_eq_true_eq] at hlimits
          obtain ⟨hne, hbegins⟩ := hfits
          obtain ⟨hsize, hroom⟩ := hlimits
          refine ⟨extension.length - 1, ?_, by omega⟩
          rw [← hnumber, hsplit]
          refine .mk hne ?_ (fun b hb => List.mem_takeWhile_imp hb) ?_ ?_ hsize
          · rw [← hdigits]
            exact fun d hd => List.mem_takeWhile_imp (p := fun b => (Ascii.hexDigit? b).isSome) hd
          · cases extension with
            | nil => exact .inl rfl
            | cons b t => exact .inr ⟨t, by simpa using hbegins⟩
          · exact fun b hb => hline b (hsplit ▸ List.mem_append_right _ hb)
      · contradiction

theorem chunkSize?_of_sizeText {line : Bytes} {n e room : Nat} (h : SizeText line n e)
    (hroom : e ≤ room) : chunkSize? room line = some (n, room - e) := by
  cases h with
  | @mk digits blanks extension hne hdigits hblanks hextension _ hsize =>
      have htake := takeWhile_hexDigit_append hdigits hblanks hextension
      have hdrop : (digits ++ blanks ++ extension).drop digits.length = blanks ++ extension := by
        rw [List.append_assoc, List.drop_left]
      have hrest : (blanks ++ extension).dropWhile isSpaceByte = extension := by
        rw [List.dropWhile_append_of_pos hblanks]
        rcases hextension with rfl | ⟨t, rfl⟩ <;> rfl
      have hends : (extension.isEmpty || extension.head? = some 59) = true := by
        rcases hextension with rfl | ⟨t, rfl⟩ <;> rfl
      have hempty : digits.isEmpty = false := by simpa using hne
      rw [chunkSize?, htake, hdrop, hrest, hempty, hends]
      have hlimits : (hexNumber digits < UInt64.size && extension.length - 1 ≤ room) = true := by
        simp [hsize, hroom]
      exact if_pos hlimits

/-! ## Reading chunks -/

theorem all_headerLine?_iff {lines : List Bytes} :
    (lines.all fun l => (headerLine? l).isSome) = true ↔
      ∃ fields, List.Forall₂ FieldText lines fields := by
  induction lines with
  | nil => exact ⟨fun _ => ⟨[], .nil⟩, fun _ => rfl⟩
  | cons line lines ih =>
      rw [List.all_cons, Bool.and_eq_true, ih, Option.isSome_iff_exists]
      constructor
      · rintro ⟨⟨field, hfield⟩, fields, hfields⟩
        exact ⟨field :: fields, .cons (headerLine?_eq_some_iff.mp hfield) hfields⟩
      · rintro ⟨_, hfields⟩
        cases hfields with
        | @cons _ field _ fields hfield hfields =>
            exact ⟨⟨field, headerLine?_eq_some_iff.mpr hfield⟩, fields, hfields⟩

theorem arrival_ne_complete (ending : Ending) (body : Bytes) :
    ending.arrival ≠ .complete body := by
  cases ending <;> simp [Ending.arrival]

theorem forall_isInTrailer {line : Bytes} (h : (13 : UInt8) ∉ line) :
    ∀ b ∈ line, isInTrailer b = true := by
  intro b hb
  have hne : b ≠ 13 := by
    rintro rfl
    exact h hb
  simp [isInTrailer, hne]

theorem areTrailers_iff {lines : List Bytes} :
    areTrailers lines = true ↔
      lines.length < headerLimit ∧ ∃ head headLines fields rest, LinesText head headLines ∧
        List.Forall₂ FieldText headLines fields ∧ headLines.length ≤ lines.length ∧
        endedLines lines ++ [13, 10] = head ++ rest := by
  rw [areTrailers, Bool.and_eq_true, decide_eq_true_eq, Option.any_eq_true]
  refine and_congr_right fun _ => ⟨?_, ?_⟩
  · rintro ⟨⟨headLines, rest⟩, hhead, hfits⟩
    obtain ⟨hcount, hall⟩ := Bool.and_eq_true_iff.mp hfits
    obtain ⟨head, hlines, hsplit⟩ := takeHead_eq_some_iff.mp hhead
    obtain ⟨fields, hfields⟩ := all_headerLine?_iff.mp hall
    exact ⟨head, headLines, fields, rest, hlines, hfields, of_decide_eq_true hcount, hsplit⟩
  · rintro ⟨head, headLines, fields, rest, hlines, hfields, hcount, hsplit⟩
    refine ⟨(headLines, rest), takeHead_eq_some_iff.mpr ⟨head, hlines, hsplit⟩, ?_⟩
    rw [Bool.and_eq_true]
    exact ⟨decide_eq_true hcount, all_headerLine?_iff.mpr ⟨fields, hfields⟩⟩

/-- Lines through a blank one are read as trailers, whatever follows them. -/
theorem readTrailerLines_append {lines seen : List Bytes}
    (hlines : ∀ line ∈ lines, line ≠ [] ∧ (13 : UInt8) ∉ line)
    (hcount : (seen ++ lines).length < headerLimit) (ending : Ending) (done rest : Bytes) :
    readTrailerLines ending done seen (endedLines lines ++ 13 :: 10 :: rest) =
      if areTrailers (seen ++ lines) then .complete done else .broken := by
  induction lines generalizing seen with
  | nil =>
      have hdrop : (13 :: 10 :: rest).dropWhile isInTrailer = 13 :: 10 :: rest := rfl
      have htake : (13 :: 10 :: rest).takeWhile isInTrailer = [] := rfl
      rw [endedLines, List.flatMap_nil, List.nil_append, List.append_nil, readTrailerLines]
      split <;> simp_all
  | cons line lines ih =>
      obtain ⟨⟨hne, hreturn⟩, hlines⟩ := List.forall_mem_cons.mp hlines
      have hline := forall_isInTrailer hreturn
      have hsplit : endedLines (line :: lines) ++ 13 :: 10 :: rest =
          line ++ 13 :: 10 :: (endedLines lines ++ 13 :: 10 :: rest) := by
        simp [endedLines]
      have hdrop := dropWhile_append_cons hline (by rfl : isInTrailer 13 = false)
        (10 :: (endedLines lines ++ 13 :: 10 :: rest))
      have htake := takeWhile_append_cons hline (by rfl : isInTrailer 13 = false)
        (10 :: (endedLines lines ++ 13 :: 10 :: rest))
      have hempty : line.isEmpty = false := by simpa using hne
      have hroom : ¬headerLimit ≤ seen.length := by
        simp only [List.length_append, List.length_cons] at hcount
        omega
      have hcount' : ((seen ++ [line]) ++ lines).length < headerLimit := by simpa using hcount
      have hnext := ih hlines hcount'
      rw [List.append_assoc, List.singleton_append] at hnext
      rw [← hnext, hsplit, readTrailerLines]
      split
      case h_3 rest' hdrop' =>
        obtain rfl : endedLines lines ++ 13 :: 10 :: rest = rest' := by simpa [hdrop] using hdrop'
        simp only [htake, hempty, hroom, Bool.false_eq_true, if_false]
      all_goals simp_all

/-- Trailers that were read stand there as lines through a blank one. -/
theorem exists_of_readTrailerLines {ending : Ending} {done body s : Bytes} {seen : List Bytes}
    (h : readTrailerLines ending done seen s = .complete body) :
    body = done ∧ ∃ lines rest, (∀ line ∈ lines, line ≠ [] ∧ (13 : UInt8) ∉ line) ∧
      areTrailers (seen ++ lines) = true ∧ s = endedLines lines ++ 13 :: 10 :: rest := by
  fun_induction readTrailerLines ending done seen s with
  | case1 | case2 => exact absurd h (arrival_ne_complete _ body)
  | case4 | case5 | case7 => contradiction
  | case3 seen s rest hdrop _ line hempty htrailers =>
      injection h with h
      have htake : s.takeWhile isInTrailer = [] := List.isEmpty_iff.mp hempty
      have hsplit : s = 13 :: 10 :: rest := by
        have happend := List.takeWhile_append_dropWhile (p := isInTrailer) (l := s)
        rw [htake, hdrop] at happend
        exact happend.symm
      exact ⟨h.symm, [], rest, by simp, by simpa using htrailers, hsplit⟩
  | case6 seen s rest hdrop _ line hempty hroom ih =>
      obtain ⟨rfl, lines, tail, hlines, htrailers, rfl⟩ := ih h
      have hne : line ≠ [] := fun hnil => hempty (List.isEmpty_iff.mpr hnil)
      have hreturn : (13 : UInt8) ∉ line := fun hmem =>
        absurd (List.mem_takeWhile_imp hmem) (by decide)
      have hsplit : s = line ++ 13 :: 10 :: (endedLines lines ++ 13 :: 10 :: tail) := by
        rw [← hdrop, List.takeWhile_append_dropWhile]
      refine ⟨rfl, line :: lines, tail, List.forall_mem_cons.mpr ⟨⟨hne, hreturn⟩, hlines⟩, ?_, ?_⟩
      · simpa using htrailers
      · simpa [endedLines] using hsplit

theorem readTrailers_eq_complete_iff {ending : Ending} {done s body : Bytes} :
    readTrailers ending done s = .complete body ↔
      body = done ∧ ∃ t rest, TrailersText t ∧ s = t ++ rest := by
  constructor
  · intro h
    obtain ⟨rfl, lines, rest, hlines, htrailers, hsplit⟩ := exists_of_readTrailerLines h
    rw [List.nil_append] at htrailers
    obtain ⟨hcount, head, headLines, fields, tail, hhead, hfields, hfew, heq⟩ :=
      areTrailers_iff.mp htrailers
    have hwhole : s = (endedLines lines ++ [13, 10]) ++ (rest ++ s.drop trailerLimit) := by
      conv_lhs => rw [← List.take_append_drop trailerLimit s, hsplit]
      simp
    have hsize : (endedLines lines ++ [13, 10]).length ≤ trailerLimit := by
      have hlen := congrArg List.length hsplit
      have := List.length_take_le trailerLimit s
      simp only [List.length_append, List.length_cons, List.length_nil] at hlen ⊢
      omega
    exact ⟨rfl, _, _, .mk hlines hcount hhead hfields hfew heq hsize, hwhole⟩
  · rintro ⟨rfl, t, rest, ht, rfl⟩
    cases ht with
    | @mk lines head tail headLines fields hlines hcount hhead hfields hfew heq hsize =>
        have htrailers : areTrailers lines = true :=
          areTrailers_iff.mpr ⟨hcount, head, headLines, fields, tail, hhead, hfields, hfew, heq⟩
        have htake : ((endedLines lines ++ [13, 10]) ++ rest).take trailerLimit =
            endedLines lines ++ 13 :: 10 ::
              rest.take (trailerLimit - (endedLines lines ++ [13, 10]).length) := by
          rw [List.take_append, List.take_of_length_le hsize, List.append_assoc]
          rfl
        have hcount' : ([] ++ lines).length < headerLimit := hcount
        rw [readTrailers, htake, readTrailerLines_append hlines hcount', List.nil_append, htrailers]
        rfl

/-- The line that opens a chunk is split from the data after it. -/
theorem SizeText.takeWhile_dropWhile {size : Bytes} {n e : Nat} (h : SizeText size n e)
    (rest : Bytes) :
    (size ++ 13 :: 10 :: rest).takeWhile isInLine = size ∧
      (size ++ 13 :: 10 :: rest).dropWhile isInLine = 13 :: 10 :: rest :=
  ⟨takeWhile_append_cons h.forall_isInLine rfl _, dropWhile_append_cons h.forall_isInLine rfl _⟩

theorem readChunks_last {size : Bytes} {e room : Nat} (hsize : SizeText size 0 e) (hroom : e ≤ room)
    (ending : Ending) (done rest : Bytes) :
    readChunks ending room done (size ++ 13 :: 10 :: rest) = readTrailers ending done rest := by
  obtain ⟨htake, hdrop⟩ := hsize.takeWhile_dropWhile rest
  have hnumber := chunkSize?_of_sizeText hsize hroom
  rw [← htake] at hnumber
  rw [readChunks]
  split
  case h_6 _ _ hsize' _ _ hother _ =>
    rw [hnumber] at hsize'
    exact (hother _ _ hdrop (Option.some.inj hsize').symm).elim
  all_goals simp_all

theorem readChunks_cons {size data : Bytes} {e room : Nat} (hsize : SizeText size data.length e)
    (hroom : e ≤ room) (hne : data ≠ []) (ending : Ending) (done rest : Bytes) :
    readChunks ending room done (size ++ 13 :: 10 :: (data ++ 13 :: 10 :: rest)) =
      readChunks ending (room - e) (done ++ data) rest := by
  obtain ⟨htake, hdrop⟩ := hsize.takeWhile_dropWhile (data ++ 13 :: 10 :: rest)
  have hnumber := chunkSize?_of_sizeText hsize hroom
  obtain ⟨n, hlen⟩ : ∃ n, data.length = n + 1 :=
    Nat.exists_eq_add_one_of_ne_zero fun h => hne (List.length_eq_zero_iff.mp h)
  have hdata : (data ++ 13 :: 10 :: rest).take (n + 1) = data := by rw [← hlen, List.take_left]
  have hafter : (data ++ 13 :: 10 :: rest).drop (n + 1) = 13 :: 10 :: rest := by
    rw [← hlen, List.drop_left]
  rw [← htake, hlen] at hnumber
  rw [readChunks]
  split
  case h_5 _ n' left after hsize' hdrop' =>
    obtain ⟨rfl, rfl⟩ : n = n' ∧ room - e = left := by simpa [hnumber] using hsize'
    obtain rfl : data ++ 13 :: 10 :: rest = after := by simpa [hdrop] using hdrop'
    rw [hdata]
    split <;> simp_all
  case h_6 _ _ hsize' _ _ _ hother =>
    rw [hnumber] at hsize'
    exact (hother n _ _ hdrop (Option.some.inj hsize').symm).elim
  all_goals simp_all

/-- Chunks that were read stand there in full. -/
theorem exists_of_readChunks {ending : Ending} {room : Nat} {done s body : Bytes}
    (h : readChunks ending room done s = .complete body) :
    ∃ t content e rest, ChunksText t content e ∧ e ≤ room ∧ s = t ++ rest ∧
      body = done ++ content := by
  fun_induction readChunks ending room done s with
  | case1 | case3 | case4 | case7 | case8 => exact absurd h (arrival_ne_complete ending body)
  | case2 | case9 | case10 => contradiction
  | case5 room done s left rest hdrop hsize =>
      obtain ⟨rfl, t, rest, ht, rfl⟩ := readTrailers_eq_complete_iff.mp h
      obtain ⟨e, htext, hroom⟩ :=
        sizeText_of_chunkSize? (fun b hb => List.mem_takeWhile_imp hb) hsize
      have hsplit : s = s.takeWhile isInLine ++ 13 :: 10 :: (t ++ rest) := by
        rw [← hdrop, List.takeWhile_append_dropWhile]
      refine ⟨_, [], e, rest, .last htext ht, by omega, ?_, by simp⟩
      simpa using hsplit
  | case6 room done s n left rest hdrop hsize rest' hrest _ ih =>
      obtain ⟨t, content, e', tail, ht, hleft, rfl, rfl⟩ := ih h
      obtain ⟨e, htext, hroom⟩ :=
        sizeText_of_chunkSize? (fun b hb => List.mem_takeWhile_imp hb) hsize
      have hlen : (rest.take (n + 1)).length = n + 1 := by
        have := congrArg List.length hrest
        simp only [List.length_drop, List.length_cons] at this
        rw [List.length_take]
        omega
      have hsplit : s = s.takeWhile isInLine ++ 13 :: 10 ::
          (rest.take (n + 1) ++ 13 :: 10 :: (t ++ tail)) := by
        rw [← hrest, List.take_append_drop, ← hdrop, List.takeWhile_append_dropWhile]
      rw [Nat.succ_eq_add_one, ← hlen] at htext
      refine ⟨_, _, e + e', tail, .cons htext ?_ ht, by omega, ?_, List.append_assoc _ _ _⟩
      · exact fun hnil => by simp [hnil] at hlen
      · simpa using hsplit

/-- Chunks that stand there in full are read, whatever follows them. -/
theorem readChunks_append {t content : Bytes} {e room : Nat} (h : ChunksText t content e)
    (hroom : e ≤ room) (ending : Ending) (done rest : Bytes) :
    readChunks ending room done (t ++ rest) = .complete (done ++ content) := by
  induction h generalizing room done with
  | @last size trailers e hsize htrailers =>
      have hread : readTrailers ending done (trailers ++ rest) = .complete done :=
        readTrailers_eq_complete_iff.mpr ⟨rfl, trailers, rest, htrailers, rfl⟩
      simpa using (readChunks_last hsize hroom ending done (trailers ++ rest)).trans hread
  | @cons size data s body e e' hsize hne _ ih =>
      have hread := readChunks_cons hsize (by omega : e ≤ room) hne ending done (s ++ rest)
      rw [ih (by omega : e' ≤ room - e)] at hread
      simpa using hread

/-! ## Whole bodies -/

/-- All of a body arrived, as its framing tells. -/
def WholeBody (framing : Framing) (ending : Ending) (s body : Bytes) : Prop :=
  match framing with
  | .absent => body = []
  | .length n => body.length = n ∧ body <+: s
  | .chunked => ∃ t e, ChunksText t body e ∧ e ≤ extensionLimit ∧ t <+: s
  | .untilClosed => ending = .closed ∧ body = s

/-- A body is read exactly when all of it arrived. -/
theorem readBody_eq_complete_iff {framing : Framing} {ending : Ending} {s body : Bytes} :
    readBody framing ending s = .complete body ↔ WholeBody framing ending s body := by
  cases framing with
  | absent => simp [readBody, WholeBody, eq_comm]
  | length n =>
      simp only [readBody, WholeBody]
      split
      · next hshort =>
          refine ⟨fun h => absurd h (arrival_ne_complete ending body), ?_⟩
          rintro ⟨hlen, hpart⟩
          exact absurd hpart.length_le (by omega)
      · next hlong =>
          constructor
          · intro h
            injection h with h
            subst h
            exact ⟨by rw [List.length_take]; omega, List.take_prefix n s⟩
          · rintro ⟨rfl, hpart⟩
            exact congrArg Arrival.complete (List.prefix_iff_eq_take.mp hpart).symm
  | chunked =>
      constructor
      · intro h
        obtain ⟨t, content, e, rest, ht, hroom, rfl, rfl⟩ := exists_of_readChunks h
        exact ⟨t, e, ht, hroom, t.prefix_append rest⟩
      · rintro ⟨t, e, ht, hroom, rest, rfl⟩
        exact readChunks_append ht hroom ending [] rest
  | untilClosed => cases ending <;> simp [readBody, WholeBody, eq_comm]

end InvoiceGateway.Http
