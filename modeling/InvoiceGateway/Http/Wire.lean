import InvoiceGateway.Bytes
import InvoiceGateway.Http.Message

/-! # Messages on the wire

The limits on heads, extensions and trailers are those of the HTTP library. -/

namespace InvoiceGateway.Http

/-- What becomes of the stream after its last byte. -/
inductive Ending
  | closed
  | stalled
deriving DecidableEq, Repr

/-- How much of a body arrived. -/
inductive Arrival
  | complete (body : Bytes)
  /-- The connection was closed too early, or the body is not framed as it should be. -/
  | broken
  /-- The rest was awaited in vain. -/
  | late
deriving DecidableEq, Repr

/-- What is missing when the stream ends. -/
def Ending.arrival : Ending → Arrival
  | .closed => .broken
  | .stalled => .late

/-! ## Lines -/

/-- Whether a byte is a line feed. -/
def isLineFeed (b : UInt8) : Bool :=
  b = 10

/-- A line without the carriage return before its line feed. -/
def stripReturn (line : Bytes) : Bytes :=
  if line.getLast? = some 13 then line.dropLast else line

/-- Splits off the first line, if its line feed is there. -/
def takeLine (s : Bytes) : Option (Bytes × Bytes) :=
  match s.dropWhile fun b => !isLineFeed b with
  | [] => none
  | _ :: rest => some (stripReturn (s.takeWhile fun b => !isLineFeed b), rest)

theorem length_of_takeLine {s line rest : Bytes} (h : takeLine s = some (line, rest)) :
    rest.length < s.length := by
  unfold takeLine at h
  split at h
  · contradiction
  · next b tail hs =>
      simp only [Option.some.injEq, Prod.mk.injEq] at h
      obtain ⟨_, rfl⟩ := h
      have hle := (List.dropWhile_suffix (fun b => !isLineFeed b) (l := s)).length_le
      rw [hs, List.length_cons] at hle
      omega

/-- The lines before the first blank line, and what follows it. -/
def takeHead (s : Bytes) : Option (List Bytes × Bytes) :=
  match h : takeLine s with
  | none => none
  | some (line, rest) =>
      have := length_of_takeLine h
      if line.isEmpty then some ([], rest)
      else (takeHead rest).map fun (lines, body) => (line :: lines, body)
termination_by s.length

theorem length_of_takeHead {s rest : Bytes} {lines : List Bytes}
    (h : takeHead s = some (lines, rest)) : rest.length < s.length := by
  fun_induction takeHead s generalizing lines with
  | case1 => contradiction
  | case2 s line rest' hline hlt hempty =>
      simp only [Option.some.injEq, Prod.mk.injEq] at h
      obtain ⟨_, rfl⟩ := h
      exact hlt
  | case3 s line rest' hline hlt hempty ih =>
      obtain ⟨p, hp, heq⟩ := Option.map_eq_some_iff.1 h
      simp only [Prod.mk.injEq] at heq
      obtain ⟨_, rfl⟩ := heq
      exact Nat.lt_trans (ih hp) hlt

/-! ## Headers -/

def digitsNumber (digits : Bytes) : Nat :=
  digits.foldl (fun n d => n * 10 + Ascii.digitValue d) 0

/-- Blanks within a line. -/
def isSpaceByte (b : UInt8) : Bool :=
  b = 32 || b = 9

def trimBytes (s : Bytes) : Bytes :=
  ((s.dropWhile isSpaceByte).reverse.dropWhile isSpaceByte).reverse

/-- The name, in lower case, and the value in a header line. -/
def headerLine? (line : Bytes) : Option (Bytes × Bytes) :=
  let name := line.takeWhile isTokenByte
  match line.drop name.length with
  | 58 :: value =>
      if name.isEmpty || !value.all isTextByte then none
      else some (name.map Ascii.toLower, trimBytes value)
  | _ => none

/-- The most header lines that a head may have. -/
def headerLimit : Nat := 100

/-- The headers in the lines of a head, if there are not too many and no name is too long. -/
def headers? (lines : List Bytes) : Option (List (Bytes × Bytes)) :=
  (lines.mapM headerLine?).filter fun headers =>
    headers.length ≤ headerLimit && headers.all fun header => header.1.length ≤ nameLimit

/-- The values of the headers with a name. -/
def headerValues (name : String) (headers : List (Bytes × Bytes)) : List Bytes :=
  (headers.filter fun (n, _) => n = Bytes.ofString name).map Prod.snd

/-- The items of a value, which commas separate. -/
def listItems (value : Bytes) : List Bytes :=
  (value.splitOn 44).map trimBytes

/-! ## Framing -/

/-- How the end of a body is found. -/
inductive Framing
  | absent
  | length (n : Nat)
  | chunked
  | untilClosed
deriving DecidableEq, Repr

/-- The greatest length of a body; the two numbers of sixty-four bits above it tell of bodies
without a length. -/
def lengthLimit : Nat :=
  UInt64.size - 3

/-- A length, which is at least one digit. -/
def lengthValue? (digits : Bytes) : Option Nat :=
  if digits.isEmpty || !digits.all Ascii.isDigit then none
  else if digitsNumber digits ≤ lengthLimit then some (digitsNumber digits)
  else none

/-- The length that the values of a header agree on. -/
def agreedLength? (values : List Bytes) : Option Nat :=
  match (values.flatMap listItems).mapM lengthValue? with
  | some (n :: others) => if others.all (· = n) then some n else none
  | _ => none

/-- Whether the last of some transfer codings is the one in chunks; it counts only in a value that is
ASCII throughout. -/
def endsChunked (codings : List Bytes) : Bool :=
  codings.getLast?.any fun value =>
    value.all (· < 128) &&
      ((listItems value).getLast?.map fun coding => coding.map Ascii.toLower)
        = some (Bytes.ofString "chunked")

/-! ## Bodies -/

/-- Bytes within the line that opens a chunk. -/
def isInLine (b : UInt8) : Bool :=
  b != 13 && b != 10

/-- The most bytes that the extensions of all chunks of a body may have. -/
def extensionLimit : Nat := 16383

/-- The size in the line that opens a chunk, and what is left of the room for extensions. -/
def chunkSize? (room : Nat) (line : Bytes) : Option (Nat × Nat) :=
  let digits := line.takeWhile fun b => (Ascii.hexDigit? b).isSome
  let size := digits.foldl (fun n d => n * 16 + (Ascii.hexDigit? d).getD 0) 0
  let rest := (line.drop digits.length).dropWhile isSpaceByte
  -- The extension is what follows a semicolon.
  let extension := rest.length - 1
  if digits.isEmpty || !(rest.isEmpty || rest.head? = some 59) then none
  else if size < UInt64.size && extension ≤ room then some (size, room - extension)
  else none

/-- Bytes within a line after the last chunk, which only a carriage return ends. -/
def isInTrailer (b : UInt8) : Bool :=
  b != 13

/-- Lines, each with its end. -/
def endedLines (lines : List Bytes) : Bytes :=
  lines.flatMap fun line => line ++ [13, 10]

/-- Whether the lines after the last chunk hold headers.  A line feed alone ends a header there, but
there may be no more headers than lines. -/
def areTrailers (lines : List Bytes) : Bool :=
  lines.length < headerLimit &&
    (takeHead (endedLines lines ++ [13, 10])).any fun (fields, _) =>
      fields.length ≤ lines.length && fields.all fun field => (headerLine? field).isSome

/-- Reads the lines after the last chunk through the blank one; some were seen before. -/
def readTrailerLines (ending : Ending) (body : Bytes) (seen : List Bytes) (s : Bytes) : Arrival :=
  match hs : s.dropWhile isInTrailer with
  | [] => ending.arrival
  | [_] => ending.arrival
  | 13 :: 10 :: rest =>
      have : rest.length < s.length := by
        have h := (List.dropWhile_suffix isInTrailer (l := s)).length_le
        rw [hs] at h
        simp only [List.length_cons] at h
        omega
      let line := s.takeWhile isInTrailer
      if line.isEmpty then if areTrailers seen then .complete body else .broken
      else if headerLimit ≤ seen.length then .broken
      else readTrailerLines ending body (seen ++ [line]) rest
  | _ => .broken
termination_by s.length

/-- The most bytes of the lines after the last chunk. -/
def trailerLimit : Nat := 16383

/-- Reads what follows the last chunk.  Lines that go on beyond the limit are not awaited. -/
def readTrailers (ending : Ending) (body s : Bytes) : Arrival :=
  readTrailerLines (if s.length ≤ trailerLimit then ending else .closed) body []
    (s.take trailerLimit)

/-- Reads chunks up to the empty one and the blank line after it. -/
def readChunks (ending : Ending) (room : Nat) (done s : Bytes) : Arrival :=
  match chunkSize? room (s.takeWhile isInLine), hs : s.dropWhile isInLine with
  | none, _ => if s.isEmpty then ending.arrival else .broken
  | some _, [] => ending.arrival
  | some _, [13] => ending.arrival
  | some (0, _), 13 :: 10 :: rest => readTrailers ending done rest
  | some (n + 1, room), 13 :: 10 :: rest =>
      match hr : rest.drop (n + 1) with
      | 13 :: 10 :: rest' =>
          have : rest'.length < s.length := by
            have h1 := (List.dropWhile_suffix isInLine (l := s)).length_le
            have h2 := (List.drop_suffix (n + 1) rest).length_le
            rw [hs] at h1
            rw [hr] at h2
            simp only [List.length_cons] at h1 h2
            omega
          readChunks ending room (done ++ rest.take (n + 1)) rest'
      | [] => ending.arrival
      | [13] => ending.arrival
      | _ => .broken
  | some _, _ => .broken
termination_by s.length

def readBody (framing : Framing) (ending : Ending) (s : Bytes) : Arrival :=
  match framing with
  | .absent => .complete []
  | .length n => if s.length < n then ending.arrival else .complete (s.take n)
  | .chunked => readChunks ending extensionLimit [] s
  | .untilClosed =>
      match ending with
      | .closed => .complete s
      | .stalled => .late

end InvoiceGateway.Http
