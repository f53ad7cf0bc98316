import InvoiceGateway.Url.Percent

/-! # Paths of addresses -/

namespace InvoiceGateway.Url

/-- Whether a character ends a segment; in the common schemes a backslash does too. -/
def isSlash (special : Bool) (c : Char) : Bool :=
  c = '/' || (special && c = '\\')

def rawSegments (special : Bool) : List Char → List (List Char)
  | [] => [[]]
  | c :: cs =>
      match rawSegments special cs with
      | [] => [[c]]
      | part :: parts => if isSlash special c then [] :: part :: parts else (c :: part) :: parts

/-- A segment with every encoded dot written as a dot. -/
def plainDots : List Char → List Char
  | '%' :: '2' :: 'e' :: rest => '.' :: plainDots rest
  | '%' :: '2' :: 'E' :: rest => '.' :: plainDots rest
  | c :: rest => c :: plainDots rest
  | [] => []

def isSingleDot (segment : List Char) : Bool :=
  plainDots segment = ['.']

def isDoubleDot (segment : List Char) : Bool :=
  plainDots segment = ['.', '.']

/-! ## Drives -/

/-- Whether a character does not count: a tab or the end of a line. -/
def isSkipped (c : Char) : Bool :=
  ['\t', '\n', '\r'].contains c

/-- The characters that count. -/
def plain (cs : List Char) : List Char :=
  cs.filter fun c => !isSkipped c

/-- Whether a text names a drive, by a letter and a colon or a bar. -/
def isDrive : List Char → Bool
  | [c, d] => c.isAlpha && (d = ':' || d = '|')
  | _ => false

/-- The drive that a text names, by a letter and a colon. -/
def driveName (cs : List Char) : List Char :=
  cs.take 1 ++ [':']

/-- Splits a segment after the name of a drive, which a character that does not count ends there. -/
def splitDrive? (segment : List Char) : Option (List Char × List Char) :=
  match segment.dropWhile isSkipped with
  | [] => none
  | c :: rest =>
      match rest.dropWhile isSkipped with
      | ':' :: d :: rest =>
          let tail := rest.dropWhile isSkipped
          if c.isAlpha && isSkipped d && !tail.isEmpty then some ([c, ':'], tail) else none
      | _ => none

/-! ## Taking segments -/

/-- Whether a segment cannot be taken back: one that names a drive, whether or not a backslash
follows. -/
def isFixed (segment : List Char) : Bool :=
  isDrive (segment.take 2) && (segment.drop 2).head?.all (· = '\\')

/-- The segments without the last one, which is the first of the list. -/
def takeBack : List (List Char) → List (List Char)
  | [] => []
  | segment :: taken => if isFixed segment then segment :: taken else taken

structure Taken where
  /-- The segments, last one first. -/
  segments : List (List Char)
  /-- Whether a local file's path names a drive. -/
  drive : Bool

/-- Takes segments after those already taken; `file` tells whether it is the path of a local file,
whose first segment may name a drive. -/
def Taken.take (file : Bool) (taken : Taken) : List (List Char) → Taken
  | [] => taken
  | raw :: rest =>
      let ending := if rest.isEmpty then [[]] else []
      let segment := plain raw
      match if file && taken.segments.isEmpty then splitDrive? raw else none with
      | some (drive, tail) =>
          let segments := encode pathSet (plain tail) :: drive :: taken.segments
          Taken.take file { taken with segments := segments } rest
      | none =>
          if isDoubleDot segment then
            Taken.take file { taken with segments := ending ++ takeBack taken.segments } rest
          else if isSingleDot segment then
            Taken.take file { taken with segments := ending ++ taken.segments } rest
          else if file && taken.segments.isEmpty && isDrive segment then
            Taken.take file ⟨[driveName segment], true⟩ rest
          else
            Taken.take file { taken with segments := encode pathSet segment :: taken.segments } rest

/-- The segments of a path without its leading slash. -/
def segments (special : Bool) (cs : List Char) : List (List Char) :=
  (Taken.take false ⟨[], false⟩ (rawSegments special cs)).segments.reverse

/-- The segments of a local file's path without its leading slash, less the empty ones in front, and
whether the first one names a drive. -/
def fileSegments (cs : List Char) : List (List Char) × Bool :=
  let taken := Taken.take true ⟨[], false⟩ (rawSegments true cs)
  match taken.segments.reverse.dropWhile List.isEmpty with
  | [] => ([[]], taken.drive)
  | segments => (segments, taken.drive)

/-- The text of a path: a slash before every segment. -/
def pathText (segments : List (List Char)) : List Char :=
  segments.flatMap fun segment => '/' :: segment

end InvoiceGateway.Url
