/-! # Punycode -/

namespace InvoiceGateway.Url.Punycode

/-- A digit of base thirty-six. -/
def digit (n : Nat) : Char :=
  if n < 26 then Char.ofNat (97 + n) else Char.ofNat (22 + n)

/-- Shrinks a difference by thirty-fives, counting the steps. -/
def shrink (delta steps : Nat) : Nat × Nat :=
  if 455 < delta then shrink (delta / 35) (steps + 1) else (delta, steps)
termination_by delta
decreasing_by omega

/-- The bias after a difference has been written. -/
def adapt (delta points : Nat) (first : Bool) : Nat :=
  let delta := if first then delta / 700 else delta / 2
  let (delta, steps) := shrink (delta + delta / points) 0
  36 * steps + 36 * delta / (delta + 38)

/-- The threshold of the digit at a place. -/
def threshold (place bias : Nat) : Nat :=
  if place ≤ bias + 1 then 1 else if bias + 26 ≤ place then 26 else place - bias

/-- The digits of a difference, least significant first. -/
def digits : (fuel q place bias : Nat) → List Char
  | 0, _, _, _ => []
  | fuel + 1, q, place, bias =>
      let t := threshold place bias
      if q < t then [digit q]
      else digit (t + (q - t) % (36 - t)) :: digits fuel ((q - t) / (36 - t)) (place + 36) bias

/-- How far the places have been written. -/
structure State where
  delta : Nat
  bias : Nat
  written : Nat
  first : Bool

/-- Writes the places of one code point. -/
def writePoint (point : Nat) : State → List Nat → State × List Char
  | s, [] => (s, [])
  | s, c :: cs =>
      if c < point then writePoint point { s with delta := s.delta + 1 } cs
      else if c = point then
        let next : State :=
          { delta := 0, bias := adapt s.delta (s.written + 1) s.first, written := s.written + 1,
            first := false }
        let (last, rest) := writePoint point next cs
        (last, digits (s.delta + 1) s.delta 36 s.bias ++ rest)
      else writePoint point s cs

/-- Writes code points in rising order, each with the one below which all has been written. -/
def writePoints (label : List Nat) : State → (below : Nat) → (points : List Nat) → List Char
  | _, _, [] => []
  | s, below, point :: points =>
      let s := { s with delta := s.delta + (point - below) * (s.written + 1) }
      let (s, written) := writePoint point s label
      written ++ writePoints label { s with delta := s.delta + 1 } (point + 1) points

/-- A label in Punycode, without the mark that announces it. -/
def encode (label : List Char) : List Char :=
  let basic := label.filter fun c => c.toNat < 128
  let points := ((label.map Char.toNat).filter fun n => 128 ≤ n).mergeSort.eraseDups
  let start : State := { delta := 0, bias := 72, written := basic.length, first := true }
  basic ++ (if basic.isEmpty then [] else ['-']) ++
    writePoints (label.map Char.toNat) start 128 points

/-! ## Reading -/

/-- The value of a digit of base thirty-six, of either case. -/
def digitValue? (c : Char) : Option Nat :=
  if 'a' ≤ c && c ≤ 'z' then some (c.toNat - 97)
  else if 'A' ≤ c && c ≤ 'Z' then some (c.toNat - 65)
  else if '0' ≤ c && c ≤ '9' then some (c.toNat - 22)
  else none

/-- How far a label has been read: the characters so far, and the place from which the next one is
counted. -/
structure Reader where
  label : List Char
  point : Nat
  index : Nat
  bias : Nat
  /-- Where the count of the difference that is being read began. -/
  start : Nat
  /-- The place of the next digit of the difference. -/
  place : Nat
  /-- What the next digit counts. -/
  weight : Nat
  /-- Whether the difference goes on. -/
  within : Bool

/-- Nothing but the ASCII characters of a label has been read. -/
def Reader.ofBasic (basic : List Char) : Reader :=
  ⟨basic, 128, 0, 72, 0, 36, 1, false⟩

/-- A character that no code point is left for is refused. -/
def char? (point : Nat) : Option Char :=
  if point.isValidChar then some (Char.ofNat point) else none

/-- A count that needs more than thirty-two bits is refused. -/
def count? (n : Nat) : Option Nat :=
  if n < UInt32.size then some n else none

/-- Reads one digit; the last one of a difference puts a character in its place. -/
def Reader.read? (r : Reader) (c : Char) : Option Reader := do
  let digit ← digitValue? c
  let step ← count? (digit * r.weight)
  let index ← count? (r.index + step)
  let t := threshold r.place r.bias
  if digit < t then
    let length := r.label.length + 1
    let point := r.point + index / length
    let char ← char? point
    let i := index % length
    return ⟨r.label.insertIdx i char, point, i + 1, adapt (index - r.start) length (r.start = 0),
      i + 1, 36, 1, false⟩
  else
    let weight ← count? (r.weight * (36 - t))
    return { r with index := index, place := r.place + 36, weight := weight, within := true }

/-- The label that Punycode stands for.  The last hyphen ends the ASCII characters, but does not
stand first. -/
def decode? (code : List Char) : Option (List Char) :=
  let digits := (code.reverse.takeWhile (· ≠ '-')).reverse
  let basic := (code.take (code.length - digits.length)).dropLast
  let digits := if basic.isEmpty then code else digits
  match digits.foldlM Reader.read? (Reader.ofBasic basic) with
  | some r => if r.within then none else some r.label
  | none => none

end InvoiceGateway.Url.Punycode
