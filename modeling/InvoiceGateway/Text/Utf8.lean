import InvoiceGateway.Bytes

/-! # Reading bytes that may not be UTF-8 -/

namespace InvoiceGateway.Text

/-- The ranges of the bytes that complete a character, given its first byte. -/
def continuations? (b : UInt8) : Option (List (UInt8 × UInt8)) :=
  let any : UInt8 × UInt8 := (0x80, 0xBF)
  if b < 0x80 then some []
  else if b < 0xC2 then none
  else if b < 0xE0 then some [any]
  else if b = 0xE0 then some [(0xA0, 0xBF), any]
  else if b = 0xED then some [(0x80, 0x9F), any]
  else if b < 0xF0 then some [any, any]
  else if b = 0xF0 then some [(0x90, 0xBF), any, any]
  else if b < 0xF4 then some [any, any, any]
  else if b = 0xF4 then some [(0x80, 0x8F), any, any]
  else none

/-- The bytes at the front that lie in the ranges, one for each. -/
def matching : List (UInt8 × UInt8) → Bytes → Bytes
  | (low, high) :: ranges, b :: s => if low ≤ b && b ≤ high then b :: matching ranges s else []
  | _, _ => []

/-- The code point spelled by a first byte and the bytes after it. -/
def codePoint (b : UInt8) (tail : Bytes) : Nat :=
  let lead :=
    match tail.length with
    | 0 => b.toNat
    | 1 => b.toNat % 32
    | 2 => b.toNat % 16
    | _ => b.toNat % 8
  tail.foldl (fun n c => n * 64 + c.toNat % 64) lead

/-- The piece that a byte begins: the character, if it is well formed, and the number of bytes that
the piece takes after that byte. -/
def piece (b : UInt8) (s : Bytes) : Option Char × Nat :=
  match continuations? b with
  | none => (none, 0)
  | some ranges =>
      let tail := matching ranges s
      if tail.length = ranges.length then (some (Char.ofNat (codePoint b tail)), tail.length)
      else (none, tail.length)

/-- The text of a byte string, last character first, in front of `done`. -/
def lossyOnto (done : List Char) (s : Bytes) : List Char :=
  match s with
  | [] => done
  | b :: s =>
      let (c, n) := piece b s
      lossyOnto (c.getD '\uFFFD' :: done) (s.drop n)
termination_by s.length

/-- The text of a byte string, with a replacement character for each ill-formed piece. -/
def lossy (s : Bytes) : String :=
  String.ofList (lossyOnto [] s).reverse

/-- Adds to `count` the number of bytes before the first ill-formed piece. -/
def validLengthFrom (count : Nat) (s : Bytes) : Nat :=
  match s with
  | [] => count
  | b :: s =>
      match piece b s with
      | (none, _) => count
      | (some _, n) => validLengthFrom (count + 1 + n) (s.drop n)
termination_by s.length

/-- The number of bytes before the first ill-formed piece. -/
def validLength (s : Bytes) : Nat :=
  validLengthFrom 0 s

end InvoiceGateway.Text
