import InvoiceGateway.Json.Scan

/-! # Numbers and values -/

namespace InvoiceGateway.Json

/-! ## Literals -/

/-- The parts of a number literal; the exponent is its sign and its digits. -/
structure Literal where
  negative : Bool
  whole : Bytes
  fraction : Bytes
  exponent : Option (Bool × Bytes)
deriving DecidableEq, Repr

/-- Reads the digits before the point: `0`, or digits that do not begin with it. -/
def wholePart (atEnd : Cause) : Bytes → Reading Bytes
  | [] => .error (.before atEnd [])
  | b :: s =>
      if b = 48 then
        if s.head?.any Ascii.isDigit then .error (.at .invalidNumber s) else .ok ([b], s)
      else if Ascii.isDigit b then .ok (b :: s.takeWhile Ascii.isDigit, s.dropWhile Ascii.isDigit)
      else .error (.before .invalidNumber s)

/-- Reads the point and the digits after it, if there is a point. -/
def fractionPart (atEnd : Cause) : Bytes → Reading Bytes
  | [] => .ok ([], [])
  | b :: s =>
      if b = 46 then
        match s with
        | [] => .error (.before atEnd [])
        | d :: _ =>
            if Ascii.isDigit d then .ok (s.takeWhile Ascii.isDigit, s.dropWhile Ascii.isDigit)
            else .error (.at .invalidNumber s)
      else .ok ([], b :: s)

/-- Reads the digits of an exponent after its sign. -/
def exponentDigits (atEnd : Cause) : Bytes → Reading Bytes
  | [] => .error (.before atEnd [])
  | b :: s =>
      if Ascii.isDigit b then .ok (b :: s.takeWhile Ascii.isDigit, s.dropWhile Ascii.isDigit)
      else .error (.before .invalidNumber s)

/-- Leaves out the sign of an exponent; the flag tells whether it was a minus. -/
def exponentSign : Bytes → Bool × Bytes
  | [] => (false, [])
  | b :: s => if b = 43 then (false, s) else if b = 45 then (true, s) else (false, b :: s)

/-- Reads the exponent, if there is one. -/
def exponentPart (atEnd : Cause) : Bytes → Reading (Option (Bool × Bytes))
  | [] => .ok (none, [])
  | b :: s =>
      if b = 101 || b = 69 then
        let (negative, s) := exponentSign s
        (exponentDigits atEnd s).map fun (digits, s) => (some (negative, digits), s)
      else .ok (none, b :: s)

/-- Reads a literal after its minus sign, if any; `atEnd` is the cause given where the text ends
before the literal is complete. -/
def literal (atEnd : Cause) (negative : Bool) (s : Bytes) : Except Fault (Literal × Bytes) := do
  let (whole, s) ← wholePart atEnd s
  let (fraction, s) ← fractionPart atEnd s
  let (exponent, s) ← exponentPart atEnd s
  return (⟨negative, whole, fraction, exponent⟩, s)

/-! ## Values of literals -/

/-- A JSON number, as it is held. -/
inductive Number
  | natural (n : UInt64)
  | negative (n : Int64)
  | float (x : Float)
deriving DecidableEq, Repr

/-- Appends digits to `n` while the result stays below `bound`; the second part holds the digits
from the first that does not fit. -/
def absorb (bound : Nat) : Nat → Bytes → Nat × Bytes
  | n, [] => (n, [])
  | n, d :: ds =>
      if n * 10 + Ascii.digitValue d < bound then absorb bound (n * 10 + Ascii.digitValue d) ds
      else (n, d :: ds)

/-- Divides by a power of ten, three hundred and eight places at a time. -/
def divideByPower (x : Float) (n : Nat) : Float :=
  if n ≤ 308 then x / Float.ofScientific 1 false n
  else if x == 0 then x
  else divideByPower (x / Float.ofScientific 1 false 308) (n - 308)
termination_by n

/-- Multiplies by a power of ten, if the product is finite. -/
def multiplyByPower? (x : Float) (n : Nat) : Option Float :=
  if n ≤ 308 then
    let y := x * Float.ofScientific 1 false n
    if y.isInf then none else some y
  else if x == 0 then some x
  else none

/-- A significand times a power of ten. -/
def scale? (significand : Nat) : Int → Option Float
  | .ofNat n => multiplyByPower? (Float.ofNat significand) n
  | .negSucc n => some (divideByPower (Float.ofNat significand) (n + 1))

def withSign (negative : Bool) (x : Float) : Float :=
  if negative then -x else x

/-- The number that an integer literal stands for, whose absolute value is below `2 ^ 64`. -/
def Number.ofInteger (negative : Bool) (n : Nat) : Number :=
  if negative then
    if 0 < n && n ≤ UInt64.size / 2 then .negative (Int64.ofInt (-n))
    else .float (-(Float.ofNat n))
  else .natural (UInt64.ofNat n)

/-- Exponents are read below this bound. -/
def exponentBound : Nat :=
  UInt32.size / 2

/-- The number that a literal stands for; `rest` is what follows the literal. -/
def Literal.number (l : Literal) (rest : Bytes) : Except Fault Number :=
  let (significand, dropped) := absorb UInt64.size 0 l.whole
  if dropped.isEmpty && l.fraction.isEmpty && l.exponent.isNone then
    .ok (.ofInteger l.negative significand)
  else
    let (significand, ignored) := absorb UInt64.size significand l.fraction
    let shift : Int := dropped.length - (l.fraction.length - ignored.length : Nat)
    match l.exponent with
    | none =>
        match scale? significand shift with
        | some x => .ok (.float (withSign l.negative x))
        | none => .error (.before .numberOutOfRange rest)
    | some (negative, digits) =>
        match absorb exponentBound 0 digits with
        | (power, []) =>
            match scale? significand (if negative then shift - power else shift + power) with
            | some x => .ok (.float (withSign l.negative x))
            | none => .error (.before .numberOutOfRange rest)
        | (_, _ :: excess) =>
            if significand = 0 || negative then .ok (.float (withSign l.negative 0))
            else .error (.before .numberOutOfRange (excess ++ rest))

/-- Reads a number after its minus sign, if any. -/
def number (negative : Bool) (s : Bytes) : Except Fault (Number × Bytes) := do
  let (l, s) ← literal .eofInValue negative s
  let n ← l.number s
  return (n, s)

/-- Reads past a number that is left out. -/
def skipNumber (negative : Bool) (s : Bytes) : Except Fault Bytes :=
  (literal .invalidNumber negative s).map Prod.snd

/-! ## Values -/

inductive Value
  | null
  | boolean (value : Bool)
  | number (value : Number)
  | string (value : String)
  | list (items : List Value)
  | object (members : List (String × Value))
deriving Repr, Inhabited

/-- The value of the last member with this name. -/
def lastMember? {α : Type} (name : String) (members : List (String × α)) : Option α :=
  members.foldl (fun found (key, value) => if key = name then some value else found) none

end InvoiceGateway.Json
