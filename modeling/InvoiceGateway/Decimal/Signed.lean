/-! # Reading a signed integer -/

namespace InvoiceGateway.Decimal

/-- Why a text is no signed integer of sixty-four bits. -/
inductive SignedError
  | empty
  | invalidDigit
  | tooLarge
  | tooSmall
deriving DecidableEq, Repr

def SignedError.message : SignedError → String
  | .empty => "cannot parse integer from empty string"
  | .invalidDigit => "invalid digit found in string"
  | .tooLarge => "number too large to fit in target type"
  | .tooSmall => "number too small to fit in target type"

/-- The greatest signed integer of sixty-four bits; the least is its negative less one. -/
def greatest : Nat :=
  9223372036854775807

/-- Appends digits to `n`, which may not exceed `bound`. -/
def readDigits (bound : Nat) (overflow : SignedError) : Nat → List Char → Except SignedError Nat
  | n, [] => .ok n
  | n, c :: cs =>
      if !c.isDigit then .error .invalidDigit
      else if bound < n * 10 + (c.toNat - 48) then .error overflow
      else readDigits bound overflow (n * 10 + (c.toNat - 48)) cs

def readSigned (s : String) : Except SignedError Int :=
  match s.toList with
  | [] => .error .empty
  | ['+'] => .error .invalidDigit
  | ['-'] => .error .invalidDigit
  | '+' :: cs => (readDigits greatest .tooLarge 0 cs).map fun n : Nat => (n : Int)
  | '-' :: cs => (readDigits (greatest + 1) .tooSmall 0 cs).map fun n : Nat => -(n : Int)
  | cs => (readDigits greatest .tooLarge 0 cs).map fun n : Nat => (n : Int)

end InvoiceGateway.Decimal
