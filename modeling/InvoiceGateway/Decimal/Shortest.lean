/-! # The fewest decimal digits that read back

A finite double is `m · 2 ^ q`; the reals that round to it form an interval around it. -/

namespace InvoiceGateway.Decimal

/-- A natural number of units `10 ^ exponent`. -/
structure Scientific where
  digits : Nat
  exponent : Int
deriving DecidableEq, Repr

/-- The interval of reals that round to one double, in units of `2 ^ exponent`; the ends belong to
it when `closed` holds. -/
structure Interval where
  low : Nat
  middle : Nat
  high : Nat
  exponent : Int
  closed : Bool
deriving DecidableEq, Repr

/-- The interval of the positive double `m · 2 ^ q`.  At the least mantissa of a binade the
neighbour below is half as far away. -/
def Interval.around (m : Nat) (q : Int) (leastOfBinade : Bool) : Interval where
  low := if leastOfBinade then 4 * m - 1 else 4 * m - 2
  middle := 4 * m
  high := 4 * m + 2
  exponent := q - 2
  closed := m % 2 = 0

/-- Whether the rational `p / den` lies in the interval whose ends are scaled by `unit / den`. -/
def Interval.contains (i : Interval) (unit p : Nat) : Bool :=
  if i.closed then i.low * unit ≤ p && p ≤ i.high * unit
  else i.low * unit < p && p < i.high * unit

/-- The point of the grid `10 ^ e` in the interval that is nearest to the middle. -/
def Interval.gridPoint? (i : Interval) (e : Int) : Option Nat :=
  let unit := Nat.pow 2 i.exponent.toNat * Nat.pow 10 (-e).toNat
  let den := Nat.pow 2 (-i.exponent).toNat * Nat.pow 10 e.toNat
  let below := i.middle * unit / den
  let above := below + 1
  match i.contains unit (below * den), i.contains unit (above * den) with
  | true, true =>
      let down := i.middle * unit - below * den
      let up := above * den - i.middle * unit
      if up < down || (up = down && below % 2 = 1) then some above else some below
  | true, false => some below
  | false, true => some above
  | false, false => none

/-- Searches the grids from `10 ^ e` downwards, as many as `grids`. -/
def Interval.search (i : Interval) : (grids : Nat) → (e : Int) → Scientific
  | 0, e => ⟨0, e⟩
  | grids + 1, e =>
      match i.gridPoint? e with
      | some d => ⟨d, e⟩
      | none => i.search grids (e - 1)

/-- The point of the coarsest grid.  No double reaches `10 ^ 309`, and the interval of every double
is wider than the grid `10 ^ (-324)`. -/
def Interval.coarsest (i : Interval) : Scientific :=
  i.search 640 309

/-- The bit before the fifty-two stored bits of a mantissa, which a normal double has. -/
def leadingBit : Nat :=
  4503599627370496

/-- The shortest decimal that reads back as the magnitude of a finite double. -/
def shortest (x : Float) : Scientific :=
  let field : Nat := (x.toBits >>> 52).toNat % 2048
  let fraction : Nat := x.toBits.toNat % leadingBit
  if field = 0 then
    if fraction = 0 then ⟨0, 0⟩ else (Interval.around fraction (-1074) false).coarsest
  else
    (Interval.around (leadingBit + fraction) ((field : Int) - 1075)
      (fraction = 0 && 1 < field)).coarsest

/-! ## Writing a double -/

/-- The sign bit of a double. -/
def isNegative (x : Float) : Bool :=
  x.toBits >>> 63 == 1

/-- The text of a finite double: positional from `0.00001` to below `10 ^ 16`, with at least one
digit after the point, and otherwise with a signed exponent. -/
def floatText (x : Float) : String :=
  let s := shortest x
  let digits := (toString s.digits).toList
  -- the exponent of the first digit
  let lead : Int := s.exponent + digits.length - 1
  let body : List Char :=
    if -5 ≤ lead && lead < 16 then
      if lead < 0 then
        '0' :: '.' :: List.replicate (-lead - 1).toNat '0' ++ digits
      else
        let whole := lead.toNat + 1
        let padded := digits ++ List.replicate (whole - digits.length) '0'
        let fraction := padded.drop whole
        padded.take whole ++ '.' :: (if fraction.isEmpty then ['0'] else fraction)
    else
      let fraction := digits.drop 1
      let power := (toString lead.natAbs).toList
      digits.take 1 ++ (if fraction.isEmpty then [] else '.' :: fraction) ++
        ['e', if lead < 0 then '-' else '+'] ++ power
  String.ofList (if isNegative x then '-' :: body else body)

end InvoiceGateway.Decimal
