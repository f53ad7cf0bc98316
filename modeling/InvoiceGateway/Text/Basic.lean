/-! # Characters, blanks and lines -/

namespace InvoiceGateway.Text

/-! ## Properties of characters -/

/-- The code points that have a property, as ranges in rising order. -/
abbrev Ranges := Array (Nat × Nat)

/-- Whether a character has the property. -/
def Ranges.has (ranges : Ranges) (c : Char) : Bool :=
  ranges.any fun (low, high) => low ≤ c.toNat && c.toNat ≤ high

/-- The values of code points, as ranges of one value each, in rising order. -/
abbrev ValueRanges (α : Type) := Array (Nat × Nat × α)

/-- The value of a character, if it lies in one of the ranges. -/
def ValueRanges.get? {α : Type} (ranges : ValueRanges α) (c : Char) : Option α :=
  (ranges.find? fun (low, high, _) => low ≤ c.toNat && c.toNat ≤ high).map
    fun (_, _, value) => value

/-- Whether a character is one of the first 128. -/
def isAscii (c : Char) : Bool :=
  c.toNat < 128

/-! ## Blanks -/

/-- The ranges of the blank code points, in rising order. -/
def blankRanges : Ranges :=
  #[(0x9, 0xD), (0x20, 0x20), (0x85, 0x85), (0xA0, 0xA0), (0x1680, 0x1680), (0x2000, 0x200A),
    (0x2028, 0x2029), (0x202F, 0x202F), (0x205F, 0x205F), (0x3000, 0x3000)]

def isBlank (c : Char) : Bool :=
  blankRanges.has c

/-- The characters without the blanks at the end. -/
def trimEnd (cs : List Char) : List Char :=
  (cs.reverse.dropWhile isBlank).reverse

/-- The text without the blanks in front. -/
def trimStart (s : String) : String :=
  String.ofList (s.toList.dropWhile isBlank)

/-- The text without the blanks at both ends. -/
def trim (s : String) : String :=
  String.ofList (trimEnd (s.toList.dropWhile isBlank))

/-! ## Lines -/

/-- A line without the carriage return that belongs to its ending. -/
def withoutReturn (line : String) : String :=
  if line.endsWith "\r" then String.ofList line.toList.dropLast else line

def lines (text : String) : List String :=
  let pieces := (text.toList.splitOn '\n').map String.ofList
  let last := pieces.getLastD ""
  pieces.dropLast.map withoutReturn ++ if last.isEmpty then [] else [last]

end InvoiceGateway.Text
