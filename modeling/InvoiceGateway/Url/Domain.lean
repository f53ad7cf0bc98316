import InvoiceGateway.Text.Direction
import InvoiceGateway.Text.Folding
import InvoiceGateway.Text.Joining
import InvoiceGateway.Text.Mark
import InvoiceGateway.Url.Punycode

/-! # Domains -/

namespace InvoiceGateway.Url.Domain

/-- A label, by its characters and as it is written in ASCII. -/
structure Label where
  text : List Char
  ascii : List Char
deriving DecidableEq, Repr

/-- What announces that a label is in Punycode. -/
def punycodeSign : List Char :=
  ['x', 'n', '-', '-']

/-- The longest code that is read. -/
def codeLimit : Nat := 2000

/-- The longest text that is put into code. -/
def textLimit : Nat := 1000

/-- Whether a label may have characters outside ASCII: no mark comes first, joiners have a meaning
in it, and it is not too long. -/
def isSound (text : List Char) : Bool :=
  !text.head?.any Text.isMark && Text.joinersFit [] text && text.length ≤ textLimit

/-- The characters of a label in Punycode, without the sign before it. -/
def decode? (code : List Char) : Option (List Char) :=
  if code.all Text.isAscii && code.length ≤ codeLimit && code.getLast?.any (· ≠ '-') then
    (Punycode.decode? code).filter fun text =>
      text.all Text.isFolded && Text.compose text = text && isSound text
  else none

/-- Reads a label of a folded domain. -/
def label? (label : List Char) : Option Label :=
  if punycodeSign.isPrefixOf label then
    (decode? (label.drop punycodeSign.length)).map fun text => ⟨text, label⟩
  else if label.all Text.isAscii then some ⟨label, label⟩
  else if isSound label then some ⟨label, punycodeSign ++ Punycode.encode label⟩
  else none

/-- Whether a label has characters that run from right to left. -/
def isRightward (label : Label) : Bool :=
  label.text.any fun c => !Text.isAscii c && (Text.Direction.of c).isRightward

/-- Whether every label keeps to one direction, where any runs from right to left. -/
def keepDirection (labels : List Label) : Bool :=
  !labels.any isRightward || labels.all fun label => Text.keepsDirection label.text

/-- Writes a domain in ASCII; `forbidden` tells which characters no label contains. -/
def toAscii? (forbidden : Char → Bool) (domain : List Char) : Option (List Char) := do
  let folded ← Text.fold? domain
  let labels ← ((Text.compose folded).splitOn '.').mapM label?
  if labels.any (fun label => label.text.any forbidden) || !keepDirection labels then none
  else return ['.'].intercalate (labels.map Label.ascii)

end InvoiceGateway.Url.Domain
