import InvoiceGateway.Bytes
import InvoiceGateway.Decimal.Shortest
import InvoiceGateway.Text.Concealed

/-! # Why a JSON text is refused -/

namespace InvoiceGateway.Json

/-- What a reader met where it expected something else. -/
inductive Found
  | null
  | boolean (value : Bool)
  | integer (value : Int)
  | float (value : Float)
  | string (value : String)
  | sequence
  | map
deriving DecidableEq, Repr

/-- Why a JSON text is refused. -/
inductive Cause
  | eofInValue
  | eofInString
  | eofInList
  | eofInObject
  | expectedColon
  | expectedListCommaOrEnd
  | expectedObjectCommaOrEnd
  | expectedIdent
  | expectedValue
  | invalidEscape
  | invalidNumber
  | numberOutOfRange
  | invalidCodePoint
  | controlCharacter
  | keyNotString
  | loneSurrogate
  | endOfHexEscape
  | trailingComma
  | trailingCharacters
  | recursionLimit
  /-- A value of another kind than `expected`. -/
  | invalidType (found : Found) (expected : String)
  /-- A value of the right kind that does not fit `expected`. -/
  | invalidValue (found : Found) (expected : String)
  /-- An array with another number of elements than `expected`. -/
  | invalidLength (length : Nat) (expected : String)
  | missingField (name : String)
  | duplicateField (name : String)
deriving DecidableEq, Repr

/-- How a message names what was met. -/
def Found.text : Found → String
  | .null => "null"
  | .boolean value => "boolean `" ++ (if value then "true" else "false") ++ "`"
  | .integer value => "integer `" ++ toString value ++ "`"
  | .float value => "floating point `" ++ Decimal.floatText value ++ "`"
  | .string value => "string " ++ Text.quoted value
  | .sequence => "sequence"
  | .map => "map"

/-- The reason that a message gives, without the place. -/
def Cause.reason : Cause → String
  | .eofInValue => "EOF while parsing a value"
  | .eofInString => "EOF while parsing a string"
  | .eofInList => "EOF while parsing a list"
  | .eofInObject => "EOF while parsing an object"
  | .expectedColon => "expected `:`"
  | .expectedListCommaOrEnd => "expected `,` or `]`"
  | .expectedObjectCommaOrEnd => "expected `,` or `\x7d`"
  | .expectedIdent => "expected ident"
  | .expectedValue => "expected value"
  | .invalidEscape => "invalid escape"
  | .invalidNumber => "invalid number"
  | .numberOutOfRange => "number out of range"
  | .invalidCodePoint => "invalid unicode code point"
  | .controlCharacter => "control character (\\u0000-\\u001F) found while parsing a string"
  | .keyNotString => "key must be a string"
  | .loneSurrogate => "lone leading surrogate in hex escape"
  | .endOfHexEscape => "unexpected end of hex escape"
  | .trailingComma => "trailing comma"
  | .trailingCharacters => "trailing characters"
  | .recursionLimit => "recursion limit exceeded"
  | .invalidType found expected => "invalid type: " ++ found.text ++ ", expected " ++ expected
  | .invalidValue found expected => "invalid value: " ++ found.text ++ ", expected " ++ expected
  | .invalidLength length expected =>
      "invalid length " ++ toString length ++ ", expected " ++ expected
  | .missingField name => "missing field `" ++ name ++ "`"
  | .duplicateField name => "duplicate field `" ++ name ++ "`"

/-! ## Places -/

/-- Where a reader stopped: the cause, and the number of bytes left to read. -/
structure Fault where
  cause : Cause
  left : Nat
deriving DecidableEq, Repr

/-- The fault that stands right before `rest`. -/
def Fault.before (cause : Cause) (rest : Bytes) : Fault :=
  ⟨cause, rest.length⟩

/-- The fault that points at the first byte of `rest`, counting that byte as read. -/
def Fault.at (cause : Cause) (rest : Bytes) : Fault :=
  ⟨cause, rest.length - 1⟩

/-- A place in a text: lines count from one, and the column is the number of bytes read since the
last line feed. -/
structure Position where
  line : Nat
  column : Nat
deriving DecidableEq, Repr

def lineFeed : UInt8 := 10

def Position.advance (p : Position) (b : UInt8) : Position :=
  if b = lineFeed then ⟨p.line + 1, 0⟩ else ⟨p.line, p.column + 1⟩

/-- The place after reading `consumed` from the start of a text. -/
def Position.after (consumed : Bytes) : Position :=
  consumed.foldl Position.advance ⟨1, 0⟩

structure Error where
  cause : Cause
  position : Position
deriving DecidableEq, Repr

/-- The place of a fault in its text. -/
def Fault.locate (text : Bytes) (fault : Fault) : Error :=
  ⟨fault.cause, Position.after (text.take (text.length - fault.left))⟩

/-- The reason, followed by the place. -/
def Error.message (e : Error) : String :=
  e.cause.reason ++ " at line " ++ toString e.position.line ++ " column " ++
    toString e.position.column

end InvoiceGateway.Json
