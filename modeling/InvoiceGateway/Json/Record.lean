import InvoiceGateway.Json.Parser
import InvoiceGateway.Json.Printer
import InvoiceGateway.Json.Skip

/-! # Records -/

namespace InvoiceGateway.Json

/-- What a field holds. -/
inductive Kind
  | text
  | natural32
deriving DecidableEq, Repr

/-- The type of the values of a kind. -/
abbrev Kind.Carrier : Kind → Type
  | .text => String
  | .natural32 => UInt32

/-- How a message names a kind. -/
def Kind.expectation : Kind → String
  | .text => "a string"
  | .natural32 => "u32"

structure Field where
  name : String
  kind : Kind
deriving DecidableEq, Repr

/-- A record: the name of its type and its fields. -/
structure Schema where
  name : String
  fields : List Field
deriving DecidableEq, Repr

/-- How a message names the type of a record. -/
def Schema.expectation (schema : Schema) : String :=
  "struct " ++ schema.name

/-- How a message names the array form of a record. -/
def Schema.lengthExpectation (schema : Schema) : String :=
  schema.expectation ++ " with " ++ toString schema.fields.length ++
    (if schema.fields.length = 1 then " element" else " elements")

/-- One value for each field. -/
abbrev Row : List Field → Type
  | [] => Unit
  | f :: fs => f.kind.Carrier × Row fs

/-- The values found so far. -/
abbrev Slots : List Field → Type
  | [] => Unit
  | f :: fs => Option f.kind.Carrier × Slots fs

def Slots.empty : (fields : List Field) → Slots fields
  | [] => ()
  | _ :: fs => (none, Slots.empty fs)

/-- The row, or the name of the first field without a value. -/
def Slots.row? : {fields : List Field} → Slots fields → Except String (Row fields)
  | [], _ => .ok ()
  | f :: _, (slot, slots) =>
      match slot with
      | none => .error f.name
      | some v => (Slots.row? slots).map fun vs => (v, vs)

/-! ## Writing -/

/-- The JSON text of a value of a kind. -/
def Kind.write : (k : Kind) → k.Carrier → String
  | .text, s => quoteString s
  | .natural32, n => toString n.toNat

/-- The names of the fields, each with the JSON text of its value. -/
def Row.members : (fields : List Field) → Row fields → List (String × String)
  | [], _ => []
  | f :: fs, (v, vs) => (f.name, f.kind.write v) :: Row.members fs vs

def Schema.object (schema : Schema) (row : Row schema.fields) : String :=
  compactObject (Row.members schema.fields row)

/-- A record as the array of its fields. -/
def Schema.array (schema : Schema) (row : Row schema.fields) : String :=
  compactList ((Row.members schema.fields row).map Prod.snd)

/-! ## Values -/

/-- The fault of a value of the wrong kind, whose first byte is at the front. -/
def mismatch (expected : String) (s : Bytes) : Fault :=
  let invalid (found : Found) (rest : Bytes) : Fault := .before (.invalidType found expected) rest
  let orFault {α : Type} (r : Except Fault α) (k : α → Fault) : Fault :=
    match r with
    | .error fault => fault
    | .ok a => k a
  let numeric (n : Number) (rest : Bytes) : Fault :=
    match n with
    | .natural n => invalid (.integer n.toNat) rest
    | .negative n => invalid (.integer n.toInt) rest
    | .float x => invalid (.float x) rest
  match s with
  | [] => .before .eofInValue []
  | b :: rest =>
      match Start.of b with
      | .null => orFault (word nullLetters rest) (invalid .null)
      | .true => orFault (word trueLetters rest) (invalid (.boolean true))
      | .false => orFault (word falseLetters rest) (invalid (.boolean false))
      | .minus => orFault (number true rest) fun (n, s) => numeric n s
      | .digit => orFault (number false (b :: rest)) fun (n, s) => numeric n s
      | .string => orFault (string rest) fun (text, s) => invalid (.string text) s
      | .list => invalid .sequence (b :: rest)
      | .object => invalid .map (b :: rest)
      | .other => .at .expectedValue (b :: rest)

def readText (s : Bytes) : Reading String :=
  match skipBlanks s with
  | [] => .error (.before .eofInValue [])
  | b :: rest =>
      if b = quote then string rest
      else .error (mismatch Kind.text.expectation (b :: rest))

/-- A number that is to be a natural number of thirty-two bits; `rest` is what follows it. -/
def natural32 (n : Number) (rest : Bytes) : Reading UInt32 :=
  match n with
  | .natural n =>
      if n.toNat < UInt32.size then .ok (n.toUInt32, rest)
      else .error (.before (.invalidValue (.integer n.toNat) Kind.natural32.expectation) rest)
  | .negative n =>
      .error (.before (.invalidValue (.integer n.toInt) Kind.natural32.expectation) rest)
  | .float x => .error (.before (.invalidType (.float x) Kind.natural32.expectation) rest)

/-- Reads a natural number of thirty-two bits. -/
def readNatural32 (s : Bytes) : Reading UInt32 :=
  match skipBlanks s with
  | [] => .error (.before .eofInValue [])
  | b :: rest =>
      match Start.of b with
      | .minus => (number true rest).bind fun (n, s) => natural32 n s
      | .digit => (number false (b :: rest)).bind fun (n, s) => natural32 n s
      | _ => .error (mismatch Kind.natural32.expectation (b :: rest))

def Kind.read : (k : Kind) → Bytes → Reading k.Carrier
  | .text => readText
  | .natural32 => readNatural32

/-! ## The array form -/

/-- Reads the fields as the items of a list; `index` counts those already read. -/
def readItems (expected : String) :
    (fields : List Field) → (index : Nat) → Bytes → Except Fault (Row fields × Bytes)
  | [], _, s => .ok ((), s)
  | f :: fs, index, s => do
      match ← nextItem (index = 0) s with
      | (false, s) => .error (.before (.invalidLength index expected) s)
      | (true, s) =>
          let (v, s) ← f.kind.read s
          let (vs, s) ← readItems expected fs (index + 1) s
          return ((v, vs), s)

/-- Reads the closing bracket of a list that may have no more items. -/
def endList (s : Bytes) : Except Fault Bytes :=
  match skipBlanks s with
  | [] => .error (.before .eofInList [])
  | b :: rest =>
      if b = closeBracket then .ok rest
      else if b = comma then
        match skipBlanks rest with
        | [] => .error (.before .trailingCharacters [])
        | c :: rest' =>
            if c = closeBracket then .error (.at .trailingComma (c :: rest'))
            else .error (.at .trailingCharacters (c :: rest'))
      else .error (.at .trailingCharacters (b :: rest))

/-! ## The object form -/

/-- What is left after a name that must not be repeated: the blanks, and the brace if the object
ends there, count as read. -/
def afterRepeated (s : Bytes) : Bytes :=
  match skipBlanks s with
  | [] => []
  | b :: rest => if b = closeBrace then rest else b :: rest

/-- Reads the value of a field into its slot. -/
def readSlot (f : Field) (slot : Option f.kind.Carrier) (s : Bytes) :
    Except Fault (Option f.kind.Carrier × Bytes) :=
  match slot with
  | some _ => .error (.before (.duplicateField f.name) (afterRepeated s))
  | none => do
      let s ← colon s
      let (v, s) ← f.kind.read s
      return (some v, s)

/-- Reads a member after its name: into its slot if a field has that name, and else past it.  A
value that is left out has fewer than `fuel` parts. -/
def readMember (fuel : Nat) :
    (fields : List Field) → Slots fields → String → Bytes → Except Fault (Slots fields × Bytes)
  | [], _, _, s => do
      let s ← colon s
      let s ← skipValue fuel s
      return ((), s)
  | f :: fs, (slot, slots), name, s =>
      if f.name = name then
        (readSlot f slot s).map fun (slot, s) => ((slot, slots), s)
      else
        (readMember fuel fs slots name s).map fun (slots, s) => ((slot, slots), s)

/-- Reads a record of fewer than `fuel` parts. -/
def readRecord (fuel : Nat) (schema : Schema) (s : Bytes) :
    Except Fault (Row schema.fields × Bytes) :=
  match skipBlanks s with
  | [] => .error (.before .eofInValue [])
  | b :: rest =>
      match Start.of b with
      | .list => do
          let (row, s) ← readItems schema.lengthExpectation schema.fields 0 rest
          let s ← endList s
          return (row, s)
      | .object => do
          let (slots, s) ←
            foldMembers (readMember fuel schema.fields) fuel true (Slots.empty schema.fields) rest
          match slots.row? with
          | .error name => .error (.before (.missingField name) s)
          | .ok row => return (row, s)
      | _ => .error (mismatch schema.expectation (b :: rest))

/-- Reads a text that holds one record. -/
def Schema.parse (schema : Schema) (text : Bytes) : Except Error (Row schema.fields) :=
  let read : Except Fault (Row schema.fields) := do
    let (row, s) ← readRecord (text.length + 1) schema text
    endOfText s
    return row
  read.mapError (Fault.locate text)

end InvoiceGateway.Json
