import InvoiceGateway.Json.Bracket
import InvoiceGateway.Json.Number

/-! # Reading a JSON text -/

namespace InvoiceGateway.Json

/-- How many lists and objects may be open at once. -/
def depthLimit : Nat := 127

/-- Nothing but blanks may follow the value. -/
def endOfText (s : Bytes) : Except Fault Unit :=
  match skipBlanks s with
  | [] => .ok ()
  | b :: rest => .error (.at .trailingCharacters (b :: rest))

/-- Reads a value that may open `depth` lists and objects inside one another, each with fewer than
`fuel` items. -/
def value (fuel : Nat) : (depth : Nat) → Bytes → Reading Value
  | depth, s =>
      match skipBlanks s with
      | [] => .error (.before .eofInValue [])
      | b :: rest =>
          match Start.of b with
          | .null => (word nullLetters rest).map fun s => (.null, s)
          | .true => (word trueLetters rest).map fun s => (.boolean true, s)
          | .false => (word falseLetters rest).map fun s => (.boolean false, s)
          | .minus => (number true rest).map fun (n, s) => (.number n, s)
          | .digit => (number false (b :: rest)).map fun (n, s) => (.number n, s)
          | .string => (string rest).map fun (text, s) => (.string text, s)
          | .other => .error (.at .expectedValue (b :: rest))
          | .list =>
              match depth with
              | 0 => .error (.at .recursionLimit (b :: rest))
              | depth + 1 =>
                  let item (done : List Value) (s : Bytes) : Reading (List Value) :=
                    (value fuel depth s).map fun (v, s) => (v :: done, s)
                  (foldItems item fuel true [] rest).map
                    fun (items, s) => (.list items.reverse, s)
          | .object =>
              match depth with
              | 0 => .error (.at .recursionLimit (b :: rest))
              | depth + 1 =>
                  let member (done : List (String × Value)) (name : String) (s : Bytes) :
                      Except Fault (List (String × Value) × Bytes) := do
                    let s ← colon s
                    let (v, s) ← value fuel depth s
                    return ((name, v) :: done, s)
                  (foldMembers member fuel true [] rest).map
                    fun (members, s) => (.object members.reverse, s)

/-- Reads a text that holds one value.  Every item takes a byte, so no list or object has as many
items as the text has bytes and one more. -/
def Value.parse (text : Bytes) : Except Error Value :=
  let read : Except Fault Value := do
    let (v, s) ← value (text.length + 1) depthLimit text
    endOfText s
    return v
  read.mapError (Fault.locate text)

end InvoiceGateway.Json
