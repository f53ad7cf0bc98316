import InvoiceGateway.Json.Bracket
import InvoiceGateway.Json.Number

/-! # Leaving out a value -/

namespace InvoiceGateway.Json

/-- A bracket that is still open. -/
inductive Frame
  | list
  | object
deriving DecidableEq, Repr

def Frame.close : Frame → UInt8
  | .list => closeBracket
  | .object => closeBrace

/-- The cause where the text ends inside a bracket. -/
def Frame.eof : Frame → Cause
  | .list => .eofInList
  | .object => .eofInObject

/-- The cause where neither a comma nor the closing bracket follows. -/
def Frame.unexpected : Frame → Cause
  | .list => .expectedListCommaOrEnd
  | .object => .expectedObjectCommaOrEnd

/-- Reads past a name and its colon. -/
def skipKey (s : Bytes) : Except Fault Bytes :=
  match skipBlanks s with
  | [] => .error (.before .eofInObject [])
  | b :: rest =>
      if b = quote then
        match skipString rest with
        | .error fault => .error fault
        | .ok s => colon s
      else .error (.at .keyNotString (b :: rest))

/-- Reads past what stands before the next value inside the innermost bracket. -/
def Frame.enter (frame : Frame) (s : Bytes) : Except Fault Bytes :=
  match frame with
  | .list => .ok s
  | .object => skipKey s

/-- Goes on inside the open brackets, innermost first: closes those that end here and stops before
the next value.  A comma may come first when a value has just been read.  With no bracket left, the
whole value has been read. -/
def resume : (stack : List Frame) → (afterValue : Bool) → Bytes → Reading (List Frame)
  | [], _, s => .ok ([], s)
  | frame :: outer, afterValue, s =>
      match skipBlanks s with
      | [] => .error (.before frame.eof [])
      | b :: rest =>
          if afterValue && b = comma then (frame.enter rest).map fun s => (frame :: outer, s)
          else if b = frame.close then resume outer true rest
          else if afterValue then .error (.at frame.unexpected (b :: rest))
          else (frame.enter (b :: rest)).map fun s => (frame :: outer, s)

/-- Reads past a value without parts, or opens a bracket. -/
def skipStart (s : Bytes) : Reading (Option Frame) :=
  match skipBlanks s with
  | [] => .error (.before .eofInValue [])
  | b :: rest =>
      match Start.of b with
      | .null => (word nullLetters rest).map fun s => (none, s)
      | .true => (word trueLetters rest).map fun s => (none, s)
      | .false => (word falseLetters rest).map fun s => (none, s)
      | .minus => (skipNumber true rest).map fun s => (none, s)
      | .digit => (skipNumber false (b :: rest)).map fun s => (none, s)
      | .string => (skipString rest).map fun s => (none, s)
      | .list => .ok (some .list, rest)
      | .object => .ok (some .object, rest)
      | .other => .error (.at .expectedValue (b :: rest))

/-- Reads past the value at the front and the rest of the open brackets around it.  Each round
takes a byte, so `fuel` above the number of bytes left is never used up. -/
def skipWithin : (fuel : Nat) → (stack : List Frame) → Bytes → Except Fault Bytes
  | 0, _, s => .error (.before .eofInValue s)
  | fuel + 1, stack, s =>
      match skipStart s with
      | .error fault => .error fault
      | .ok (opened, s) =>
          match resume (opened.toList ++ stack) opened.isNone s with
          | .error fault => .error fault
          | .ok ([], s) => .ok s
          | .ok (frame :: outer, s) => skipWithin fuel (frame :: outer) s

/-- Reads past one value of fewer than `fuel` parts. -/
def skipValue (fuel : Nat) (s : Bytes) : Except Fault Bytes :=
  skipWithin fuel [] s

end InvoiceGateway.Json
