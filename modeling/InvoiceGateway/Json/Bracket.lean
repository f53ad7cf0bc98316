import InvoiceGateway.Json.Scan

/-! # Between brackets -/

namespace InvoiceGateway.Json

/-- Decides whether another item follows in a list.  If so, what is left begins with that item; if
not, the closing bracket has been read. -/
def nextItem (first : Bool) (s : Bytes) : Reading Bool :=
  match skipBlanks s with
  | [] => .error (.before .eofInList [])
  | b :: rest =>
      if b = closeBracket then .ok (false, rest)
      else if first then .ok (true, b :: rest)
      else if b = comma then
        match skipBlanks rest with
        | [] => .error (.before .eofInValue [])
        | c :: rest' =>
            if c = closeBracket then .error (.at .trailingComma (c :: rest'))
            else .ok (true, c :: rest')
      else .error (.at .expectedListCommaOrEnd (b :: rest))

/-- Reads the name of the next member of an object, or else the closing brace. -/
def nextKey (first : Bool) (s : Bytes) : Reading (Option String) :=
  match skipBlanks s with
  | [] => .error (.before .eofInObject [])
  | b :: rest =>
      if b = closeBrace then .ok (none, rest)
      else if first then
        if b = quote then (string rest).map fun (name, s) => (some name, s)
        else .error (.at .keyNotString (b :: rest))
      else if b = comma then
        match skipBlanks rest with
        | [] => .error (.before .eofInValue [])
        | c :: rest' =>
            if c = quote then (string rest').map fun (name, s) => (some name, s)
            else if c = closeBrace then .error (.at .trailingComma (c :: rest'))
            else .error (.at .keyNotString (c :: rest'))
      else .error (.at .expectedObjectCommaOrEnd (b :: rest))

/-- Reads the colon between a name and its value. -/
def colon (s : Bytes) : Except Fault Bytes :=
  match skipBlanks s with
  | [] => .error (.before .eofInObject [])
  | b :: rest =>
      if b = colonSign then .ok rest else .error (.at .expectedColon (b :: rest))

/-- Folds the items of a list, after its opening bracket, into a state.  Each item takes a byte, so
`fuel` above the number of bytes left is never used up. -/
def foldItems {σ : Type} (item : σ → Bytes → Reading σ) :
    (fuel : Nat) → (first : Bool) → σ → Bytes → Reading σ
  | 0, _, _, s => .error (.before .eofInList s)
  | fuel + 1, first, state, s =>
      match nextItem first s with
      | .error fault => .error fault
      | .ok (false, s) => .ok (state, s)
      | .ok (true, s) =>
          match item state s with
          | .error fault => .error fault
          | .ok (state, s) => foldItems item fuel false state s

/-- Folds the members of an object, after its opening brace, into a state; `member` is given the
name and what follows it. -/
def foldMembers {σ : Type} (member : σ → String → Bytes → Reading σ) :
    (fuel : Nat) → (first : Bool) → σ → Bytes → Reading σ
  | 0, _, _, s => .error (.before .eofInObject s)
  | fuel + 1, first, state, s =>
      match nextKey first s with
      | .error fault => .error fault
      | .ok (none, s) => .ok (state, s)
      | .ok (some name, s) =>
          match member state name s with
          | .error fault => .error fault
          | .ok (state, s) => foldMembers member fuel false state s

end InvoiceGateway.Json
