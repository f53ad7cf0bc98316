/-! # Request targets -/

namespace InvoiceGateway.Http

/-- What a request is about. -/
inductive Target
  /-- A path, with what follows its question mark. -/
  | origin (path : String) (query : Option String)
  /-- A scheme, an authority, a path and a query. -/
  | absolute (scheme authority path : String) (query : Option String)
  | authority (name : String)
  | asterisk
deriving DecidableEq, Repr

namespace Target

/-- The path that a route is looked up by. -/
def path : Target → String
  | origin path _ => path
  | absolute _ _ path _ => path
  | authority _ => ""
  | asterisk => "*"

/-- Characters that may stand in a path. -/
def isPathChar (c : Char) : Bool :=
  let n := c.toNat
  n = 0x21 || n = 0x22 || (0x24 ≤ n && n ≤ 0x3B) || n = 0x3D || (0x40 ≤ n && n ≤ 0x5F) ||
    (0x61 ≤ n && n ≤ 0x7E) || 0x7F ≤ n

/-- Characters that may stand in a query. -/
def isQueryChar (c : Char) : Bool :=
  let n := c.toNat
  n = 0x21 || (0x24 ≤ n && n ≤ 0x3B) || n = 0x3D || 0x3F ≤ n

/-- Characters that may stand in an authority. -/
def isAuthorityChar (c : Char) : Bool :=
  c.isAlphanum || "-._~!$&'()*+,;=:@[]%".toList.contains c

/-- What has been seen of an authority. -/
structure AuthorityScan where
  /-- The colons since the user and the address in brackets. -/
  colons : Nat
  opened : Bool
  closed : Bool
  /-- Whether a percent sign stands behind the user and the address in brackets. -/
  percent : Bool

/-- The most colons that an authority is read through. -/
def colonLimit : Nat := 8

def AuthorityScan.next? (s : AuthorityScan) (c : Char) : Option AuthorityScan :=
  if !isAuthorityChar c then none
  else if c = ':' then
    if s.colons < colonLimit then some { s with colons := s.colons + 1 } else none
  else if c = '[' then
    if s.percent || s.opened then none else some { s with opened := true }
  else if c = ']' then
    if !s.opened || s.closed then none
    else some { s with closed := true, colons := 0, percent := false }
  else if c = '@' then some { s with colons := 0, percent := false }
  else if c = '%' then some { s with percent := true }
  else some s

/-- Whether a text is an authority: brackets come in a pair, at most one colon follows the user and
the address in brackets, no percent sign does, and the host is not left out after a user. -/
def isAuthority (cs : List Char) : Bool :=
  match cs.foldlM AuthorityScan.next? ⟨0, false, false, false⟩ with
  | none => false
  | some s =>
      s.opened = s.closed && s.colons ≤ 1 && !s.percent && cs.getLast?.all (· ≠ '@')

/-- Reads a path and a query; a fragment is left out. -/
def pathAndQuery? (cs : List Char) : Option (String × Option String) :=
  let cs := cs.takeWhile (· != '#')
  let path := cs.takeWhile (· != '?')
  if !path.all isPathChar then none
  else
    match cs.dropWhile (· != '?') with
    | [] => some (String.ofList path, none)
    | _ :: query =>
        if query.all isQueryChar then some (String.ofList path, some (String.ofList query))
        else none

/-- Characters that may stand in a scheme. -/
def isSchemeChar (c : Char) : Bool :=
  c.isAlphanum || ['+', '-', '.', '~'].contains c

/-- The longest scheme. -/
def schemeLimit : Nat := 64

/-- Splits a text at the first `://`, if only a scheme stands before it. -/
def scheme? (cs : List Char) : Option (List Char × List Char) :=
  let name := cs.takeWhile isSchemeChar
  match cs.drop name.length with
  | ':' :: '/' :: '/' :: rest => if name.length ≤ schemeLimit then some (name, rest) else none
  | _ => none

def endsAuthority (c : Char) : Bool :=
  c = '/' || c = '?' || c = '#'

/-- The longest target, in bytes. -/
def lengthLimit : Nat := 65534

def ofChars? : List Char → Option Target
  | [] => none
  | ['*'] => some .asterisk
  | '/' :: rest => (pathAndQuery? ('/' :: rest)).map fun (path, query) => .origin path query
  | cs =>
      match scheme? cs with
      | some (scheme, rest) =>
          let name := rest.takeWhile fun c => !endsAuthority c
          if name.isEmpty || !isAuthority name then none
          else
            (pathAndQuery? (rest.drop name.length)).map fun (path, query) =>
              .absolute (String.ofList scheme) (String.ofList name)
                (if path.isEmpty then "/" else path) query
      | none => if isAuthority cs then some (.authority (String.ofList cs)) else none

def parse? (s : String) : Option Target :=
  if s.utf8ByteSize ≤ lengthLimit then ofChars? s.toList else none

end Target

end InvoiceGateway.Http
