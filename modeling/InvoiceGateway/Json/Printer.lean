/-! # Writing JSON -/

namespace InvoiceGateway.Json

def hexChar (n : Nat) : Char :=
  Nat.digitChar (n % 16)

def escapeChar (c : Char) : List Char :=
  if c = '"' then ['\\', '"']
  else if c = '\\' then ['\\', '\\']
  else if c.toNat = 8 then ['\\', 'b']
  else if c.toNat = 9 then ['\\', 't']
  else if c.toNat = 10 then ['\\', 'n']
  else if c.toNat = 12 then ['\\', 'f']
  else if c.toNat = 13 then ['\\', 'r']
  else if c.toNat < 32 then ['\\', 'u', '0', '0', hexChar (c.toNat / 16), hexChar c.toNat]
  else [c]

def quoteString (s : String) : String :=
  String.ofList ('"' :: s.toList.flatMap escapeChar ++ ['"'])

/-- Texts with a comma between any two. -/
def joinCommas : List String → String
  | [] => ""
  | [text] => text
  | text :: rest => text ++ "," ++ joinCommas rest

/-- A list of items that are JSON texts. -/
def compactList (items : List String) : String :=
  "[" ++ joinCommas items ++ "]"

/-- A member whose value is a JSON text. -/
def compactMember (name value : String) : String :=
  quoteString name ++ ":" ++ value

/-- An object of members, each a name and the JSON text of its value. -/
def compactObject (members : List (String × String)) : String :=
  "\x7b" ++ joinCommas (members.map fun (name, value) => compactMember name value) ++ "\x7d"

end InvoiceGateway.Json
