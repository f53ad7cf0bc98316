import InvoiceGateway.Bytes
import InvoiceGateway.Text.Basic

/-! # Styled text -/

namespace InvoiceGateway.Text

/-- Which part of a styled text a character stands in. -/
inductive Part
  | plain
  /-- Right after an escape character. -/
  | escape
  /-- In a short sequence that goes on. -/
  | shortSequence
  /-- In a sequence with parameters. -/
  | sequence
  /-- In a command to the system, which a bell ends. -/
  | command
  /-- In a string, which its own terminator ends. -/
  | string
deriving DecidableEq, Repr

def escapeCode : Nat := 27

/-- The code of the character that deletes. -/
def deleteCode : Nat := 127

/-- The byte that ends a string. -/
def stringTerminator : UInt8 := 0x9C

/-- Whether a code is a control character that is shown: a tab, a line feed, a form feed or a
carriage return. -/
def isShownControl (n : Nat) : Bool :=
  n = 9 || n = 10 || n = 12 || n = 13

/-- Whether a control character ends any sequence. -/
def cancels (n : Nat) : Bool :=
  n = 24 || n = 26

/-- The part that a printable ASCII character leads to. -/
def Part.next (p : Part) (n : Nat) : Part :=
  match p with
  | .plain => .plain
  | .escape =>
      if n < 0x30 then .shortSequence
      else if n = 0x5B then .sequence
      else if n = 0x5D then .command
      else if n = 0x50 || n = 0x58 || n = 0x5E || n = 0x5F then .string
      else .plain
  | .shortSequence => if n < 0x30 then .shortSequence else .plain
  | .sequence => if n < 0x40 then .sequence else .plain
  | .command => .command
  | .string => .string

/-- Whether the control characters in a part are acted upon, as in plain text. -/
def Part.obeys : Part → Bool
  | .command | .string => false
  | _ => true

/-- The part that a character leads to, and whether the character is shown. -/
def Part.read (p : Part) (c : Char) : Part × Bool :=
  let n := c.toNat
  if n = escapeCode then (.escape, false)
  else if cancels n then (.plain, false)
  else if n < 32 then
    if p.obeys then if isShownControl n then (.plain, true) else (p, false)
    else if p = .command && n = 7 then (.plain, false)
    else (p, false)
  else if n = deleteCode then (p, false)
  else if isAscii c then (p.next n, p = .plain)
  else if p = .string && (Bytes.ofString c.toString).contains stringTerminator then (.plain, false)
  else (p, p = .plain)

/-- Reads on by a character, after the characters shown so far, last first. -/
def unstyledOnto (read : Part × List Char) (c : Char) : Part × List Char :=
  let (part, shown) := read.1.read c
  (part, if shown then c :: read.2 else read.2)

/-- What a styled text shows. -/
def unstyled (s : String) : String :=
  String.ofList (s.toList.foldl unstyledOnto (.plain, [])).2.reverse

end InvoiceGateway.Text
