import InvoiceGateway.Bytes

/-! # Percent-encoding -/

namespace InvoiceGateway.Url

/-- A byte as a percent sign and two hexadecimal digits in upper case. -/
def percentByte (b : UInt8) : List Char :=
  let digit (n : Nat) : Char := if n < 10 then Char.ofNat (48 + n) else Char.ofNat (55 + n)
  ['%', digit (b.toNat / 16), digit (b.toNat % 16)]

/-- Writes a character, encoded if it is in the set. -/
def encodeChar (set : Char → Bool) (c : Char) : List Char :=
  if set c then (String.utf8EncodeChar c).flatMap percentByte else [c]

/-- Writes characters, encoded where they are in the set. -/
def encode (set : Char → Bool) (cs : List Char) : List Char :=
  cs.flatMap (encodeChar set)

/-! ## Sets -/

/-- Controls and everything outside ASCII. -/
def controlSet (c : Char) : Bool :=
  c.toNat < 0x20 || 0x7E < c.toNat

/-- What a fragment encodes. -/
def fragmentSet (c : Char) : Bool :=
  controlSet c || [' ', '"', '<', '>', '\x60'].contains c

/-- What a path encodes. -/
def pathSet (c : Char) : Bool :=
  fragmentSet c || ['#', '?', '\x7b', '\x7d'].contains c

/-- What a user name or a password encodes. -/
def userinfoSet (c : Char) : Bool :=
  pathSet c || ['/', ':', ';', '=', '@', '[', '\\', ']', '^', '|'].contains c

/-- What a query encodes; the apostrophe is encoded in the common schemes only. -/
def querySet (special : Bool) (c : Char) : Bool :=
  controlSet c || [' ', '"', '#', '<', '>'].contains c || (special && c = '\x27')

/-! ## Decoding -/

/-- The bytes of a text, with each percent sign and its two digits taken as one byte. -/
def decode : List Char → Bytes
  | [] => []
  | '%' :: a :: b :: rest =>
      match Ascii.hexChar? a, Ascii.hexChar? b with
      | some x, some y => UInt8.ofNat (x * 16 + y) :: decode rest
      | _, _ => 37 :: decode (a :: b :: rest)
  | c :: rest => String.utf8EncodeChar c ++ decode rest

end InvoiceGateway.Url
