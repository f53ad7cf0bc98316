import InvoiceGateway.Text.Utf8
import InvoiceGateway.Url.Domain
import InvoiceGateway.Url.Percent

/-! # Hosts -/

namespace InvoiceGateway.Url

inductive Host
  | domain (name : String)
  | ipv4 (address : Nat)
  | ipv6 (groups : List Nat)
  | named (text : String)
deriving DecidableEq, Repr

/-! ## Addresses of four bytes -/

/-- The number that digits of a base spell. -/
def digitsValue? (base : Nat) (cs : List Char) : Option Nat :=
  cs.foldlM
    (fun n c => (Ascii.hexChar? c).bind fun d => if d < base then some (n * base + d) else none) 0

/-- A part of an address, in hexadecimal after `0x`, in octal after `0`, and else in decimal. -/
def ipv4Number? (part : List Char) : Option Nat :=
  match part with
  | [] => none
  | '0' :: 'x' :: digits => digitsValue? 16 digits
  | '0' :: 'X' :: digits => digitsValue? 16 digits
  | '0' :: d :: digits => digitsValue? 8 (d :: digits)
  | digits => digitsValue? 10 digits

/-- The parts of a domain; a dot at the end does not open another one. -/
def domainParts (domain : List Char) : List (List Char) :=
  let parts := domain.splitOn '.'
  if 1 < parts.length && parts.getLast? = some [] then parts.dropLast else parts

/-- Whether the last part of a domain looks like a number. -/
def endsInNumber (domain : List Char) : Bool :=
  match (domainParts domain).getLast? with
  | none => false
  | some part => (!part.isEmpty && part.all Char.isDigit) || (ipv4Number? part).isSome

/-- Joins the bytes before the last part with the last part, which fills the rest. -/
def joinIpv4? : (remaining : Nat) → List Nat → Option Nat
  | _, [] => none
  | remaining, [last] => if last < Nat.pow 256 remaining then some last else none
  | remaining, byte :: rest =>
      if byte < 256 then
        (joinIpv4? (remaining - 1) rest).map fun n => byte * Nat.pow 256 (remaining - 1) + n
      else none

def ipv4? (domain : List Char) : Option Nat := do
  let parts := domainParts domain
  if 4 < parts.length then none
  else
    let numbers ← parts.mapM ipv4Number?
    joinIpv4? 4 numbers

/-- The text of an address of four bytes. -/
def ipv4Text (n : Nat) : String :=
  ".".intercalate ([n >>> 24, (n >>> 16) % 256, (n >>> 8) % 256, n % 256].map toString)

/-! ## Addresses of eight groups -/

/-- A group: one to four hexadecimal digits. -/
def group? (cs : List Char) : Option Nat :=
  if cs.isEmpty || 4 < cs.length then none else digitsValue? 16 cs

/-- A byte in decimal without leading zeros. -/
def plainByte? (cs : List Char) : Option Nat :=
  if cs.isEmpty || 3 < cs.length || (1 < cs.length && cs.head? = some '0') then none
  else (digitsValue? 10 cs).filter (· < 256)

/-- The groups of a part: one, or two where a last part is written as four bytes. -/
def groups? (last : Bool) (part : List Char) : Option (List Nat) :=
  if last && part.contains '.' then
    match (part.splitOn '.').mapM plainByte? with
    | some [a, b, c, d] => some [a * 256 + b, c * 256 + d]
    | _ => none
  else (group? part).map fun g => [g]

/-- The groups of parts; `final` tells whether the last of them ends the address. -/
def partGroups? (final : Bool) : List (List Char) → Option (List Nat)
  | [] => some []
  | part :: rest => do
      let first ← groups? (final && rest.isEmpty) part
      let others ← partGroups? final rest
      return first ++ others

/-- The groups of one side of a double colon. -/
def sideGroups? (final : Bool) (side : List Char) : Option (List Nat) :=
  if side.isEmpty then some [] else partGroups? final (side.splitOn ':')

/-- Splits at the first double colon. -/
def splitDoubleColon : List Char → Option (List Char × List Char)
  | ':' :: ':' :: rest => some ([], rest)
  | c :: rest => (splitDoubleColon rest).map fun (left, right) => (c :: left, right)
  | [] => none

/-- The address between square brackets. -/
def ipv6? (cs : List Char) : Option (List Nat) :=
  match splitDoubleColon cs with
  | none => (sideGroups? true cs).filter fun groups => groups.length = 8
  | some (left, right) => do
      let l ← sideGroups? false left
      let r ← sideGroups? true right
      if l.length + r.length < 8 then
        some (l ++ List.replicate (8 - l.length - r.length) 0 ++ r)
      else none

/-- The number of zeros at the front. -/
def zerosAtFront (groups : List Nat) : Nat :=
  (groups.takeWhile (· = 0)).length

/-- The place and the length of the first longest run of at least two zeros. -/
def longestZeros (groups : List Nat) : Option (Nat × Nat) :=
  (List.range groups.length).foldl
    (fun best i =>
      let n := zerosAtFront (groups.drop i)
      if 2 ≤ n && best.all fun (_, m) => m < n then some (i, n) else best)
    none

def groupText (n : Nat) : String :=
  String.ofList (Nat.toDigits 16 n)

/-- The text of an address of eight groups. -/
def ipv6Text (groups : List Nat) : String :=
  let join (gs : List Nat) : String := ":".intercalate (gs.map groupText)
  match longestZeros groups with
  | none => join groups
  | some (i, n) => join (groups.take i) ++ "::" ++ join (groups.drop (i + n))

/-! ## Names -/

/-- Characters that no name of a host contains. -/
def forbidden (c : Char) : Bool :=
  c.toNat = 0 || ['\t', '\n', '\r', ' ', '#', '/', ':', '<', '>', '?', '@', '[', '\\', ']', '^',
    '|'].contains c

/-- Characters that no domain contains. -/
def forbiddenInDomain (c : Char) : Bool :=
  forbidden c || c.toNat < 0x20 || c = '%' || c.toNat = 0x7F

namespace Host

/-- Reads a host; the common schemes take domains. -/
def parse? (special : Bool) (cs : List Char) : Option Host :=
  match cs with
  | '[' :: rest =>
      if rest.getLast? = some ']' then (ipv6? rest.dropLast).map .ipv6 else none
  | _ =>
      if special then
        match Domain.toAscii? forbiddenInDomain (Text.lossy (decode cs)).toList with
        | none => none
        | some name =>
            if name.isEmpty then none
            else if endsInNumber name then (ipv4? name).map Host.ipv4
            else some (Host.domain (String.ofList name))
      else if cs.any forbidden then none
      else some (.named (String.ofList (encode controlSet cs)))

def text : Host → String
  | domain name => name
  | ipv4 address => ipv4Text address
  | ipv6 groups => "[" ++ ipv6Text groups ++ "]"
  | named text => text

end Host

end InvoiceGateway.Url
