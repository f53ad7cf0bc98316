import InvoiceGateway.Bytes
import InvoiceGateway.Packet

/-! # Invoice bodies -/

namespace InvoiceGateway.Invoice

def bodySize : Nat := 62

/-- Where a field begins; the telemetry lies between the first two, the checksum behind the last. -/
def offset : Packet.Field → Nat
  | .epochTs => 0
  | .satId => 44
  | .amount => 48
  | .assetId => 56

/-- The bytes of a field in a body. -/
def slice (body : Bytes) (f : Packet.Field) : Bytes :=
  (body.drop (offset f)).take f.width

/-- A body that is too short to hold an invoice. -/
structure TooShort where
  expected : Nat
  actual : Nat
deriving DecidableEq, Repr

def TooShort.message (e : TooShort) : String :=
  "invoice body too short: expected " ++ toString e.expected ++ " bytes, got " ++
    toString e.actual

/-- The packet of a body, whose checksum is not checked and which may go on behind it. -/
def decode (body : Bytes) : Except TooShort Packet :=
  if body.length < bodySize then .error ⟨bodySize, body.length⟩
  else .ok (.ofFields fun f => Bytes.littleEndian (slice body f))

/-- An invoice body that holds a packet, with the given telemetry and checksum. -/
def encode (p : Packet) (telemetry checksum : Bytes) : Bytes :=
  let field (f : Packet.Field) := Bytes.ofLittleEndian f.width (p.get f)
  field .epochTs ++ telemetry ++ field .satId ++ field .amount ++ field .assetId ++ checksum

end InvoiceGateway.Invoice
