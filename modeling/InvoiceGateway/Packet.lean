import InvoiceGateway.Json.Printer

/-! # Packets -/

namespace InvoiceGateway

structure Packet where
  /-- Seconds since the epoch. -/
  epochTs : UInt64
  satId : UInt32
  amount : UInt64
  assetId : UInt16
deriving DecidableEq, Repr

namespace Packet

/-- The fields of a packet, in their order. -/
inductive Field
  | epochTs
  | satId
  | amount
  | assetId
deriving DecidableEq, Repr

/-- The name of a field in JSON. -/
def Field.name : Field → String
  | .epochTs => "epoch_ts"
  | .satId => "sat_id"
  | .amount => "amount"
  | .assetId => "asset_id"

/-- The width of a field in bytes. -/
def Field.width : Field → Nat
  | .epochTs => 8
  | .satId => 4
  | .amount => 8
  | .assetId => 2

/-- How many values a field can hold. -/
def Field.size : Field → Nat
  | .epochTs => UInt64.size
  | .satId => UInt32.size
  | .amount => UInt64.size
  | .assetId => UInt16.size

def Field.max (f : Field) : Nat :=
  f.size - 1

def get (p : Packet) : Field → Nat
  | .epochTs => p.epochTs.toNat
  | .satId => p.satId.toNat
  | .amount => p.amount.toNat
  | .assetId => p.assetId.toNat

/-- The packet with these field values, each cut to its width. -/
def ofFields (value : Field → Nat) : Packet where
  epochTs := UInt64.ofNat (value .epochTs)
  satId := UInt32.ofNat (value .satId)
  amount := UInt64.ofNat (value .amount)
  assetId := UInt16.ofNat (value .assetId)

def Field.all : List Field :=
  [.epochTs, .satId, .amount, .assetId]

/-- The packet as a compact JSON object. -/
def toJson (p : Packet) : String :=
  Json.compactObject (Field.all.map fun f => (f.name, toString (p.get f)))

end Packet

end InvoiceGateway
