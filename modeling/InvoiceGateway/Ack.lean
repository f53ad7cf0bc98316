import InvoiceGateway.Json.Record

/-! # What the gateway answers -/

namespace InvoiceGateway

/-- The acknowledgement of a packet. -/
structure Ack where
  status : String
  message : String
  satId : UInt32
deriving DecidableEq, Repr

namespace Ack

def accepted (satId : UInt32) : Ack where
  status := "success"
  message := "Packet accepted for L2 batching"
  satId := satId

def schema : Json.Schema where
  name := "IngestAck"
  fields := [⟨"status", .text⟩, ⟨"message", .text⟩, ⟨"sat_id", .natural32⟩]

def row (a : Ack) : Json.Row schema.fields :=
  (a.status, a.message, a.satId, ())

def ofRow : Json.Row schema.fields → Ack
  | (status, message, satId, ()) => ⟨status, message, satId⟩

def toJson (a : Ack) : String :=
  schema.object a.row

/-- The compact JSON array of the fields. -/
def toJsonArray (a : Ack) : String :=
  schema.array a.row

def parse (text : Bytes) : Except Json.Error Ack :=
  (schema.parse text).map ofRow

end Ack

/-- The report of a refusal. -/
structure ErrorReport where
  error : String
deriving DecidableEq, Repr

namespace ErrorReport

def schema : Json.Schema where
  name := "ErrorResponse"
  fields := [⟨"error", .text⟩]

def row (r : ErrorReport) : Json.Row schema.fields :=
  (r.error, ())

def ofRow : Json.Row schema.fields → ErrorReport
  | (error, ()) => ⟨error⟩

def toJson (r : ErrorReport) : String :=
  schema.object r.row

/-- The compact JSON array of the fields. -/
def toJsonArray (r : ErrorReport) : String :=
  schema.array r.row

def parse (text : Bytes) : Except Json.Error ErrorReport :=
  (schema.parse text).map ofRow

end ErrorReport

end InvoiceGateway
