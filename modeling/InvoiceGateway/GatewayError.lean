import InvoiceGateway.Ack
import InvoiceGateway.Http.Message
import InvoiceGateway.Invoice
import InvoiceGateway.Packet.Check

/-! # Errors -/

namespace InvoiceGateway

/-- A failure of the gateway or of its client. -/
inductive GatewayError
  /-- An upload that holds no packet. -/
  | invalidPayload (refusal : Packet.Refusal)
  /-- A body that holds no invoice. -/
  | invalidInvoice (refusal : Invoice.TooShort)
  /-- The gateway could not be reached, or did not answer as it should. -/
  | exchangeFailed (detail : String)
  /-- The gateway refused the packet. -/
  | rejected (reason : String)
  | internal (detail : String)
  | config (detail : String)
deriving DecidableEq, Repr

namespace GatewayError

def message : GatewayError → String
  | invalidPayload refusal => "invalid payload: " ++ refusal.message
  | invalidInvoice refusal => "invalid invoice: " ++ refusal.message
  | exchangeFailed detail => "upstream error: " ++ detail
  | rejected reason => "packet rejected by gateway: " ++ reason
  | internal detail => "internal error: " ++ detail
  | config detail => "configuration error: " ++ detail

def status : GatewayError → Http.Status
  | invalidPayload _ => .badRequest
  | invalidInvoice _ => .badRequest
  | exchangeFailed _ => .badGateway
  | rejected _ => .badGateway
  | internal _ => .internalServerError
  | config _ => .internalServerError

def code : GatewayError → String
  | invalidPayload _ => "INVALID_PAYLOAD"
  | invalidInvoice _ => "INVALID_INVOICE"
  | exchangeFailed _ => "UPSTREAM_ERROR"
  | rejected _ => "REJECTED"
  | internal _ => "INTERNAL_ERROR"
  | config _ => "CONFIG_ERROR"

/-- The text that a client may see. -/
def publicMessage : GatewayError → String
  | invalidPayload _ => "Invalid payload format"
  | e => if e.status.isServerError then "Internal server error" else e.message

def response (e : GatewayError) : Http.Response :=
  .json e.status (ErrorReport.toJson ⟨e.publicMessage⟩)

end GatewayError

end InvoiceGateway
