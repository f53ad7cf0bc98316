import InvoiceGateway.Main
import InvoiceGateway.Proofs.Session.Concurrent
import InvoiceGateway.Proofs.Session.Delivery
import InvoiceGateway.Proofs.Json.Framing
import InvoiceGateway.Proofs.Packet.Framing
import InvoiceGateway.Proofs.Json.Nesting
import InvoiceGateway.Proofs.Json.Revisions
import InvoiceGateway.Proofs.Packet.Verdict
import InvoiceGateway.Proofs.Packet.Precedence
import InvoiceGateway.Proofs.Packet.Literals
import InvoiceGateway.Proofs.Invoice.Layout
import InvoiceGateway.Proofs.Answers
import InvoiceGateway.Proofs.Http.Bodies
import InvoiceGateway.Proofs.Client.Replies
import InvoiceGateway.Proofs.Client.Truncation
import InvoiceGateway.Proofs.Http.Responses
import InvoiceGateway.Proofs.Client.Reports
import InvoiceGateway.Proofs.Client.Requests
import InvoiceGateway.Proofs.Client.Endpoints
import InvoiceGateway.Proofs.Gateway.Disclosure
import InvoiceGateway.Proofs.Json.Faults
import InvoiceGateway.Proofs.Log.Lines
import InvoiceGateway.Proofs.Gateway.Audit
import InvoiceGateway.Proofs.Gateway.Independence
import InvoiceGateway.Proofs.Decimal.Signed
import InvoiceGateway.Proofs.CommandLine.Resolution
