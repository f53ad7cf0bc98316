import InvoiceGateway.Gateway
import InvoiceGateway.Http.Reply
import InvoiceGateway.Url.Address

/-! # The client

The network is a parameter: it tells what comes of sending a request. -/

namespace InvoiceGateway

/-- A client of one gateway. -/
structure Client where
  /-- Where packets are sent. -/
  ingestUrl : String
  /-- How long a push may take, in milliseconds. -/
  timeout : Nat
deriving DecidableEq, Repr

/-- A request that a client sends. -/
structure Outgoing where
  address : Url.Address
  method : String
  headers : List Http.Header
  body : Bytes
deriving DecidableEq, Repr

namespace Outgoing

def line (o : Outgoing) : String :=
  o.method ++ " " ++ o.address.target ++ " HTTP/1.1"

/-- The lines of the headers, less the one that names the host. -/
def headerLines (o : Outgoing) : List String :=
  o.headers.map fun (name, value) => name ++ ": " ++ value

end Outgoing

/-- What comes of sending a request. -/
inductive Transfer
  /-- No connection could be opened, so nothing was sent. -/
  | unconnected
  /-- No connection was opened in time. -/
  | unconnectedInTime
  /-- The request was sent, and this is what came back. -/
  | sent (reply : Http.Reply)
deriving DecidableEq, Repr

/-- A network tells what comes of sending a request. -/
abbrev Network := Outgoing → Transfer

namespace Network

def down : Network := fun _ => .unconnected

/-- A network with one server, which answers every request by the same bytes. -/
def answering (ending : Http.Ending) (reply : Bytes) : Network := fun _ =>
  .sent (.read ending reply)

end Network

namespace Client

/-- The default of the time that a push may take. -/
def defaultTimeout : Nat := 5000

/-- The characters without the slashes at the end. -/
def trimSlashes (cs : List Char) : List Char :=
  (cs.reverse.dropWhile (· = '/')).reverse

/-- A client for the gateway at a base address. -/
def ofBase (base : String) (timeout : Nat) : Except GatewayError Client :=
  let trimmed := trimSlashes base.toList
  if trimmed.isEmpty then .error (.config "gateway URL must not be empty")
  else .ok ⟨String.ofList trimmed ++ Gateway.ingestPath, timeout⟩

/-! ## Requests -/

/-- Why no request can be made for an address. -/
inductive AddressFault
  | malformed
  /-- An address of another kind than the client sends to. -/
  | unsupported (address : Url.Address)
deriving DecidableEq, Repr

/-- The longest address that can be sent to. -/
def addressLimit : Nat := 65534

/-- Characters that a host may contain to be sent to. -/
def isHostChar (c : Char) : Bool :=
  !(['"', '\x60', '\x7b', '\x7d'].contains c)

/-- Whether requests can be sent to an address. -/
def isReachable (a : Url.Address) : Bool :=
  (a.scheme = "http" || a.scheme = "https") &&
    (a.host?.any fun host => host.text.toList.all isHostChar) &&
    a.text.utf8ByteSize ≤ addressLimit

/-- The address that packets are sent to; user name and password are not part of it. -/
def address (c : Client) : Except AddressFault Url.Address :=
  match Url.Address.parse? c.ingestUrl with
  | none => .error .malformed
  | some a =>
      let a := if a.host?.isSome then a.withoutCredentials else a
      if isReachable a then .ok a else .error (.unsupported a)

def request (address : Url.Address) (p : Packet) : Outgoing :=
  let body := Bytes.ofString p.toJson
  { address := address
    method := "POST"
    headers :=
      [("accept", "*/*"), ("content-length", toString body.length),
        ("content-type", "application/json")]
    body := body }

/-! ## Replies -/

/-- The error of an address that no request can be made for. -/
def AddressFault.error : AddressFault → GatewayError
  | .malformed => .exchangeFailed "builder error"
  | .unsupported a => .exchangeFailed ("builder error for url (" ++ a.text ++ ")")

/-- What failed while a request was sent or its head awaited. -/
def sendingTo (a : Url.Address) : String :=
  "error sending request for url (" ++ a.text ++ ")"

/-- The error of a body that does not arrive whole or does not say what it should. -/
def undecodable : String :=
  "error decoding response body"

/-- The body of a reply, if all of it arrived. -/
def wholeBody : Http.Arrival → Except GatewayError Bytes
  | .complete body => .ok body
  | .broken => .error (.exchangeFailed undecodable)
  | .late => .error (.exchangeFailed ("timeout: " ++ undecodable))

/-- The reason that a reply other than a success gives: its error report, or else its status. -/
def reason (status : Http.Status) (body : Http.Arrival) : String :=
  match body with
  | .complete bytes =>
      match ErrorReport.parse bytes with
      | .ok report => report.error
      | .error _ => status.text
  | _ => status.text

def interpret (status : Http.Status) (body : Http.Arrival) : Except GatewayError Ack :=
  if status.isSuccess then
    match wholeBody body with
    | .error e => .error e
    | .ok bytes =>
        match Ack.parse bytes with
        | .ok ack => .ok ack
        | .error _ => .error (.exchangeFailed undecodable)
  else if status.isClientError then .error (.rejected (reason status body))
  else .error (.exchangeFailed (status.text ++ ": " ++ reason status body))

def conclude (a : Url.Address) : Transfer → Except GatewayError Ack
  | .unconnected => .error (.exchangeFailed ("connection failed: " ++ sendingTo a))
  | .unconnectedInTime => .error (.exchangeFailed ("timeout: " ++ sendingTo a))
  | .sent .broken => .error (.exchangeFailed (sendingTo a))
  | .sent .late => .error (.exchangeFailed ("timeout: " ++ sendingTo a))
  | .sent (.headed status body) => interpret status body

/-! ## Pushes -/

/-- What comes of a push: its result, the requests that were sent, and the events. -/
structure Push where
  result : Except GatewayError Ack
  sent : List Outgoing
  events : List Log.Event

/-- The request as far as it was sent. -/
def Transfer.request (outgoing : Outgoing) : Transfer → List Outgoing
  | .sent _ => [outgoing]
  | _ => []

def push (network : Network) (c : Client) (p : Packet) : Push :=
  let events := [Log.Event.pushing c.ingestUrl p.satId]
  match c.address with
  | .error fault => ⟨.error fault.error, [], events⟩
  | .ok a =>
      let outgoing := request a p
      let transfer := network outgoing
      ⟨conclude a transfer, Transfer.request outgoing transfer, events⟩

/-- Decodes an invoice and pushes its packet. -/
def pushInvoice (network : Network) (c : Client) (invoice : Bytes) : Push :=
  match Invoice.decode invoice with
  | .error e => ⟨.error (.invalidInvoice e), [], []⟩
  | .ok p => push network c p

end Client

end InvoiceGateway
