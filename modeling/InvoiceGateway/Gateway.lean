import InvoiceGateway.Http.Target
import InvoiceGateway.Log.Event

/-! # The gateway

A run is of requests that arrive whole; what comes of an upload that breaks off is `unreadable`. -/

namespace InvoiceGateway.Gateway

def version : String := "0.1.0"

/-- The path for uploads. -/
def ingestPath : String := "/api/v1/ingest"

/-- The path that tells whether the gateway is alive. -/
def healthPath : String := "/health"

/-- The greatest length of an upload. -/
def bodyLimit : Nat := 2 * 1024 * 1024

/-! ## Uploads -/

/-- Why an upload that is too long cannot be read. -/
def tooLong : String :=
  "Failed to buffer the request body: length limit exceeded"

/-- The packet in an upload, if it can be read and holds one. -/
def receive (body : Bytes) : Except GatewayError Packet :=
  if body.length ≤ bodyLimit then (Packet.ofUpload body).mapError .invalidPayload
  else .error (.invalidPayload (.malformedJson tooLong))

/-- Where accepted packets go. -/
inductive Sink
  /-- Keeps every packet. -/
  | recording
  /-- Keeps none, and logs that. -/
  | discarding
deriving DecidableEq, Repr

/-- What a sink keeps of a packet. -/
def Sink.kept : Sink → Packet → List Packet
  | .recording, p => [p]
  | .discarding, _ => []

/-- What a sink logs when it is handed a packet. -/
def Sink.events : Sink → Packet → List Log.Event
  | .recording, _ => []
  | .discarding, p => [.dropped p.satId]

/-- What comes of one request: the response, the packets that the sink keeps, and the events. -/
structure Outcome where
  response : Http.Response
  packets : List Packet
  events : List Log.Event
deriving DecidableEq, Repr

def acknowledge (p : Packet) : Http.Response :=
  .json .ok (Ack.accepted p.satId).toJson

def ingest (sink : Sink) (body : Bytes) : Outcome :=
  match receive body with
  | .ok p =>
      { response := acknowledge p
        packets := sink.kept p
        events := sink.events p ++ [.accepted p.satId] }
  | .error e =>
      { response := e.response
        packets := []
        events := [.refused e] }

/-! ## Routes -/

/-- The body that tells that the gateway is alive. -/
def healthBody : String :=
  Json.compactObject
    [("status", Json.quoteString "healthy"), ("service", Json.quoteString "void-gateway"),
      ("version", Json.quoteString version)]

/-- What a request asks for. -/
inductive Route
  | ingest
  /-- Whether the gateway is alive, with or without the body. -/
  | health (withBody : Bool)
  | wrongMethod (allowed : String)
  | unknown
deriving DecidableEq, Repr

/-- The route of a method and a path. -/
def Route.of (method path : String) : Route :=
  if path = ingestPath then
    if method = "POST" then .ingest else .wrongMethod "POST"
  else if path = healthPath then
    if method = "GET" then .health true
    else if method = "HEAD" then .health false
    else .wrongMethod "GET,HEAD"
  else .unknown

/-- Answers a request whose answer does not depend on what the gateway keeps. -/
def quiet (response : Http.Response) : Outcome where
  response := response
  packets := []
  events := []

def answer (sink : Sink) (request : Http.Request) : Outcome :=
  match Route.of request.method request.path with
  | .ingest =>
      let outcome := ingest sink request.body
      { outcome with response := outcome.response.withLength }
  | .health withBody =>
      let response := (Http.Response.json .ok healthBody).withLength
      quiet (if withBody then response else response.withoutBody)
  | .wrongMethod allowed =>
      quiet (Http.Response.empty .methodNotAllowed [("allow", allowed)]).withLength
  | .unknown => quiet (Http.Response.empty .notFound []).withLength

/-- What comes of an upload whose body cannot be read, and for what reason.  Runs leave it out. -/
def unreadable (why : String) : Outcome :=
  let e := GatewayError.invalidPayload (.malformedJson why)
  { response := e.response.withLength
    packets := []
    events := [.refused e] }

/-! ## Runs -/

/-- Answers a request and appends what the sink keeps to the packets kept so far. -/
def step (sink : Sink) (kept : List Packet) (request : Http.Request) : Outcome × List Packet :=
  let outcome := answer sink request
  (outcome, kept ++ outcome.packets)

/-- Answers requests in their order: each outcome with the packets kept after it. -/
def run (sink : Sink) : List Packet → List Http.Request → List (Outcome × List Packet)
  | _, [] => []
  | kept, request :: rest =>
      let (outcome, kept) := step sink kept request
      (outcome, kept) :: run sink kept rest

end InvoiceGateway.Gateway
