import InvoiceGateway.Client

/-! # Sessions -/

namespace InvoiceGateway.Session

/-- The state of the network between the clients and the gateway. -/
inductive Link
  | up
  | down
deriving DecidableEq, Repr

/-- What is pushed. -/
inductive Item
  | packet (p : Packet)
  | invoice (body : Bytes)
deriving DecidableEq, Repr

/-- One push of a session. -/
structure Step where
  item : Item
  /-- What the client's base address has after the address of the gateway. -/
  suffix : String
deriving DecidableEq, Repr

/-- A request of a client as the gateway receives it. -/
def received (o : Outgoing) : Http.Request where
  method := o.method
  target := .origin o.address.path o.address.query
  headers := o.headers.map fun (name, value) => (name, Bytes.ofString value)
  body := o.body

/-- A response as a client receives it. -/
def reply (r : Http.Response) : Http.Reply :=
  .headed r.status (.complete (Bytes.ofString r.body))

def Link.network (link : Link) (sink : Gateway.Sink) : Network :=
  match link with
  | .down => Network.down
  | .up => fun o => .sent (reply (Gateway.answer sink (received o)).response)

def Item.push (item : Item) (network : Network) (c : Client) : Client.Push :=
  match item with
  | .packet p => c.push network p
  | .invoice body => c.pushInvoice network body

/-- What comes of one push: its result, the packets kept after it, and the events. -/
structure Outcome where
  result : Except GatewayError Ack
  kept : List Packet
  events : List Log.Event

/-- One push to the gateway at an address. -/
def step (link : Link) (sink : Gateway.Sink) (address : String) (kept : List Packet) (s : Step) :
    Outcome :=
  match Client.ofBase ("http://" ++ address ++ s.suffix) Client.defaultTimeout with
  | .error e => ⟨.error e, kept, []⟩
  | .ok c =>
      let push := s.item.push (link.network sink) c
      let answers := push.sent.map fun o => Gateway.answer sink (received o)
      ⟨push.result, kept ++ answers.flatMap Gateway.Outcome.packets,
        push.events ++ answers.flatMap Gateway.Outcome.events⟩

/-- The pushes of a session in their order. -/
def run (link : Link) (sink : Gateway.Sink) (address : String) :
    List Packet → List Step → List Outcome
  | _, [] => []
  | kept, s :: rest =>
      let outcome := step link sink address kept s
      outcome :: run link sink address outcome.kept rest

/-- What the gateway logs when it begins to listen. -/
def started (address : String) : List Log.Event :=
  [.listening address]

/-- What the gateway logs when it stops, by a signal or by itself. -/
def stopped (bySignal : Bool) : List Log.Event :=
  if bySignal then [.shutdownReceived, .stopped] else [.stopped]

end InvoiceGateway.Session
