import InvoiceGateway.Session

/-! # Concurrent pushes

The network may lose a request or a reply but repeats neither. -/

namespace InvoiceGateway.Session

/-- How far the request of a push has come. -/
inductive Stage
  /-- It is on its way to the gateway. -/
  | inFlight
  /-- It was lost on its way. -/
  | lost
  /-- The gateway read the packet in it. -/
  | checked (p : Packet)
  /-- The gateway handed the packet over. -/
  | handedOver (p : Packet)
  /-- The gateway replied. -/
  | replied (response : Http.Response)
deriving DecidableEq, Repr

/-- A push that was started. -/
structure Attempt where
  /-- Where the request is sent. -/
  address : Url.Address
  packet : Packet
  stage : Stage
  /-- What the client was told, once it was told something. -/
  result : Option (Except GatewayError Ack)

/-- The request of a push as the gateway receives it. -/
def Attempt.request (t : Attempt) : Http.Request :=
  received (Client.request t.address t.packet)

/-- What a client meets instead of a reply. -/
inductive Loss
  | unconnected
  | unconnectedInTime
  | broken
  | late
deriving DecidableEq, Repr

/-- The transfer that ends in a loss. -/
def Loss.transfer : Loss → Transfer
  | unconnected => .unconnected
  | unconnectedInTime => .unconnectedInTime
  | broken => .sent .broken
  | late => .sent .late

/-- The pushes, in the order of their starts, and the packets kept so far. -/
structure World where
  attempts : List Attempt
  kept : List Packet

def World.initial : World :=
  ⟨[], []⟩

/-- What may happen; a push is named by its number. -/
inductive Action
  /-- A client starts a push and sends its request. -/
  | start (c : Client) (p : Packet)
  /-- The network loses a request. -/
  | lose (i : Nat)
  /-- The gateway checks an upload. -/
  | check (i : Nat)
  /-- The gateway hands a packet over. -/
  | handOver (i : Nat)
  /-- The gateway replies to a push whose packet was handed over. -/
  | reply (i : Nat)
  /-- A client receives its reply. -/
  | deliver (i : Nat)
  /-- A client receives the head of its reply but not all of the body. -/
  | deliverPart (i : Nat) (isLate : Bool)
  /-- A client gives up waiting. -/
  | giveUp (i : Nat) (loss : Loss)
deriving DecidableEq, Repr

/-- The stage after the gateway has looked at a request: an upload that holds a packet is to be
handed over, and anything else is answered at once. -/
def Stage.afterCheck (r : Http.Request) : Stage :=
  match Gateway.Route.of r.method r.path with
  | .ingest =>
      match Gateway.receive r.body with
      | .ok p => .checked p
      | .error e => .replied e.response.withLength
  | _ => .replied (Gateway.answer .recording r).response

namespace World

/-- Puts a push in the place of the one with the same number. -/
def replace (w : World) (i : Nat) (t : Attempt) : World :=
  { w with attempts := w.attempts.set i t }

/-- Tells the client of a push what came of it. -/
def conclude (w : World) (i : Nat) (t : Attempt) (transfer : Transfer) : World :=
  w.replace i { t with result := some (Client.conclude t.address transfer) }

/-- Does an action if it is possible now.  A push to an address that cannot be sent to has no
request, so it never starts. -/
def act (w : World) : Action → Option World
  | .start c p =>
      match c.address with
      | .ok a => some { w with attempts := w.attempts ++ [⟨a, p, .inFlight, none⟩] }
      | .error _ => none
  | .lose i =>
      w.attempts[i]?.bind fun t =>
        match t.stage with
        | .inFlight => some (w.replace i { t with stage := .lost })
        | _ => none
  | .check i =>
      w.attempts[i]?.bind fun t =>
        match t.stage with
        | .inFlight => some (w.replace i { t with stage := .afterCheck t.request })
        | _ => none
  | .handOver i =>
      w.attempts[i]?.bind fun t =>
        match t.stage with
        | .checked p =>
            some { w.replace i { t with stage := .handedOver p } with kept := w.kept ++ [p] }
        | _ => none
  | .reply i =>
      w.attempts[i]?.bind fun t =>
        match t.stage with
        | .handedOver p =>
            some (w.replace i { t with stage := .replied (Gateway.acknowledge p).withLength })
        | _ => none
  | .deliver i =>
      w.attempts[i]?.bind fun t =>
        match t.stage, t.result with
        | .replied response, none => some (w.conclude i t (.sent (Session.reply response)))
        | _, _ => none
  | .deliverPart i isLate =>
      w.attempts[i]?.bind fun t =>
        match t.stage, t.result with
        | .replied response, none =>
            let body : Http.Arrival := if isLate then .late else .broken
            some (w.conclude i t (.sent (.headed response.status body)))
        | _, _ => none
  | .giveUp i loss =>
      w.attempts[i]?.bind fun t =>
        match t.result with
        | none => some (w.conclude i t loss.transfer)
        | some _ => none

/-- Does actions in their order, if each is possible when its turn comes. -/
def actAll : World → List Action → Option World
  | w, [] => some w
  | w, action :: rest => (w.act action).bind fun w => actAll w rest

end World

end InvoiceGateway.Session
