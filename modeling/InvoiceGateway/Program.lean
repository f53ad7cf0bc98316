import InvoiceGateway.CommandLine.Parser
import InvoiceGateway.Log.Filter
import InvoiceGateway.Session

/-! # The program -/

namespace InvoiceGateway.Program

/-- How a run ended: its exit code, and the lines that it printed. -/
structure Ending where
  exitCode : Nat
  stdout : List String
  stderr : List String
deriving DecidableEq, Repr

/-- A program that is ready to listen. -/
structure Ready where
  settings : Settings
  /-- The address to listen on. -/
  address : String
  filter : Log.Filter
  /-- The complaints about the filter. -/
  complaints : List String
deriving DecidableEq, Repr

/-- What comes of starting the program. -/
inductive Startup
  | ended (e : Ending)
  | ready (r : Ready)
deriving DecidableEq, Repr

/-- The lines of the events that a filter shows. -/
def shown (filter : Log.Filter) (events : List Log.Event) : List String :=
  (events.filter filter.admits).flatMap Log.Event.lines

/-- What is logged before anything can fail. -/
def opening : List Log.Event :=
  [.starting Gateway.version]

def start (args : List Bytes) (env : CommandLine.Environment) : Startup :=
  match CommandLine.parse args env with
  | .error (.help text) => .ended ⟨0, Text.lines text, []⟩
  | .error (.error e) => .ended ⟨2, [], Text.lines e.message⟩
  | .ok settings =>
      let (filter, complaints) := Log.Filter.parse settings.logLevel
      let complaints := complaints.flatMap Text.lines
      match settings.listenAddress with
      | .error e =>
          let fault := Text.lines ("Error: " ++ e.message)
          .ended ⟨1, shown filter opening, complaints ++ fault⟩
      | .ok address => .ready ⟨settings, address, filter, complaints⟩

def upload (body : Bytes) : Http.Request where
  method := "POST"
  target := .origin Gateway.ingestPath none
  headers := []
  body := body

/-- What is logged when the program is told to stop and no connection is open any more. -/
def closing : List Log.Event :=
  [.shutdownReceived, .closing, .closed, .awaiting 0, .stopped]

/-- Listens on an address, answers requests with nothing to settle them, and stops when told to. -/
def session (r : Ready) (address : String) (requests : List Http.Request) :
    List Http.Response × Ending :=
  let outcomes := (Gateway.run .discarding [] requests).map Prod.fst
  let events :=
    opening ++ Session.started address ++ outcomes.flatMap Gateway.Outcome.events ++
      closing
  (outcomes.map Gateway.Outcome.response, ⟨0, shown r.filter events, r.complaints⟩)

end InvoiceGateway.Program
