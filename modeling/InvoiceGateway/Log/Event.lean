import InvoiceGateway.GatewayError
import InvoiceGateway.Text.Basic

/-! # What is logged -/

namespace InvoiceGateway.Log

/-- How important an event is, the most important first. -/
inductive Level
  | error
  | warn
  | info
  | debug
  | trace
deriving DecidableEq, Repr

/-- The word for a level in a line. -/
def Level.word : Level → String
  | .error => "ERROR"
  | .warn => "WARN"
  | .info => "INFO"
  | .debug => "DEBUG"
  | .trace => "TRACE"

inductive Event
  | starting (version : String)
  | listening (address : String)
  | shutdownReceived
  /-- The connections are told to end. -/
  | closing
  /-- No more connections are taken. -/
  | closed
  /-- So many connections have yet to end. -/
  | awaiting (connections : Nat)
  | stopped
  /-- A packet was accepted. -/
  | accepted (satId : UInt32)
  /-- A packet was dropped because there is no settlement behind the gateway. -/
  | dropped (satId : UInt32)
  /-- A request was answered by an error. -/
  | refused (error : GatewayError)
  /-- A client is about to send a packet. -/
  | pushing (url : String) (satId : UInt32)
deriving DecidableEq, Repr

namespace Event

def level : Event → Level
  | starting _ | listening _ | shutdownReceived | stopped => .info
  | accepted _ | dropped _ | refused _ | pushing _ _ => .debug
  | closing | closed | awaiting _ => .trace

/-- The module that speaks. -/
def source : Event → String
  | starting _ => "void_gateway"
  | listening _ | shutdownReceived | stopped => "void_gateway::server"
  | closing | closed | awaiting _ => "axum::serve"
  | accepted _ => "void_gateway::api::handlers::ingest"
  | dropped _ => "void_gateway::traits::settlement"
  | refused _ => "void_gateway::api::error"
  | pushing _ _ => "void_gateway::client"

def text : Event → String
  | starting version => "Starting void-gateway v" ++ version
  | listening address => "VOID gateway listening addr=" ++ address
  | shutdownReceived => "Shutdown signal received"
  | closing => "received graceful shutdown signal. Telling tasks to shutdown"
  | closed => "signal received, not accepting new connections"
  | awaiting connections => "waiting for " ++ toString connections ++ " task(s) to finish"
  | stopped => "VOID gateway stopped"
  | accepted satId => "Packet accepted sat_id=" ++ toString satId.toNat
  | dropped satId => "No settlement backend, packet dropped sat_id=" ++ toString satId.toNat
  | refused e => "Request rejected code=\"" ++ e.code ++ "\" error=" ++ e.message
  | pushing url satId => "Pushing packet url=" ++ url ++ " sat_id=" ++ toString satId.toNat

/-- The names of the message and its details. -/
def fields : Event → List String
  | starting _ | shutdownReceived | closing | closed | awaiting _ | stopped => ["message"]
  | listening _ => ["message", "addr"]
  | accepted _ | dropped _ => ["message", "sat_id"]
  | refused _ => ["message", "code", "error"]
  | pushing _ _ => ["message", "url", "sat_id"]

/-- The lines that are logged, without the blanks in front of them: a detail may break the line. -/
def lines (e : Event) : List String :=
  (Text.lines (e.level.word ++ " " ++ e.source ++ ": " ++ e.text)).map Text.trimStart

end Event

end InvoiceGateway.Log
