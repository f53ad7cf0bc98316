import InvoiceGateway.Http.Incoming
import InvoiceGateway.Program
import Std.Async.Select
import Std.Async.Signal
import Std.Async.TCP

/-! # The command line -/

namespace InvoiceGateway.Main

open Std.Async Std.Net

/-- Prints the events that the filter shows. -/
def log (filter : Log.Filter) (events : List Log.Event) : IO Unit :=
  for line in Program.shown filter events do
    IO.println line

def environment : IO CommandLine.Environment := do
  let values ← CommandLine.Setting.all.mapM fun s => do
    return (s, ← IO.getEnv s.environmentName)
  return fun s => ((values.lookup s).join).map Bytes.ofString

/-- The socket address of a host and a port, if the host is written as a number. -/
def socketAddress? (host : String) (port : UInt16) : Option SocketAddress :=
  match IPv4Addr.ofString host, IPv6Addr.ofString host with
  | some a, _ => some (.v4 ⟨a, port⟩)
  | none, some a => some (.v6 ⟨a, port⟩)
  | none, none => none

/-- Reads one request from a connection, as far as it is needed. -/
partial def receive (client : TCP.Socket.Client) (arrived : ByteArray) : Async Http.Incoming := do
  match Http.Incoming.read Gateway.bodyLimit arrived.data.toList with
  | .unfinished =>
      match ← client.recv? 65536 with
      | none => return .malformed
      | some more => receive client (arrived ++ more)
  | incoming => return incoming

def answer (filter : Log.Filter) (client : TCP.Socket.Client) : Async Unit := do
  match ← receive client .empty with
  | .request r =>
      let outcome := Gateway.answer .discarding r
      log filter outcome.events
      client.send outcome.response.wire.toByteArray
  | _ => client.send (Http.Response.empty .badRequest []).withLength.wire.toByteArray
  client.shutdown

/-- Answers connections until the interrupt. -/
partial def serve (filter : Log.Filter) (server : TCP.Socket.Server) (interrupt : Signal.Waiter) :
    Async Unit := do
  let next ← Selectable.one #[
    .case server.acceptSelector fun client => return some client,
    .case interrupt.selector fun _ => return none]
  match next with
  | none => return
  | some client =>
      discard <| (answer filter client).asTask
      serve filter server interrupt

/-- Runs a program that is ready to listen. -/
def run (r : Program.Ready) : IO UInt32 := do
  log r.filter Program.opening
  for line in r.complaints do
    IO.eprintln line
  match socketAddress? r.settings.trimmedHost r.settings.port with
  | none =>
      IO.eprintln "Error: failed to lookup address information"
      return 1
  | some address =>
      let server ← TCP.Socket.Server.mk
      server.bind address
      server.listen 1024
      let interrupt ← Signal.Waiter.mk .sigint false
      log r.filter (Session.started r.address)
      (serve r.filter server interrupt).block
      log r.filter Program.closing
      return 0

end InvoiceGateway.Main

def main (args : List String) : IO UInt32 := do
  let env ← InvoiceGateway.Main.environment
  match InvoiceGateway.Program.start (args.map InvoiceGateway.Bytes.ofString) env with
  | .ready r => InvoiceGateway.Main.run r
  | .ended e =>
      for line in e.stdout do
        IO.println line
      for line in e.stderr do
        IO.eprintln line
      return e.exitCode.toUInt32
