import InvoiceGateway.Http.Message
import InvoiceGateway.Http.Target
import InvoiceGateway.Http.Wire
import InvoiceGateway.Text.Utf8

/-! # Requests on the wire -/

namespace InvoiceGateway.Http

/-- What the bytes that have arrived hold. -/
inductive Incoming
  /-- More bytes are needed. -/
  | unfinished
  | malformed
  | request (r : Request)
deriving DecidableEq, Repr

/-- The method and the target in a request line. -/
def requestLine? (line : Bytes) : Option (String × Target) :=
  let method := line.takeWhile isTokenByte
  match line.drop method.length with
  | 32 :: rest =>
      let target := rest.takeWhile fun b => b != 32
      let version := rest.drop target.length
      if method.isEmpty ||
          (version != Bytes.ofString " HTTP/1.1" && version != Bytes.ofString " HTTP/1.0") then
        none
      else
        (Target.parse? (Text.lossy target)).map fun t => (Text.lossy method, t)
  | _ => none

/-- The framing that the headers of a request ask for; without any there is no body. -/
def requestFraming? (headers : List (Bytes × Bytes)) : Option Framing :=
  match headerValues "transfer-encoding" headers, headerValues "content-length" headers with
  | [], [] => some .absent
  | [], lengths => (agreedLength? lengths).map .length
  | codings, _ => if endsChunked codings then some .chunked else none

namespace Incoming

/-- The body among the bytes that have arrived: all of it, or as much as exceeds the limit. -/
def body? (limit : Nat) (framing : Framing) (s : Bytes) : Arrival :=
  match framing with
  | .length n =>
      if limit < n && limit < s.length then .complete (s.take (limit + 1))
      else readBody framing .stalled s
  | _ => readBody framing .stalled s

/-- Reads what has arrived of a request. -/
def read (limit : Nat) (s : Bytes) : Incoming :=
  match takeLine s with
  | none => .unfinished
  | some (line, rest) =>
      match takeHead rest with
      | none => .unfinished
      | some (lines, s) =>
          match requestLine? line, lines.mapM headerLine? with
          | some (method, target), some headers =>
              match requestFraming? headers with
              | none => .malformed
              | some framing =>
                  match body? limit framing s with
                  | .late => .unfinished
                  | .broken => .malformed
                  | .complete body =>
                      .request ⟨method, target, headers.map fun (n, v) => (Text.lossy n, v), body⟩
          | _, _ => .malformed

end Incoming

end InvoiceGateway.Http
