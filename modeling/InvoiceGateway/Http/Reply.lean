import InvoiceGateway.Http.Status
import InvoiceGateway.Http.Wire

/-! # Replies on the wire -/

namespace InvoiceGateway.Http

/-- How much of a reply arrived. -/
inductive Reply
  | headed (status : Status) (body : Arrival)
  /-- The connection was closed inside the head, or the head is malformed. -/
  | broken
  /-- The head was awaited in vain. -/
  | late
deriving DecidableEq, Repr

/-- The first line of a reply. -/
structure StatusLine where
  /-- Whether the reply is of the version before chunks. -/
  isOld : Bool
  status : Status
deriving DecidableEq, Repr

/-- Reads a status line; the phrase after the code does not matter. -/
def statusLine? (line : Bytes) : Option StatusLine :=
  let version := line.take 8
  let isOld := version = Bytes.ofString "HTTP/1.0"
  if !isOld && version != Bytes.ofString "HTTP/1.1" then none
  else
    match line.drop 8 with
    | 32 :: a :: b :: c :: phrase =>
        let code := digitsNumber [a, b, c]
        if [a, b, c].all Ascii.isDigit && 100 ≤ code &&
            (phrase.isEmpty || phrase.head? = some 32) && phrase.all isTextByte then
          some ⟨isOld, ⟨code⟩⟩
        else none
    | _ => none

/-- The framing that a status line and headers ask for. -/
def framing? (line : StatusLine) (headers : List (Bytes × Bytes)) : Option Framing :=
  if line.status.isBodiless then some .absent
  else
    match headerValues "transfer-encoding" headers, headerValues "content-length" headers with
    | [], [] => some .untilClosed
    | [], lengths => (agreedLength? lengths).map .length
    | codings, _ =>
        if line.isOld then none
        else if endsChunked codings then some .chunked
        else some .untilClosed

namespace Reply

/-- What is missing when the stream ends inside a head. -/
def cutShort : Ending → Reply
  | .closed => .broken
  | .stalled => .late

/-- Whether a status announces that another reply follows. -/
def isInterim (status : Status) : Bool :=
  100 ≤ status.code && status.code < 200 && status.code != 101

/-- The longest head that is always taken, with the blank lines before it.  Whether a longer one is
depends on how it arrives; here it is refused. -/
def headLimit : Nat := 417792

/-- The first line and the other lines of the head at the front, and what follows them; blank lines
before it are passed over. -/
def takeMessage (s : Bytes) : Option (Bytes × List Bytes × Bytes) :=
  match h : takeLine s with
  | none => none
  | some (line, rest) =>
      have := length_of_takeLine h
      if line.isEmpty then takeMessage rest
      else (takeHead rest).map fun (lines, body) => (line, lines, body)
termination_by s.length

theorem length_of_takeMessage {s line rest : Bytes} {lines : List Bytes}
    (h : takeMessage s = some (line, lines, rest)) : rest.length < s.length := by
  fun_induction takeMessage s with
  | case1 => contradiction
  | case2 s line' rest' hline hlt hempty ih => exact Nat.lt_trans (ih h) hlt
  | case3 s line' rest' hline hlt hempty =>
      obtain ⟨⟨lines', body⟩, hhead, heq⟩ := Option.map_eq_some_iff.1 h
      simp only [Prod.mk.injEq] at heq
      obtain ⟨_, _, rfl⟩ := heq
      exact Nat.lt_trans (length_of_takeHead hhead) hlt

/-- Reads a reply; interim replies before it are passed over. -/
def read (ending : Ending) (s : Bytes) : Reply :=
  match h : takeMessage s with
  | none => if headLimit ≤ s.length then .broken else cutShort ending
  | some (line, lines, rest) =>
      have := length_of_takeMessage h
      if headLimit < s.length - rest.length then .broken
      else
        match statusLine? line, headers? lines with
        | some first, some headers =>
            if isInterim first.status then read ending rest
            else
              match framing? first headers with
              | some framing => .headed first.status (readBody framing ending rest)
              | none => .broken
        | _, _ => .broken
termination_by s.length

end Reply

end InvoiceGateway.Http
