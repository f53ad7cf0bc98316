import InvoiceGateway.Bytes
import InvoiceGateway.Http.Status
import InvoiceGateway.Http.Target

/-! # Requests and responses -/

namespace InvoiceGateway.Http

/-- A header: its name in lower case, and its value. -/
abbrev Header := String × String

/-- The response of the gateway. -/
structure Response where
  status : Status
  headers : List Header
  body : String
deriving DecidableEq, Repr

namespace Response

def json (status : Status) (body : String) : Response where
  status := status
  headers := [("content-type", "application/json")]
  body := body

def empty (status : Status) (headers : List Header) : Response where
  status := status
  headers := headers
  body := ""

def withLength (r : Response) : Response :=
  { r with headers := r.headers ++ [("content-length", toString r.body.utf8ByteSize)] }

/-- Leaves out the body, for a request that asks for the headers only. -/
def withoutBody (r : Response) : Response :=
  { r with body := "" }

/-- The lines of a response that is the last of its connection, without a date. -/
def lines (r : Response) : List String :=
  ["HTTP/1.1 " ++ r.status.text] ++ (r.headers.map fun (name, value) => name ++ ": " ++ value) ++
    ["connection: close", "", r.body]

def wire (r : Response) : Bytes :=
  Bytes.ofString ("\r\n".intercalate r.lines)

end Response

/-- A request to the gateway. -/
structure Request where
  method : String
  target : Target
  headers : List (String × Bytes)
  body : Bytes
deriving DecidableEq, Repr

/-- The path of the target, without its query. -/
def Request.path (r : Request) : String :=
  r.target.path

/-- Bytes that may stand in a token, such as a method or the name of a header. -/
def isTokenByte (b : UInt8) : Bool :=
  Ascii.isDigit b || Ascii.isUpper b || Ascii.isLower b ||
    (Bytes.ofString "!#$%&'*+-.^_|~\x60").contains b

/-- Bytes that may stand in the value of a header: a tab, and all but the control characters. -/
def isTextByte (b : UInt8) : Bool :=
  b = 9 || (32 ≤ b && b != 127)

def isToken (bytes : Bytes) : Bool :=
  !bytes.isEmpty && bytes.all isTokenByte

/-- The longest name of a header. -/
def nameLimit : Nat := 65535

/-- A request for a target, if its method, its target and its headers can be sent. -/
def Request.of? (method target : String) (headers : List (String × Bytes)) (body : Bytes) :
    Option Request :=
  let fits (header : String × Bytes) : Bool :=
    let name := Bytes.ofString header.1
    isToken name && name.length ≤ nameLimit && header.2.all isTextByte
  match Target.parse? target with
  | some target =>
      if isToken (Bytes.ofString method) && headers.all fits then
        some ⟨method, target, headers, body⟩
      else none
  | none => none

end InvoiceGateway.Http
