import InvoiceGateway.Json.Parser
import InvoiceGateway.Packet

/-! # Checking an upload -/

namespace InvoiceGateway.Packet

/-- Why an upload holds no packet. -/
inductive Refusal
  | malformedJson (detail : String)
  | notAnObject
  | missingField (name : String)
  | wrongType (name : String)
  | outOfRange (name : String) (max : Nat)
deriving DecidableEq, Repr

def Refusal.message : Refusal → String
  | .malformedJson detail => "malformed JSON: " ++ detail
  | .notAnObject => "payload is not a JSON object"
  | .missingField name => "missing field: " ++ name
  | .wrongType name => "field " ++ name ++ " must be an unsigned integer"
  | .outOfRange name max => "field " ++ name ++ " exceeds maximum " ++ toString max

/-- The value of one field among the members of an object. -/
def checkField (members : List (String × Json.Value)) (f : Field) : Except Refusal Nat :=
  match Json.lastMember? f.name members with
  | none => .error (.missingField f.name)
  | some (.number (.natural n)) =>
      if n.toNat ≤ f.max then .ok n.toNat else .error (.outOfRange f.name f.max)
  | some _ => .error (.wrongType f.name)

def ofValue : Json.Value → Except Refusal Packet
  | .object members => do
      let epochTs ← checkField members .epochTs
      let satId ← checkField members .satId
      let amount ← checkField members .amount
      let assetId ← checkField members .assetId
      return {
        epochTs := UInt64.ofNat epochTs
        satId := UInt32.ofNat satId
        amount := UInt64.ofNat amount
        assetId := UInt16.ofNat assetId }
  | _ => .error .notAnObject

def ofUpload (body : Bytes) : Except Refusal Packet :=
  match Json.Value.parse body with
  | .error e => .error (.malformedJson e.message)
  | .ok v => ofValue v

end InvoiceGateway.Packet
