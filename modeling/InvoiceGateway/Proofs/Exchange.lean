import InvoiceGateway.Proofs.Answers
import InvoiceGateway.Proofs.Gateway.Runs
import InvoiceGateway.Proofs.Packet.Language
import InvoiceGateway.Session

/-! # Messages arrive as they were sent -/

namespace InvoiceGateway

open Json

/-! ## Packets -/

namespace Packet

/-- The members of a packet's object. -/
def members (p : Packet) : List (String × Value) :=
  Field.all.map fun f => (f.name, .number (.natural (UInt64.ofNat (p.get f))))

theorem lastMember?_members (p : Packet) (f : Field) :
    lastMember? f.name p.members = some (.number (.natural (UInt64.ofNat (p.get f)))) := by
  cases f <;> rfl

theorem parse_toJson (p : Packet) :
    Value.parse (Bytes.ofString p.toJson) = .ok (.object p.members) := by
  have hmembers : List.Forall₂ (fun w m => Spells 126 (w.1, Bytes.ofString w.2) m)
      (Field.all.map fun f => (f.name, toString (p.get f))) p.members := by
    refine List.forall₂_map_left_iff.mpr (List.forall₂_map_right_iff.mpr ?_)
    refine List.forall₂_same.mpr fun f _ => ⟨rfl, ?_⟩
    exact valueText_natBytes (get_lt_size p f)
  exact parse_eq_ok_iff.mpr (document_compactObject hmembers)

/-- A packet is read from what was written for it. -/
theorem ofUpload_toJson (p : Packet) : ofUpload (Bytes.ofString p.toJson) = .ok p := by
  refine ofUpload_eq_ok_iff_parse.mpr ⟨_, parse_toJson p, ?_⟩
  refine ofValue_eq_ok_iff.mpr ⟨p.members, rfl, fun f => ?_⟩
  exact checkField_eq_ok_iff.mpr
    ⟨get_le_max p f, _, toNat_ofNat_get p f, lastMember?_members p f⟩

/-- No field takes more than twenty digits. -/
theorem length_natBytes_get_le (p : Packet) (f : Field) : (natBytes (p.get f)).length ≤ 20 := by
  refine length_natBytes_le ?_
  exact Nat.lt_of_lt_of_le (get_lt_size p f) (by decide)

theorem length_toJson_le (p : Packet) : (Bytes.ofString p.toJson).length ≤ 129 := by
  have hname : ∀ f : Field, (Bytes.ofString (quoteString f.name)).length ≤ 10 := by
    intro f
    cases f <;> decide
  have hmember : ∀ f : Field,
      (Bytes.ofString (compactMember f.name (toString (p.get f)))).length ≤ 31 := by
    intro f
    have hvalue := length_natBytes_get_le p f
    have hquoted := hname f
    rw [natBytes] at hvalue
    rw [ofString_compactMember, List.length_append, List.length_cons]
    omega
  have hepoch := hmember .epochTs
  have hsat := hmember .satId
  have hamount := hmember .amount
  have hasset := hmember .assetId
  have hbrace : (Bytes.ofString "\x7b").length = 1 ∧ (Bytes.ofString "\x7d").length = 1 ∧
      (Bytes.ofString ",").length = 1 := by
    decide
  simp only [toJson, compactObject, Field.all, List.map_cons, List.map_nil, joinCommas,
    Bytes.ofString_append, List.length_append, hbrace]
  omega

end Packet

/-- The gateway reads a packet from its upload. -/
theorem Gateway.receive_toJson (p : Packet) : receive (Bytes.ofString p.toJson) = .ok p := by
  have hlength : (Bytes.ofString p.toJson).length ≤ bodyLimit :=
    Nat.le_trans p.length_toJson_le (by decide)
  rw [receive, if_pos hlength, Packet.ofUpload_toJson]
  rfl

/-! ## Requests and replies -/

namespace Session

/-- The path for uploads leads the request of a packet to the acknowledgement. -/
theorem answer_received {a : Url.Address} (ha : a.path = Gateway.ingestPath) (p : Packet) :
    Gateway.answer .recording (received (Client.request a p)) =
      { response := (Gateway.acknowledge p).withLength
        packets := [p]
        events := [.accepted p.satId] } := by
  have hupload : Gateway.IsUpload (received (Client.request a p)) := ⟨rfl, ha⟩
  have hreceive : Gateway.receive (received (Client.request a p)).body = .ok p :=
    Gateway.receive_toJson p
  rw [Gateway.answer_of_isUpload hupload, Gateway.ingest, hreceive]
  rfl

theorem conclude_acknowledge (a : Url.Address) (p : Packet) :
    Client.conclude a (.sent (reply (Gateway.acknowledge p).withLength)) =
      .ok (Ack.accepted p.satId) := by
  have hparse : Ack.parse (Bytes.ofString (Ack.accepted p.satId).toJson) =
      .ok (Ack.accepted p.satId) :=
    Ack.parse_toJson _
  change Client.interpret .ok (.complete (Bytes.ofString (Ack.accepted p.satId).toJson)) = _
  simp only [Client.interpret, Client.wholeBody, hparse]
  rfl

end Session

end InvoiceGateway
