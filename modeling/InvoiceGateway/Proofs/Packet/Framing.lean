import InvoiceGateway.Proofs.Gateway.Runs
import InvoiceGateway.Proofs.Json.Framing
import InvoiceGateway.Proofs.Packet.Language

/-! # Uploads show where they end -/

namespace InvoiceGateway.Packet

open Json

/-! ## Uploads that are no texts -/

/-- An upload that is refused because it is no JSON text.  No sink keeps anything of it. -/
structure IsMalformed (body : Bytes) : Prop where
  refused : ∃ detail, ofUpload body = .error (.malformedJson detail)
  unsettled : ∀ sink, (Gateway.ingest sink body).packets = []

theorem packets_ingest_of_error {body : Bytes} {refusal : Refusal}
    (h : ofUpload body = .error refusal) (sink : Gateway.Sink) :
    (Gateway.ingest sink body).packets = [] := by
  rw [Gateway.ingest]
  cases hreceive : Gateway.receive body with
  | error e => rfl
  | ok p =>
      have hp := (Gateway.receive_eq_ok_iff.mp hreceive).2
      rw [h] at hp
      contradiction

theorem isMalformed_of_not_document {body : Bytes} (h : ∀ v, ¬Document depthLimit body v) :
    IsMalformed body := by
  have hrefused : ∃ detail, ofUpload body = .error (.malformedJson detail) := by
    cases hparse : Value.parse body with
    | error e => exact ⟨e.message, by rw [ofUpload, hparse]⟩
    | ok v => exact absurd (parse_eq_ok_iff.mp hparse) (h v)
  obtain ⟨detail, hdetail⟩ := hrefused
  exact ⟨⟨detail, hdetail⟩, packets_ingest_of_error hdetail⟩

/-! ## Uploads that hold a packet -/

theorem exists_document_of_ofUpload {body : Bytes} {p : Packet} (h : ofUpload body = .ok p) :
    ∃ members, Document depthLimit body (.object members) ∧ ofValue (.object members) = .ok p := by
  obtain ⟨v, hparse, hv⟩ := ofUpload_eq_ok_iff_parse.mp h
  obtain ⟨members, rfl, -⟩ := ofValue_eq_ok_iff.mp hv
  exact ⟨members, parse_eq_ok_iff.mp hparse, hv⟩

theorem isMalformed_append {body more : Bytes} {p : Packet} (h : ofUpload body = .ok p)
    (hmore : ¬Blanks more) : IsMalformed (body ++ more) := by
  obtain ⟨members, hdocument, -⟩ := exists_document_of_ofUpload h
  refine isMalformed_of_not_document fun v hv => hmore ?_
  cases hdocument with
  | @mk front t back _ hfront ht _ =>
      rw [List.append_assoc] at hv
      have hblank := ((document_append_iff (by nofun) hfront ht _).mp hv).2
      exact fun b hb => hblank b (List.mem_append_right back hb)

/-- How an upload that holds a packet is framed. -/
structure IsFramed (body : Bytes) (p : Packet) : Prop where
  /-- The parts that stop before the closing brace of the object are no texts. -/
  cut : ∃ front inner back members, body = front ++ openBrace :: inner ++ closeBrace :: back ∧
    Blanks front ∧ Blanks back ∧
    ValueText depthLimit (openBrace :: inner ++ [closeBrace]) (.object members) ∧
    ∀ part, part <+: front ++ openBrace :: inner → IsMalformed part
  /-- Something that is not blank makes it no text. -/
  extended : ∀ more, ¬Blanks more → IsMalformed (body ++ more)
  /-- Blanks around it do not matter. -/
  surrounded : ∀ front back, Blanks front → Blanks back →
    ofUpload (front ++ body ++ back) = .ok p
  /-- Two of them, one behind the other, are no text. -/
  joined : ∀ other q, ofUpload other = .ok q → IsMalformed (body ++ other)

/-- A truncated or extended upload never holds a packet. -/
theorem isFramed_of_ofUpload {body : Bytes} {p : Packet} (h : ofUpload body = .ok p) :
    IsFramed body p where
  cut := by
    obtain ⟨members, hdocument, -⟩ := exists_document_of_ofUpload h
    obtain ⟨front, inner, back, hfront, hobject, hback, rfl⟩ := hdocument.exists_braces
    refine ⟨front, inner, back, members, rfl, hfront, hback, hobject, fun part hpart => ?_⟩
    exact isMalformed_of_not_document (not_document_of_part hfront hobject hpart)
  extended := fun more hmore => isMalformed_append h hmore
  surrounded := by
    intro front back hfront hback
    obtain ⟨members, hdocument, hp⟩ := exists_document_of_ofUpload h
    rw [ofUpload_of_document (hdocument.surround hfront hback), hp]
  joined := by
    intro other q hother
    obtain ⟨members, hdocument, -⟩ := exists_document_of_ofUpload hother
    exact isMalformed_append h hdocument.not_blanks

/-- An upload with blanks around it, an escape in a name and a member that does not count. -/
def paddedUpload : Bytes :=
  Bytes.ofString
    " \x7b\"sat\\u005fid\":2,\"epoch_ts\":1 ,\"amount\":3,\"x\":[\x7b\x7d],\"asset_id\":4\x7d\r\n"

theorem isFramed_paddedUpload :
    ofUpload paddedUpload = .ok ⟨1, 2, 3, 4⟩ ∧ IsFramed paddedUpload ⟨1, 2, 3, 4⟩ := by
  have h : ofUpload paddedUpload = .ok ⟨1, 2, 3, 4⟩ := by
    with_unfolding_all rfl
  exact ⟨h, isFramed_of_ofUpload h⟩

end InvoiceGateway.Packet
