import InvoiceGateway.Proofs.Exchange
import InvoiceGateway.Proofs.Packet.Framing

/-! # What an upload is told -/

namespace InvoiceGateway

open Json

namespace Packet

/-! ## The satellite of an upload -/

/-- The value of the last member that names the satellite, in an upload that is an object. -/
def LastSatId (body : Bytes) (v : Value) : Prop :=
  ∃ members, Document depthLimit body (.object members) ∧
    lastMember? Field.satId.name members = some v

theorem LastSatId.unique {body : Bytes} {v w : Value} (hv : LastSatId body v)
    (hw : LastSatId body w) : v = w := by
  obtain ⟨members, hdocument, hlast⟩ := hv
  obtain ⟨members', hdocument', hlast'⟩ := hw
  have hparse := parse_eq_ok_iff.mpr hdocument
  rw [parse_eq_ok_iff.mpr hdocument'] at hparse
  injection hparse with hparse
  injection hparse with hmembers
  rw [hmembers, hlast] at hlast'
  exact Option.some.inj hlast'

theorem lastSatId_of_ofUpload {body : Bytes} {p : Packet} (h : ofUpload body = .ok p) :
    LastSatId body (.number (.natural (UInt64.ofNat p.satId.toNat))) := by
  obtain ⟨members, hdocument, hvalue⟩ := exists_document_of_ofUpload h
  obtain ⟨members', hmembers, hcheck⟩ := ofValue_eq_ok_iff.mp hvalue
  injection hmembers with hmembers
  subst hmembers
  obtain ⟨-, m, hm, hlast⟩ := checkField_eq_ok_iff.mp (hcheck .satId)
  have hnatural : m = UInt64.ofNat p.satId.toNat := by
    have hget : m.toNat = p.satId.toNat := hm
    rw [← hget, UInt64.ofNat_toNat]
  exact ⟨members, hdocument, hnatural ▸ hlast⟩

theorem natural_satId_eq_iff {a b : UInt32} :
    Value.number (.natural (UInt64.ofNat a.toNat)) =
      .number (.natural (UInt64.ofNat b.toNat)) ↔ a = b := by
  constructor
  · intro h
    have hlt : ∀ n : UInt32, n.toNat < UInt64.size := fun n => Nat.lt_trans n.toNat_lt (by decide)
    injection h with h
    injection h with h
    refine UInt32.toNat_inj.mp ?_
    calc
      a.toNat = (UInt64.ofNat a.toNat).toNat := (UInt64.toNat_ofNat_of_lt (hlt a)).symm
      _ = (UInt64.ofNat b.toNat).toNat := by rw [h]
      _ = b.toNat := UInt64.toNat_ofNat_of_lt (hlt b)
  · rintro rfl
    rfl

end Packet

namespace Gateway

/-! ## Responses -/

/-- What may come of an upload in a state of the gateway: its body is judged, or cannot be read. -/
inductive MayYield (sink : Sink) (kept : List Packet) (r : Http.Request) : Outcome → Prop
  | judged : MayYield sink kept r (step sink kept r).1
  | unreadable (why : String) : MayYield sink kept r (unreadable why)

/-- The response to every upload that is refused. -/
def refusal : Http.Response :=
  (Http.Response.json .badRequest "\x7b\"error\":\"Invalid payload format\"\x7d").withLength

theorem response_invalidPayload (e : Packet.Refusal) :
    (GatewayError.invalidPayload e).response.withLength = refusal := by
  have hbody := body_response_invalidPayload e
  rw [refusal, ← hbody]
  rfl

/-- Every upload is either accepted or refused. -/
theorem MayYield.accepted_or_refused {sink : Sink} {kept : List Packet} {r : Http.Request}
    {o : Outcome} (hr : IsUpload r) (h : MayYield sink kept r o) :
    (∃ p, Uploads r p ∧ o.response = (acknowledge p).withLength) ∨ o.response = refusal := by
  cases h with
  | judged =>
      have hstep : (step sink kept r).1 = answer sink r := rfl
      rw [hstep, answer_of_isUpload hr, ingest]
      cases hreceive : receive r.body with
      | ok p => exact .inl ⟨p, ⟨hr, receive_eq_ok_iff.mp hreceive⟩, rfl⟩
      | error e =>
          obtain ⟨e, rfl⟩ := receive_eq_error hreceive
          exact .inr (response_invalidPayload e)
  | unreadable why => exact .inr (response_invalidPayload (.malformedJson why))

theorem MayYield.of_code_eq_ok {sink : Sink} {kept : List Packet} {r : Http.Request}
    {o : Outcome} (hr : IsUpload r) (h : MayYield sink kept r o)
    (hcode : o.response.status.code = 200) :
    ∃ p, Uploads r p ∧ o.response = (acknowledge p).withLength := by
  rcases h.accepted_or_refused hr with haccepted | hrefused
  · exact haccepted
  · have hbad : refusal.status.code = 400 := rfl
    rw [hrefused, hbad] at hcode
    contradiction

theorem MayYield.of_code_eq_badRequest {sink : Sink} {kept : List Packet} {r : Http.Request}
    {o : Outcome} (hr : IsUpload r) (h : MayYield sink kept r o)
    (hcode : o.response.status.code = 400) : o.response = refusal := by
  rcases h.accepted_or_refused hr with ⟨p, -, haccepted⟩ | hrefused
  · have hok : (acknowledge p).withLength.status.code = 200 := rfl
    rw [haccepted, hok] at hcode
    contradiction
  · exact hrefused

/-- An acknowledgement tells the satellite and nothing else. -/
theorem acknowledge_eq_iff {p q : Packet} :
    (acknowledge q).withLength = (acknowledge p).withLength ↔ q.satId = p.satId := by
  constructor
  · intro h
    have hbody : (Ack.accepted q.satId).toJson = (Ack.accepted p.satId).toJson :=
      congrArg Http.Response.body h
    have hq := Ack.parse_toJson (Ack.accepted q.satId)
    rw [hbody, Ack.parse_toJson] at hq
    injection hq with hq
    exact (congrArg Ack.satId hq).symm
  · intro h
    rw [acknowledge, acknowledge, h]

/-! ## Two uploads -/

/-- How far the outcomes of two uploads show what was uploaded. -/
structure IsDiscreet (r r' : Http.Request) (o o' : Outcome) : Prop where
  answered : o.response.status.code = 200 ∨ o.response.status.code = 400
  refused : o.response.status.code = 400 → o'.response.status.code = 400 →
    o'.response = o.response
  /-- An upload that is accepted names a satellite. -/
  named : o.response.status.code = 200 → ∃ v, Packet.LastSatId r.body v
  accepted : o.response.status.code = 200 → o'.response.status.code = 200 →
    ∀ v v', Packet.LastSatId r.body v → Packet.LastSatId r'.body v' →
      (o'.response = o.response ↔ v' = v)

/-- Whatever two uploads are, and whatever the gateway has kept before, their responses differ only
in whether they were accepted and in the satellite of those that were. -/
theorem isDiscreet_of_mayYield {sink sink' : Sink} {kept kept' : List Packet}
    {r r' : Http.Request} {o o' : Outcome} (hr : IsUpload r) (hr' : IsUpload r')
    (h : MayYield sink kept r o) (h' : MayYield sink' kept' r' o') : IsDiscreet r r' o o' where
  answered := by
    rcases h.accepted_or_refused hr with ⟨p, -, haccepted⟩ | hrefused
    · exact .inl (by rw [haccepted]; rfl)
    · exact .inr (by rw [hrefused]; rfl)
  refused hcode hcode' := by
    rw [h.of_code_eq_badRequest hr hcode, h'.of_code_eq_badRequest hr' hcode']
  named hcode := by
    obtain ⟨p, hp, -⟩ := h.of_code_eq_ok hr hcode
    exact ⟨_, Packet.lastSatId_of_ofUpload hp.2.2⟩
  accepted hcode hcode' v v' hv hv' := by
    obtain ⟨p, hp, hresponse⟩ := h.of_code_eq_ok hr hcode
    obtain ⟨p', hp', hresponse'⟩ := h'.of_code_eq_ok hr' hcode'
    rw [hresponse, hresponse', acknowledge_eq_iff,
      hv.unique (Packet.lastSatId_of_ofUpload hp.2.2),
      hv'.unique (Packet.lastSatId_of_ofUpload hp'.2.2)]
    exact Packet.natural_satId_eq_iff.symm

/-- An upload without headers. -/
def plainRequest : Http.Request where
  method := "POST"
  target := .origin ingestPath none
  headers := []
  body := Bytes.ofString "\x7b\"epoch_ts\":1,\"sat_id\":9,\"amount\":3,\"asset_id\":4\x7d"

/-- An upload for the same satellite that looks otherwise. -/
def typedRequest : Http.Request where
  method := "POST"
  target := .origin ingestPath (some "x")
  headers := [("content-type", Bytes.ofString "text/plain")]
  body := Bytes.ofString
    "\x7b\"sat_id\":0,\"x\":[],\"asset_id\":0,\"amount\":0,\"epoch_ts\":0,\"sat_id\":9\x7d"

theorem isDiscreet_twoRequests :
    IsUpload plainRequest ∧ IsUpload typedRequest ∧
      (step .recording [] plainRequest).1.response.status.code = 200 ∧
      (step .discarding [⟨1, 2, 3, 4⟩] typedRequest).1.response.status.code = 200 ∧
      IsDiscreet plainRequest typedRequest (step .recording [] plainRequest).1
        (step .discarding [⟨1, 2, 3, 4⟩] typedRequest).1 := by
  have hplain : IsUpload plainRequest := ⟨rfl, rfl⟩
  have htyped : IsUpload typedRequest := ⟨rfl, rfl⟩
  exact ⟨hplain, htyped, by decide +kernel, by decide +kernel,
    isDiscreet_of_mayYield hplain htyped .judged .judged⟩

end Gateway

end InvoiceGateway
