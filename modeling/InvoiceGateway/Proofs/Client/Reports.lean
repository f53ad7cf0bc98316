import InvoiceGateway.Proofs.Exchange
import InvoiceGateway.Proofs.Http.Responses

/-! # What a client learns of an error -/

namespace InvoiceGateway

open Http

/-! ## Responses to errors -/

namespace GatewayError

/-- The errors that lie with what a client has sent. -/
inductive IsRefusal : GatewayError → Prop
  | payload (refusal : Packet.Refusal) : IsRefusal (.invalidPayload refusal)
  | invoice (refusal : Invoice.TooShort) : IsRefusal (.invalidInvoice refusal)

theorem IsRefusal.isClientError {e : GatewayError} (h : e.IsRefusal) :
    e.status.isClientError = true := by
  cases h <;> rfl

/-- The status and the public text of an error on the server's side say nothing else. -/
theorem publicMessage_of_not_isRefusal {e : GatewayError} (h : ¬e.IsRefusal) :
    e.publicMessage = "Internal server error" := by
  cases e with
  | invalidPayload refusal => exact absurd (.payload refusal) h
  | invalidInvoice refusal => exact absurd (.invoice refusal) h
  | exchangeFailed _ | rejected _ | internal _ | config _ => rfl

theorem not_isClientError_of_not_isRefusal {e : GatewayError} (h : ¬e.IsRefusal) :
    ¬e.status.isClientError = true := by
  cases e with
  | invalidPayload refusal => exact absurd (.payload refusal) h
  | invalidInvoice refusal => exact absurd (.invoice refusal) h
  | exchangeFailed _ | rejected _ | internal _ | config _ => exact Bool.false_ne_true

theorem le_code_status (e : GatewayError) : 400 ≤ e.status.code := by
  cases e <;> exact Nat.le_of_ble_eq_true rfl

/-- Apart from invoices, errors of one status are told in the same words. -/
theorem publicMessage_eq_of_status_eq {e e' : GatewayError} (hstatus : e'.status = e.status)
    (he : ∀ t, e ≠ .invalidInvoice t) (he' : ∀ t, e' ≠ .invalidInvoice t) :
    e'.publicMessage = e.publicMessage := by
  have hkind : ∀ {d : GatewayError}, (∀ t, d ≠ .invalidInvoice t) →
      d.publicMessage =
        if d.status = .badRequest then "Invalid payload format" else "Internal server error" := by
    intro d hd
    cases d with
    | invalidInvoice t => exact absurd rfl (hd t)
    | invalidPayload _ | exchangeFailed _ | rejected _ | internal _ | config _ => rfl
  rw [hkind he, hkind he', hstatus]

theorem response_eq_of_status_eq {e e' : GatewayError} (hstatus : e'.status = e.status)
    (he : ∀ t, e ≠ .invalidInvoice t) (he' : ∀ t, e' ≠ .invalidInvoice t) :
    e'.response = e.response := by
  rw [response, response, hstatus, publicMessage_eq_of_status_eq hstatus he he']

/-! ## What the gateway sends -/

theorem statusLineText (e : GatewayError) :
    StatusLineText (Bytes.ofString ("HTTP/1.1 " ++ e.status.text)) ⟨false, e.status⟩ := by
  have hrefused : Bytes.ofString ("HTTP/1.1 " ++ Status.badRequest.text) =
      Bytes.ofString "HTTP/1.1 400 Bad Request" := by decide +kernel
  have hgateway : Bytes.ofString ("HTTP/1.1 " ++ Status.badGateway.text) =
      Bytes.ofString "HTTP/1.1 502 Bad Gateway" := by decide +kernel
  have hinternal : Bytes.ofString ("HTTP/1.1 " ++ Status.internalServerError.text) =
      Bytes.ofString "HTTP/1.1 500 Internal Server Error" := by decide +kernel
  cases e with
  | invalidPayload _ | invalidInvoice _ =>
      rw [status, hrefused]
      exact @StatusLineText.mk false 52 48 48 (Bytes.ofString " Bad Request") rfl rfl rfl
        (by decide +kernel) (.inr ⟨_, rfl⟩) (by decide +kernel)
  | exchangeFailed _ | rejected _ =>
      rw [status, hgateway]
      exact @StatusLineText.mk false 53 48 50 (Bytes.ofString " Bad Gateway") rfl rfl rfl
        (by decide +kernel) (.inr ⟨_, rfl⟩) (by decide +kernel)
  | internal _ | config _ =>
      rw [status, hinternal]
      exact @StatusLineText.mk false 53 48 48 (Bytes.ofString " Internal Server Error") rfl rfl rfl
        (by decide +kernel) (.inr ⟨_, rfl⟩) (by decide +kernel)

theorem length_statusLine_le (e : GatewayError) :
    (Bytes.ofString ("HTTP/1.1 " ++ e.status.text)).length ≤ 100 := by
  have hall : ∀ s ∈ [Status.badRequest, Status.badGateway, Status.internalServerError],
      (Bytes.ofString ("HTTP/1.1 " ++ s.text)).length ≤ 100 := by
    decide +kernel
  exact hall e.status (by cases e <;> simp [status])

/-- What the gateway sends in answer to an error delivers the response, unless the body is too long
to be received. -/
theorem delivers_wire (e : GatewayError) (ending : Ending)
    (hlimit : (Bytes.ofString e.response.body).length ≤ lengthLimit) :
    Delivers e.response ending e.response.withLength.wire := by
  have hbody : e.response.status.isBodiless = false :=
    Client.isBodiless_eq_false (.inr e.le_code_status)
  have hsize : e.response.body.utf8ByteSize < UInt64.size := by
    have hbytes : (Bytes.ofString e.response.body).length = e.response.body.utf8ByteSize := by
      simp [Bytes.ofString]
    have hroom : lengthLimit < UInt64.size := by decide
    omega
  have hsized := sizedReply_json e.statusLineText hlimit
  have hlimits := isWithinLimits_jsonHead hsize e.length_statusLine_le
  have hwire : e.response.withLength.wire = _ := wire_json e.status e.response.body
  rw [hwire]
  exact @SizedReply.delivers e.response _ _ hsized hlimits hbody ending

end GatewayError

namespace Client

/-! ## Pushes -/

/-- A push to which a response is delivered has a result. -/
inductive Returns (r : Response) : Except GatewayError Ack → Prop
  | mk {c : Client} {a : Url.Address} {ending : Ending} {stream : Bytes} (p : Packet) :
      c.address = .ok a → Delivers r ending stream →
      Returns r (push (.answering ending stream) c p).result

/-- The result is what the client makes of the response, which arrived whole. -/
theorem Returns.eq_interpret {e : GatewayError} {result : Except GatewayError Ack}
    (h : Returns e.response result) :
    result = interpret e.status (.complete (Bytes.ofString e.response.body)) := by
  cases h with
  | mk p hreach hdelivers =>
      rw [push_answering hreach, hdelivers.read_eq (Nat.le_trans (by decide) e.le_code_status)]
      rfl

theorem reason_response (e : GatewayError) :
    reason e.status (.complete (Bytes.ofString e.response.body)) = e.publicMessage := by
  have hparse : ErrorReport.parse (Bytes.ofString e.response.body) = .ok ⟨e.publicMessage⟩ :=
    ErrorReport.parse_toJson ⟨e.publicMessage⟩
  rw [reason, hparse]

/-- What the client of a push learns of an error on the other side. -/
structure IsReported (e : GatewayError) (result : Except GatewayError Ack) : Prop where
  refused : e.IsRefusal → result = .error (.rejected e.publicMessage)
  failed : ¬e.IsRefusal →
    result = .error (.exchangeFailed (e.status.text ++ ": Internal server error"))
  /-- Two errors of one status, neither of them about an invoice, cannot be told apart. -/
  alike : ∀ e' : GatewayError, e'.status = e.status →
    (∀ t, e ≠ .invalidInvoice t) → (∀ t, e' ≠ .invalidInvoice t) →
    e'.response = e.response ∧ ∀ result', Returns e'.response result' → result' = result

/-- Whatever an error is about, a client learns its status and its public text, and no more. -/
theorem isReported_of_returns {e : GatewayError} {result : Except GatewayError Ack}
    (h : Returns e.response result) : IsReported e result where
  refused hrefusal := by
    rw [h.eq_interpret, interpret_clientError hrefusal.isClientError, reason_response]
  failed hserver := by
    have hsuccess : ¬e.status.isSuccess = true := by
      rw [isSuccess_iff]
      have := e.le_code_status
      omega
    have hclient := GatewayError.not_isClientError_of_not_isRefusal hserver
    rw [h.eq_interpret, interpret_other hsuccess hclient, reason_response,
      GatewayError.publicMessage_of_not_isRefusal hserver, String.append_assoc]
    rfl
  alike e' hstatus he he' := by
    have hresponse := GatewayError.response_eq_of_status_eq hstatus he he'
    refine ⟨hresponse, fun result' h' => ?_⟩
    rw [hresponse] at h'
    rw [h'.eq_interpret, h.eq_interpret]

/-- The error of an invoice of three bytes. -/
def shortInvoice : GatewayError :=
  .invalidInvoice ⟨Invoice.bodySize, 3⟩

theorem isReported_shortInvoice :
    Returns shortInvoice.response
        (push (.answering .stalled shortInvoice.response.withLength.wire) localClient
          ⟨1, 2, 3, 4⟩).result ∧
      IsReported shortInvoice
        (push (.answering .stalled shortInvoice.response.withLength.wire) localClient
          ⟨1, 2, 3, 4⟩).result := by
  have hdelivers := shortInvoice.delivers_wire .stalled (by decide +kernel)
  have hreturns := Returns.mk ⟨1, 2, 3, 4⟩ address_localClient hdelivers
  exact ⟨hreturns, isReported_of_returns hreturns⟩

end Client

end InvoiceGateway
