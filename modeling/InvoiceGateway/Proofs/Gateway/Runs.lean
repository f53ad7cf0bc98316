import InvoiceGateway.Gateway
import InvoiceGateway.Proofs.Success

/-! # What a run keeps

Uploads that break off are no part of a run. -/

namespace InvoiceGateway.Gateway

/-! ## Requests that hand a packet over -/

/-- The method and the path of a request are those of an upload. -/
def IsUpload (r : Http.Request) : Prop :=
  r.method = "POST" ∧ r.path = "/api/v1/ingest"

/-- A request uploads a packet in a body that is not too long. -/
def Uploads (r : Http.Request) (p : Packet) : Prop :=
  IsUpload r ∧ r.body.length ≤ 2097152 ∧ Packet.ofUpload r.body = .ok p

instance (r : Http.Request) : Decidable (IsUpload r) :=
  inferInstanceAs (Decidable (_ ∧ _))

/-- The packet that a request uploads. -/
def uploaded? (r : Http.Request) : Option Packet :=
  if IsUpload r ∧ r.body.length ≤ 2097152 then (Packet.ofUpload r.body).toOption else none

theorem uploaded?_eq_some_iff {r : Http.Request} {p : Packet} :
    uploaded? r = some p ↔ Uploads r p := by
  unfold uploaded? Uploads
  split
  · next h =>
      cases Packet.ofUpload r.body with
      | error refusal => simp [Except.toOption]
      | ok q => simp [Except.toOption, h]
  · next h =>
      constructor
      · intro hnone
        contradiction
      · rintro ⟨hupload, hlength, -⟩
        exact absurd ⟨hupload, hlength⟩ h

theorem uploaded?_eq_none_iff {r : Http.Request} :
    uploaded? r = none ↔ ∀ p, ¬Uploads r p := by
  simp only [Option.eq_none_iff_forall_ne_some, ne_eq, uploaded?_eq_some_iff]

theorem receive_eq_ok_iff {body : Bytes} {p : Packet} :
    receive body = .ok p ↔ body.length ≤ 2097152 ∧ Packet.ofUpload body = .ok p := by
  have hlimit : bodyLimit = 2097152 := rfl
  unfold receive
  rw [hlimit]
  split
  · next h =>
      rw [mapError_eq_ok_iff]
      exact ⟨fun hp => ⟨h, hp⟩, And.right⟩
  · next h => simp [h]

theorem receive_eq_error {body : Bytes} {e : GatewayError} (h : receive body = .error e) :
    ∃ refusal, e = .invalidPayload refusal := by
  unfold receive at h
  split at h
  · cases hupload : Packet.ofUpload body with
    | error refusal =>
        rw [hupload] at h
        injection h with h
        exact ⟨refusal, h.symm⟩
    | ok p =>
        rw [hupload] at h
        contradiction
  · injection h with h
    exact ⟨_, h.symm⟩

/-! ## Answers -/

/-- What the answer to a request has to be. -/
structure Answers (r : Http.Request) (o : Outcome) : Prop where
  accepted : ∀ p, Uploads r p →
    o.packets = [p] ∧ o.response.status.code = 200 ∧
      o.response.body = (Ack.accepted p.satId).toJson
  refused : IsUpload r → (∀ p, ¬Uploads r p) →
    o.packets = [] ∧ o.response.status.code = 400 ∧
      o.response.body = "\x7b\"error\":\"Invalid payload format\"\x7d"
  other : ¬IsUpload r →
    o.packets = [] ∧ ∀ a, Ack.parse (Bytes.ofString o.response.body) ≠ .ok a

theorem body_response_invalidPayload (refusal : Packet.Refusal) :
    (GatewayError.invalidPayload refusal).response.body =
      "\x7b\"error\":\"Invalid payload format\"\x7d" := by
  have hreport : ErrorReport.toJson ⟨"Invalid payload format"⟩ =
      "\x7b\"error\":\"Invalid payload format\"\x7d" := by
    decide +kernel
  exact hreport

theorem answer_of_isUpload {sink : Sink} {r : Http.Request} (h : IsUpload r) :
    answer sink r =
      { ingest sink r.body with response := (ingest sink r.body).response.withLength } := by
  have hroute : Route.of r.method r.path = .ingest := by
    rw [h.1, h.2]
    rfl
  rw [answer, hroute]

theorem route_eq_ingest_iff {method path : String} :
    Route.of method path = .ingest ↔ method = "POST" ∧ path = ingestPath := by
  unfold Route.of
  split
  · next hpath => split <;> simp_all
  · next hpath =>
      split
      · split
        · simp [hpath]
        · split <;> simp [hpath]
      · simp [hpath]

/-- Only uploads are answered with something else than the state of the gateway or nothing. -/
theorem answer_eq_quiet (sink : Sink) {r : Http.Request} (h : ¬IsUpload r) :
    ∃ response, answer sink r = quiet response ∧
      (response.body = healthBody ∨ response.body = "") := by
  have hroute : Route.of r.method r.path ≠ .ingest :=
    fun hroute => h (route_eq_ingest_iff.mp hroute)
  unfold answer
  cases hr : Route.of r.method r.path with
  | ingest => exact absurd hr hroute
  | health withBody =>
      cases withBody with
      | true => exact ⟨_, rfl, .inl rfl⟩
      | false => exact ⟨_, rfl, .inr rfl⟩
  | wrongMethod allowed => exact ⟨_, rfl, .inr rfl⟩
  | unknown => exact ⟨_, rfl, .inr rfl⟩

theorem answer_of_not_isUpload (sink : Sink) {r : Http.Request} (h : ¬IsUpload r) :
    (answer sink r).packets = [] ∧
      ((answer sink r).response.body = healthBody ∨ (answer sink r).response.body = "") := by
  obtain ⟨response, hquiet, hbody⟩ := answer_eq_quiet sink h
  rw [hquiet]
  exact ⟨rfl, hbody⟩

/-- Neither the state of the gateway nor nothing is an acknowledgement. -/
theorem parse_ack_of_quiet {body : String} (h : body = healthBody ∨ body = "") (a : Ack) :
    Ack.parse (Bytes.ofString body) ≠ .ok a := by
  have hhealth : (Ack.parse (Bytes.ofString healthBody)).toOption = none := by decide +kernel
  have hempty : (Ack.parse (Bytes.ofString "")).toOption = none := by decide +kernel
  intro ha
  rcases h with rfl | rfl
  · simp [ha, Except.toOption] at hhealth
  · simp [ha, Except.toOption] at hempty

theorem answers_answer (r : Http.Request) : Answers r (answer .recording r) where
  accepted := by
    intro p hp
    have hreceive : receive r.body = .ok p := receive_eq_ok_iff.mpr hp.2
    rw [answer_of_isUpload hp.1, ingest, hreceive]
    exact ⟨rfl, rfl, rfl⟩
  refused := by
    intro hr hnone
    rw [answer_of_isUpload hr, ingest]
    cases hreceive : receive r.body with
    | ok p => exact absurd ⟨hr, receive_eq_ok_iff.mp hreceive⟩ (hnone p)
    | error e =>
        obtain ⟨refusal, rfl⟩ := receive_eq_error hreceive
        exact ⟨rfl, rfl, body_response_invalidPayload refusal⟩
  other := by
    intro hr
    obtain ⟨hpackets, hbody⟩ := answer_of_not_isUpload .recording hr
    exact ⟨hpackets, parse_ack_of_quiet hbody⟩

/-! ## Runs -/

theorem packets_answer (r : Http.Request) :
    (answer .recording r).packets = (uploaded? r).toList := by
  cases hr : uploaded? r with
  | some p => exact ((answers_answer r).accepted p (uploaded?_eq_some_iff.mp hr)).1
  | none =>
      have hnone : ∀ p, ¬Uploads r p := by
        intro p hp
        rw [uploaded?_eq_some_iff.mpr hp] at hr
        contradiction
      by_cases hupload : IsUpload r
      · exact ((answers_answer r).refused hupload hnone).1
      · exact ((answers_answer r).other hupload).1

theorem length_run (sink : Sink) (kept : List Packet) (requests : List Http.Request) :
    (run sink kept requests).length = requests.length := by
  induction requests generalizing kept with
  | nil => rfl
  | cons r rest ih => simp [run, ih]

/-- After each request, a run has kept what was kept before it and the packets uploaded so far. -/
theorem run_recording_get (kept : List Packet) {requests : List Http.Request} {i : Nat}
    {r : Http.Request} (h : requests[i]? = some r) :
    (run .recording kept requests)[i]? =
      some (answer .recording r, kept ++ (requests.take (i + 1)).filterMap uploaded?) := by
  induction requests generalizing kept i with
  | nil => contradiction
  | cons first rest ih =>
      have hkept : kept ++ (answer .recording first).packets =
          kept ++ [first].filterMap uploaded? := by
        rw [packets_answer]
        cases hfirst : uploaded? first <;> simp [hfirst]
      cases i with
      | zero =>
          injection h with h
          subst h
          simp only [run, step, List.getElem?_cons_zero, hkept]
          rfl
      | succ i =>
          simp only [run, step, List.getElem?_cons_succ]
          rw [ih _ h, hkept, List.append_assoc, ← List.filterMap_append]
          rfl

/-- What is kept at the end of a run that began with nothing. -/
def keptBy (sink : Sink) (requests : List Http.Request) : List Packet :=
  ((run sink [] requests).getLast?.map Prod.snd).getD []

theorem keptBy_recording (requests : List Http.Request) :
    keptBy .recording requests = requests.filterMap uploaded? := by
  cases hlast : requests.getLast? with
  | none =>
      rw [List.getLast?_eq_none_iff.mp hlast]
      rfl
  | some r =>
      rw [List.getLast?_eq_getElem?] at hlast
      have hlength : requests.length - 1 + 1 = requests.length := by
        have hlt : requests.length - 1 < requests.length := (List.getElem?_eq_some_iff.mp hlast).1
        omega
      have hrun := run_recording_get [] hlast
      rw [hlength, List.take_length] at hrun
      rw [keptBy, List.getLast?_eq_getElem?, length_run, hrun]
      rfl

/-- A run with a recording sink keeps exactly the uploaded packets, in their order.  Every request
is answered, its answer is as it has to be, and what is kept after it are the packets uploaded so
far. -/
theorem run_recording (requests : List Http.Request) :
    keptBy .recording requests = requests.filterMap uploaded? ∧
      (run .recording [] requests).length = requests.length ∧
      ∀ i : Fin requests.length, ∃ outcome,
        (run .recording [] requests)[i]? =
            some (outcome, (requests.take (i + 1)).filterMap uploaded?) ∧
          Answers requests[i] outcome := by
  refine ⟨keptBy_recording requests, length_run _ _ _, fun i => ?_⟩
  have hget : requests[i.val]? = some requests[i] := List.getElem?_eq_getElem i.isLt
  exact ⟨_, run_recording_get [] hget, answers_answer _⟩

end InvoiceGateway.Gateway
