import InvoiceGateway.Proofs.Gateway.Runs
import InvoiceGateway.Proofs.Json.Faults
import InvoiceGateway.Proofs.Log.Lines
import InvoiceGateway.Proofs.Packet.Verdict
import Mathlib.Data.List.Forall2

/-! # What a run logs

Uploads that break off are no part of a run. -/

namespace InvoiceGateway.Gateway

/-! ## Reasons -/

/-- The reasons for which an upload is refused. -/
inductive IsReason : String → Prop
  | notAnObject : IsReason "payload is not a JSON object"
  | missingField (f : Packet.Field) : IsReason ("missing field: " ++ f.name)
  | wrongType (f : Packet.Field) : IsReason ("field " ++ f.name ++ " must be an unsigned integer")
  | outOfRange (f : Packet.Field) :
      IsReason ("field " ++ f.name ++ " exceeds maximum " ++ toString f.max)
  | tooLong :
      IsReason "malformed JSON: Failed to buffer the request body: length limit exceeded"
  /-- A fault of the syntax, and where it was met. -/
  | malformed {phrase : String} (hphrase : phrase ∈ Json.syntaxReasons) (line column : Nat) :
      IsReason ("malformed JSON: " ++
        (phrase ++ " at line " ++ toString line ++ " column " ++ toString column))

theorem isPrintable_syntaxReason {phrase : String} (h : phrase ∈ Json.syntaxReasons) :
    Text.IsPrintable phrase := by
  revert phrase
  simp only [Json.syntaxReasons, List.forall_mem_cons, List.not_mem_nil, false_implies,
    implies_true, and_true]
  and_intros <;> exact Text.isPrintable_ofList (by decide)

theorem IsReason.isPrintable {reason : String} (h : IsReason reason) : Text.IsPrintable reason := by
  have hname : ∀ f : Packet.Field, Text.IsPrintable f.name := by
    intro f
    cases f <;> exact Text.isPrintable_ofList (by decide)
  cases h with
  | notAnObject => exact Text.isPrintable_ofList (by decide)
  | missingField f =>
      exact Text.isPrintable_append_iff.mpr ⟨Text.isPrintable_ofList (by decide), hname f⟩
  | wrongType f =>
      simp only [Text.isPrintable_append_iff, hname f]
      exact ⟨⟨Text.isPrintable_ofList (by decide), trivial⟩, Text.isPrintable_ofList (by decide)⟩
  | outOfRange f =>
      simp only [Text.isPrintable_append_iff, hname f, Text.isPrintable_toString, and_true]
      exact ⟨Text.isPrintable_ofList (by decide), Text.isPrintable_ofList (by decide)⟩
  | tooLong => exact Text.isPrintable_ofList (by decide)
  | malformed hphrase line column =>
      simp only [Text.isPrintable_append_iff, isPrintable_syntaxReason hphrase,
        Text.isPrintable_toString, true_and, and_true]
      exact ⟨Text.isPrintable_ofList (by decide), Text.isPrintable_ofList (by decide),
        Text.isPrintable_ofList (by decide)⟩

theorem isReason_of_ofUpload {body : Bytes} {e : Packet.Refusal}
    (h : Packet.ofUpload body = .error e) : IsReason e.message := by
  unfold Packet.ofUpload at h
  cases hparse : Json.Value.parse body with
  | error fault =>
      rw [hparse] at h
      injection h with h
      subst h
      exact .malformed (Json.isSyntax_of_parse hparse).reason_mem _ _
  | ok v =>
      rw [hparse] at h
      cases v with
      | object members =>
          obtain ⟨f, hf⟩ := Packet.exists_checkField_of_ofValue h
          rcases Packet.refusal_of_checkField hf with rfl | rfl | rfl
          · exact .missingField f
          · exact .wrongType f
          · exact .outOfRange f
      | null | boolean | number | string | list =>
          injection h with h
          subst h
          exact .notAnObject

theorem isReason_of_receive {body : Bytes} {e : GatewayError} (h : receive body = .error e) :
    ∃ refusal : Packet.Refusal, e = .invalidPayload refusal ∧ IsReason refusal.message := by
  unfold receive at h
  split at h
  · obtain ⟨refusal, hrefusal, rfl⟩ := mapError_eq_error_iff.mp h
    exact ⟨refusal, rfl, isReason_of_ofUpload hrefusal⟩
  · injection h with h
    exact ⟨_, h.symm, .tooLong⟩

/-! ## Lines -/

/-- The line that tells of an accepted packet. -/
def acceptedLine (satId : UInt32) : String :=
  "DEBUG void_gateway::api::handlers::ingest: Packet accepted sat_id=" ++ toString satId.toNat

/-- The line that tells of a dropped packet. -/
def droppedLine (satId : UInt32) : String :=
  "DEBUG void_gateway::traits::settlement: No settlement backend, packet dropped sat_id=" ++
    toString satId.toNat

/-- The line that tells of a refused upload. -/
def refusedLine (reason : String) : String :=
  "DEBUG void_gateway::api::error: Request rejected code=\"INVALID_PAYLOAD\" error=invalid payload: "
    ++ reason

theorem isPrintable_acceptedLine (satId : UInt32) : Text.IsPrintable (acceptedLine satId) :=
  Text.isPrintable_append_iff.mpr
    ⟨Text.isPrintable_ofList (by decide), Text.isPrintable_toString _⟩

theorem isPrintable_droppedLine (satId : UInt32) : Text.IsPrintable (droppedLine satId) :=
  Text.isPrintable_append_iff.mpr
    ⟨Text.isPrintable_ofList (by decide), Text.isPrintable_toString _⟩

theorem IsReason.isPrintable_refusedLine {reason : String} (h : IsReason reason) :
    Text.IsPrintable (refusedLine reason) :=
  Text.isPrintable_append_iff.mpr ⟨Text.isPrintable_ofList (by decide), h.isPrintable⟩

theorem lines_accepted (satId : UInt32) :
    (Log.Event.accepted satId).lines = [acceptedLine satId] :=
  Log.Event.lines_of_text "void_gateway::api::handlers::ingest" (isPrintable_acceptedLine satId)
    rfl rfl rfl rfl

theorem lines_dropped (satId : UInt32) :
    (Log.Event.dropped satId).lines = [droppedLine satId] :=
  Log.Event.lines_of_text "void_gateway::traits::settlement" (isPrintable_droppedLine satId)
    rfl rfl rfl rfl

theorem lines_refused {refusal : Packet.Refusal} (h : IsReason refusal.message) :
    (Log.Event.refused (.invalidPayload refusal)).lines = [refusedLine refusal.message] := by
  have htext : (Log.Event.refused (.invalidPayload refusal)).text =
      "Request rejected code=\"INVALID_PAYLOAD\" error=invalid payload: " ++ refusal.message :=
    Text.append_append_of_eq rfl refusal.message
  exact Log.Event.lines_of_text "void_gateway::api::error" h.isPrintable_refusedLine
    rfl rfl htext rfl

/-! ## What a line tells -/

/-- What a line tells of an upload. -/
inductive Verdict
  | accepted
  | refused
deriving DecidableEq, Repr

namespace Verdict

/-- The status code of the answer to the upload. -/
def code : Verdict → Nat
  | accepted => 200
  | refused => 400

/-- How the line begins. -/
def head : Verdict → String
  | accepted => "DEBUG void_gateway::api::handlers::ingest: Packet accepted"
  | refused => "DEBUG void_gateway::api::error: Request rejected code=\"INVALID_PAYLOAD\""

def Heads (v : Verdict) (line : String) : Prop :=
  v.head.toList <+: line.toList

instance (v : Verdict) (line : String) : Decidable (v.Heads line) :=
  inferInstanceAs (Decidable (v.head.toList <+: line.toList))

theorem heads_append (v : Verdict) (rest : String) : v.Heads (v.head ++ rest) := by
  rw [Heads, String.toList_append]
  exact List.prefix_append _ _

theorem heads_acceptedLine (satId : UInt32) : accepted.Heads (acceptedLine satId) := by
  have hline : accepted.head ++ (" sat_id=" ++ toString satId.toNat) = acceptedLine satId :=
    Text.append_append_of_eq rfl _
  exact hline ▸ heads_append accepted _

theorem heads_refusedLine (reason : String) : refused.Heads (refusedLine reason) := by
  have hline : refused.head ++ (" error=invalid payload: " ++ reason) = refusedLine reason :=
    Text.append_append_of_eq rfl reason
  exact hline ▸ heads_append refused _

theorem not_prefix_ofList {cs ds : List Char} (h : ¬cs <+: ds) :
    ¬(String.ofList cs).toList <+: (String.ofList ds).toList := by
  rwa [String.toList_ofList, String.toList_ofList]

theorem eq_of_beginsWith {v w : Verdict} (h : v.head.toList <+: w.head.toList) : v = w := by
  revert h
  cases v <;> cases w
  · exact fun _ => rfl
  · exact fun h => absurd h (not_prefix_ofList (by decide))
  · exact fun h => absurd h (not_prefix_ofList (by decide))
  · exact fun _ => rfl

/-- A line does not tell two things. -/
theorem Heads.iff_eq {v w : Verdict} {line : String} (hw : w.Heads line) :
    v.Heads line ↔ v = w := by
  constructor
  · intro hv
    rcases List.prefix_or_prefix_of_prefix hv hw with h | h
    · exact eq_of_beginsWith h
    · exact (eq_of_beginsWith h).symm
  · rintro rfl
    exact hw

theorem not_accepted_refusedLine (reason : String) : ¬accepted.Heads (refusedLine reason) := by
  simp [(heads_refusedLine reason).iff_eq]

end Verdict

/-! ## One request -/

/-- The lines of an upload for a satellite that is accepted. -/
def Sink.lines : Sink → UInt32 → List String
  | .recording, satId => [acceptedLine satId]
  | .discarding, satId => [droppedLine satId, acceptedLine satId]

def Outcome.lines (o : Outcome) : List String :=
  o.events.flatMap Log.Event.lines

theorem lines_of_received {r : Http.Request} {p : Packet} (hr : IsUpload r)
    (h : receive r.body = .ok p) (sink : Sink) : (answer sink r).lines = sink.lines p.satId := by
  rw [answer_of_isUpload hr, ingest, h]
  cases sink with
  | recording => simp [Outcome.lines, Sink.events, Sink.lines, lines_accepted]
  | discarding => simp [Outcome.lines, Sink.events, Sink.lines, lines_accepted, lines_dropped]

theorem lines_of_refused {r : Http.Request} {refusal : Packet.Refusal} (hr : IsUpload r)
    (h : receive r.body = .error (.invalidPayload refusal)) (hreason : IsReason refusal.message)
    (sink : Sink) : (answer sink r).lines = [refusedLine refusal.message] := by
  rw [answer_of_isUpload hr, ingest, h]
  simp [Outcome.lines, lines_refused hreason]

theorem lines_of_not_isUpload {r : Http.Request} (hr : ¬IsUpload r) (sink : Sink) :
    (answer sink r).lines = [] := by
  obtain ⟨response, hquiet, -⟩ := answer_eq_quiet sink hr
  rw [hquiet]
  rfl

/-- What a request logs. -/
inductive Logs (sink : Sink) (r : Http.Request) (o : Outcome) : Prop
  /-- An accepted upload logs its satellite. -/
  | accepted (p : Packet) (hp : Uploads r p) (hcode : o.response.status.code = 200)
      (hlines : o.lines = sink.lines p.satId)
  | refused (hr : IsUpload r) (hnone : ∀ p, ¬Uploads r p)
      (hcode : o.response.status.code = 400) (reason : String) (hreason : IsReason reason)
      (hlines : o.lines = [refusedLine reason])
  | other (hr : ¬IsUpload r) (hlines : o.lines = [])

theorem logs_answer (sink : Sink) (r : Http.Request) : Logs sink r (answer sink r) := by
  by_cases hr : IsUpload r
  · cases hreceive : receive r.body with
    | ok p =>
        have hcode : (answer sink r).response.status.code = 200 := by
          rw [answer_of_isUpload hr, ingest, hreceive]
          rfl
        exact .accepted p ⟨hr, receive_eq_ok_iff.mp hreceive⟩ hcode
          (lines_of_received hr hreceive sink)
    | error e =>
        obtain ⟨refusal, rfl, hreason⟩ := isReason_of_receive hreceive
        have hcode : (answer sink r).response.status.code = 400 := by
          rw [answer_of_isUpload hr, ingest, hreceive]
          rfl
        have hnone : ∀ p, ¬Uploads r p := by
          intro p hp
          rw [receive_eq_ok_iff.mpr hp.2] at hreceive
          contradiction
        exact .refused hr hnone hcode _ hreason (lines_of_refused hr hreceive hreason sink)
  · exact .other hr (lines_of_not_isUpload hr sink)

namespace Logs

variable {sink : Sink} {r : Http.Request} {o : Outcome}

/-- A line that tells of an upload stands for an upload with that answer. -/
theorem countP_lines (h : Logs .recording r o) (v : Verdict) :
    o.lines.countP (v.Heads ·) = if IsUpload r ∧ o.response.status.code = v.code then 1 else 0 := by
  cases h with
  | accepted p hp hcode hlines =>
      have hv := (Verdict.heads_acceptedLine p.satId).iff_eq (v := v)
      cases v <;> simp [hlines, Sink.lines, hv, hp.1, hcode, Verdict.code]
  | refused hr hnone hcode reason hreason hlines =>
      have hv := (Verdict.heads_refusedLine reason).iff_eq (v := v)
      cases v <;> simp [hlines, hv, hr, hcode, Verdict.code]
  | other hr hlines => simp [hlines, hr]

theorem filter_accepted (h : Logs .recording r o) :
    o.lines.filter (Verdict.accepted.Heads ·) =
      (uploaded? r).toList.map fun p => acceptedLine p.satId := by
  cases h with
  | accepted p hp hcode hlines =>
      simp [hlines, Sink.lines, Verdict.heads_acceptedLine, uploaded?_eq_some_iff.mpr hp]
  | refused hr hnone hcode reason hreason hlines =>
      simp [hlines, Verdict.not_accepted_refusedLine, uploaded?_eq_none_iff.mpr hnone]
  | other hr hlines =>
      simp [hlines, uploaded?_eq_none_iff.mpr fun p hp => hr hp.1]

theorem isPrintable (h : Logs sink r o) : ∀ line ∈ o.lines, Text.IsPrintable line := by
  cases h with
  | accepted p hp hcode hlines =>
      rw [hlines]
      cases sink with
      | recording => simp [Sink.lines, isPrintable_acceptedLine]
      | discarding => simp [Sink.lines, isPrintable_acceptedLine, isPrintable_droppedLine]
  | refused hr hnone hcode reason hreason hlines =>
      simp [hlines, hreason.isPrintable_refusedLine]
  | other hr hlines => simp [hlines]

end Logs

/-! ## Runs -/

/-- The lines that a run logs. -/
def log (sink : Sink) (requests : List Http.Request) : List String :=
  (run sink [] requests).flatMap fun moment => moment.1.lines

theorem map_fst_run (sink : Sink) (kept : List Packet) (requests : List Http.Request) :
    (run sink kept requests).map Prod.fst = requests.map (answer sink) := by
  induction requests generalizing kept with
  | nil => rfl
  | cons r rest ih => simp [run, step, ih]

theorem log_eq_flatMap (sink : Sink) (requests : List Http.Request) :
    log sink requests = requests.flatMap fun r => (answer sink r).lines := by
  have hmap := congrArg (List.flatMap Outcome.lines) (map_fst_run sink [] requests)
  rwa [List.flatMap_map, List.flatMap_map] at hmap

/-- How many uploads in a run with a recording sink are answered with a status code. -/
def uploadsAnswered (code : Nat) (requests : List Http.Request) : Nat :=
  (requests.zip ((run .recording [] requests).map Prod.fst)).countP fun (r, o) =>
    IsUpload r ∧ o.response.status.code = code

theorem countP_log (v : Verdict) (requests : List Http.Request) :
    (log .recording requests).countP (v.Heads ·) = uploadsAnswered v.code requests := by
  rw [log_eq_flatMap, uploadsAnswered, map_fst_run]
  induction requests with
  | nil => rfl
  | cons r rest ih =>
      rw [List.flatMap_cons, List.countP_append, ih, List.map_cons, List.zip_cons_cons,
        List.countP_cons, (logs_answer .recording r).countP_lines v, Nat.add_comm]
      simp

theorem filter_log (requests : List Http.Request) :
    (log .recording requests).filter (Verdict.accepted.Heads ·) =
      (keptBy .recording requests).map fun p => acceptedLine p.satId := by
  rw [log_eq_flatMap, keptBy_recording]
  induction requests with
  | nil => rfl
  | cons r rest ih =>
      rw [List.flatMap_cons, List.filter_append, ih, (logs_answer .recording r).filter_accepted,
        List.filterMap_cons]
      cases uploaded? r <;> rfl

/-- The second log is the first with one more line right before each line that tells of an accepted
packet: the packet was dropped. -/
inductive WithDrops : List String → List String → Prop
  | nil : WithDrops [] []
  | accepted (satId : UInt32) {lines lines' : List String} (h : WithDrops lines lines') :
      WithDrops (acceptedLine satId :: lines) (droppedLine satId :: acceptedLine satId :: lines')
  | other {line : String} (hline : ¬Verdict.accepted.Heads line) {lines lines' : List String}
      (h : WithDrops lines lines') : WithDrops (line :: lines) (line :: lines')

/-- What a request logs with either sink, and then the rest of the logs. -/
theorem WithDrops.answer (r : Http.Request) {lines lines' : List String}
    (h : WithDrops lines lines') :
    WithDrops ((answer .recording r).lines ++ lines) ((answer .discarding r).lines ++ lines') := by
  by_cases hr : IsUpload r
  · cases hreceive : receive r.body with
    | ok p =>
        rw [lines_of_received hr hreceive, lines_of_received hr hreceive]
        exact .accepted p.satId h
    | error e =>
        obtain ⟨refusal, rfl, hreason⟩ := isReason_of_receive hreceive
        rw [lines_of_refused hr hreceive hreason, lines_of_refused hr hreceive hreason]
        exact .other (Verdict.not_accepted_refusedLine refusal.message) h
  · rw [lines_of_not_isUpload hr, lines_of_not_isUpload hr]
    exact h

theorem withDrops_log (requests : List Http.Request) :
    WithDrops (log .recording requests) (log .discarding requests) := by
  rw [log_eq_flatMap, log_eq_flatMap]
  induction requests with
  | nil => exact .nil
  | cons r rest ih =>
      rw [List.flatMap_cons, List.flatMap_cons]
      exact ih.answer r

/-- The log of a run is complete, and tells no more than it has to. -/
structure IsAuditTrail (requests : List Http.Request) : Prop where
  /-- The satellites of the packets that are kept are named in their order. -/
  kept : (log .recording requests).filter (Verdict.accepted.Heads ·) =
    (keptBy .recording requests).map fun p => acceptedLine p.satId
  /-- An upload is told of once. -/
  counted : ∀ v : Verdict,
    (log .recording requests).countP (v.Heads ·) = uploadsAnswered v.code requests
  each : ∀ sink, List.Forall₂ (Logs sink) requests ((run sink [] requests).map Prod.fst)
  dropped : WithDrops (log .recording requests) (log .discarding requests)
  printable : ∀ sink, ∀ line ∈ log sink requests, Text.IsPrintable line

/-- Whatever is asked for, the log is an audit trail of the uploads. -/
theorem isAuditTrail (requests : List Http.Request) : IsAuditTrail requests where
  kept := filter_log requests
  counted v := countP_log v requests
  each sink := by
    rw [map_fst_run, List.forall₂_map_right_iff, List.forall₂_same]
    exact fun r _ => logs_answer sink r
  dropped := withDrops_log requests
  printable sink line hline := by
    rw [log_eq_flatMap, List.mem_flatMap] at hline
    obtain ⟨r, -, hr⟩ := hline
    exact (logs_answer sink r).isPrintable line hr

end InvoiceGateway.Gateway
