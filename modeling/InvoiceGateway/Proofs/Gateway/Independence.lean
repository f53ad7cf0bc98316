import InvoiceGateway.Proofs.Gateway.Audit
import Mathlib.Data.List.FinRange

/-! # Requests do not depend on each other

Uploads that break off are no part of a run. -/

namespace InvoiceGateway.Gateway

/-! ## Sinks -/

theorem response_ingest (sink sink' : Sink) (body : Bytes) :
    (ingest sink body).response = (ingest sink' body).response := by
  unfold ingest
  cases receive body <;> rfl

/-- No response depends on the sink. -/
theorem response_answer (sink sink' : Sink) (r : Http.Request) :
    (answer sink r).response = (answer sink' r).response := by
  unfold answer
  cases Route.of r.method r.path with
  | ingest => exact congrArg Http.Response.withLength (response_ingest sink sink' r.body)
  | health withBody => rfl
  | wrongMethod allowed => rfl
  | unknown => rfl

theorem responses_run (sink : Sink) (kept : List Packet) (requests : List Http.Request) :
    (run sink kept requests).map (fun moment => moment.1.response) =
      requests.map fun r => (answer sink r).response := by
  have hmap := congrArg (List.map Outcome.response) (map_fst_run sink kept requests)
  rwa [List.map_map, List.map_map] at hmap

/-! ## What comes of a run -/

/-- What is kept at the end of a run: what was kept before it, and what came of each request. -/
theorem getLast_run (sink : Sink) (kept : List Packet) (requests : List Http.Request) :
    ((run sink kept requests).getLast?.map Prod.snd).getD kept =
      kept ++ requests.flatMap fun r => (answer sink r).packets := by
  induction requests generalizing kept with
  | nil => exact (List.append_nil kept).symm
  | cons r rest ih =>
      calc
        ((run sink kept (r :: rest)).getLast?.map Prod.snd).getD kept
            = ((run sink (kept ++ (answer sink r).packets) rest).getLast?.map Prod.snd).getD
                (kept ++ (answer sink r).packets) := by
          rw [run, step, List.getLast?_cons, Option.map_some, Option.getD_some]
          exact (Option.getD_map Prod.snd (answer sink r, _) _).symm
        _ = kept ++ ((r :: rest).flatMap fun r => (answer sink r).packets) := by
          rw [ih, List.flatMap_cons, List.append_assoc]

theorem keptBy_eq_flatMap (sink : Sink) (requests : List Http.Request) :
    keptBy sink requests = requests.flatMap fun r => (answer sink r).packets := by
  simpa [keptBy] using getLast_run sink [] requests

/-- The outcomes of the requests are these, whatever was kept before.  A run that begins with nothing
keeps their packets and logs their lines. -/
structure ComesOf (sink : Sink) (requests : List Http.Request) (outcomes : List Outcome) :
    Prop where
  each : ∀ kept, (run sink kept requests).map Prod.fst = outcomes
  kept : keptBy sink requests = outcomes.flatMap Outcome.packets
  logged : log sink requests = outcomes.flatMap Outcome.lines

theorem comesOf_map (sink : Sink) (requests : List Http.Request) :
    ComesOf sink requests (requests.map (answer sink)) where
  each kept := map_fst_run sink kept requests
  kept := by rw [keptBy_eq_flatMap, List.flatMap_map]
  logged := by rw [log_eq_flatMap, List.flatMap_map]

/-! ## Runs in another order -/

/-- The elements of a list in another order: the place `i` is taken by the one at `σ i`. -/
def reorder {α : Type} (l : List α) (σ : Equiv.Perm (Fin l.length)) : List α :=
  List.ofFn (l.get ∘ σ)

theorem reorder_perm {α : Type} (l : List α) (σ : Equiv.Perm (Fin l.length)) :
    (reorder l σ).Perm l := by
  have hperm := Equiv.Perm.ofFn_comp_perm σ l.get
  rwa [List.ofFn_get] at hperm

theorem map_reorder {α β : Type} (f : α → β) (l : List α) (σ : Equiv.Perm (Fin l.length)) :
    (reorder l σ).map f = List.ofFn ((f ∘ l.get) ∘ σ) :=
  List.map_ofFn

theorem keptBy_perm (sink : Sink) {requests requests' : List Http.Request}
    (h : requests.Perm requests') : (keptBy sink requests).Perm (keptBy sink requests') := by
  rw [keptBy_eq_flatMap, keptBy_eq_flatMap]
  exact h.flatMap_right _

/-- Each request has an outcome of its own. -/
structure IsIndependent (requests : List Http.Request) : Prop where
  /-- It is what comes of the request alone, in the run, and in the run in any other order. -/
  outcomes : ∀ sink, ∃ outcome : Fin requests.length → Outcome,
    (∀ i, ComesOf sink [requests.get i] [outcome i]) ∧
      ComesOf sink requests (List.ofFn outcome) ∧
      ∀ σ, ComesOf sink (reorder requests σ) (List.ofFn (outcome ∘ σ))
  /-- The same packets are kept in every order. -/
  kept : ∀ sink σ, (keptBy sink (reorder requests σ)).Perm (keptBy sink requests)
  /-- A packet that is uploaded many times is acknowledged and kept as many times. -/
  repeated : ∀ p, (∀ r ∈ requests, Uploads r p) →
    keptBy .recording requests = List.replicate requests.length p ∧
      ∃ response : Http.Response, response.status.code = 200 ∧
        ∀ sink, (run sink [] requests).map (fun moment => moment.1.response) =
          List.replicate requests.length response
  /-- The responses are the same with both sinks. -/
  sinks : ∀ kept kept',
    (run .discarding kept requests).map (fun moment => moment.1.response) =
      (run .recording kept' requests).map fun moment => moment.1.response

theorem exists_outcomes (sink : Sink) (requests : List Http.Request) :
    ∃ outcome : Fin requests.length → Outcome,
      (∀ i, ComesOf sink [requests.get i] [outcome i]) ∧
        ComesOf sink requests (List.ofFn outcome) ∧
        ∀ σ, ComesOf sink (reorder requests σ) (List.ofFn (outcome ∘ σ)) := by
  refine ⟨answer sink ∘ requests.get, fun i => comesOf_map sink [requests.get i], ?_, ?_⟩
  · rw [← List.map_ofFn, List.ofFn_get]
    exact comesOf_map sink requests
  · intro σ
    rw [← map_reorder]
    exact comesOf_map sink (reorder requests σ)

theorem response_of_uploads {r : Http.Request} {p : Packet} (h : Uploads r p) (sink : Sink) :
    (answer sink r).response = (acknowledge p).withLength := by
  have hreceive : receive r.body = .ok p := receive_eq_ok_iff.mpr h.2
  rw [answer_of_isUpload h.1, ingest, hreceive]

/-- Whatever is asked for, each request is answered as if there were no other. -/
theorem isIndependent (requests : List Http.Request) : IsIndependent requests where
  outcomes sink := exists_outcomes sink requests
  kept sink σ := keptBy_perm sink (reorder_perm requests σ)
  repeated := by
    intro p hp
    have hkept : keptBy .recording requests = List.replicate requests.length p := by
      rw [keptBy_recording,
        List.filterMap_congr fun r hr => uploaded?_eq_some_iff.mpr (hp r hr),
        List.filterMap_eq_map', List.map_const']
    refine ⟨hkept, (acknowledge p).withLength, rfl, fun sink => ?_⟩
    rw [responses_run, List.eq_replicate_iff, List.length_map, List.forall_mem_map]
    exact ⟨rfl, fun r hr => response_of_uploads (hp r hr) sink⟩
  sinks kept kept' := by
    rw [responses_run, responses_run]
    exact List.map_congr_left fun r _ => response_answer .discarding .recording r

end InvoiceGateway.Gateway
