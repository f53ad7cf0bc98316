import InvoiceGateway.Client
import InvoiceGateway.Proofs.Client.Base
import InvoiceGateway.Proofs.Http.Bodies

/-! # What a push makes of a reply -/

namespace InvoiceGateway.Client

open Http

/-! ## Kinds of status -/

theorem isBodiless_eq_false {status : Status} (h : status.code = 200 ∨ 400 ≤ status.code) :
    status.isBodiless = false := by
  simp only [Status.isBodiless, Bool.or_eq_false_iff, decide_eq_false_iff_not]
  omega

theorem isSuccess_iff {status : Status} :
    status.isSuccess = true ↔ 200 ≤ status.code ∧ status.code < 300 := by
  simp [Status.isSuccess]

theorem isClientError_iff {status : Status} :
    status.isClientError = true ↔ 400 ≤ status.code ∧ status.code < 500 := by
  simp [Status.isClientError]

theorem interpret_clientError {status : Status} (h : status.isClientError = true)
    (body : Arrival) : interpret status body = .error (.rejected (reason status body)) := by
  have hsuccess : ¬status.isSuccess = true := by
    rw [isSuccess_iff]
    have := isClientError_iff.mp h
    omega
  rw [interpret, if_neg hsuccess, if_pos h]

theorem interpret_other {status : Status} (hsuccess : ¬status.isSuccess = true)
    (hclient : ¬status.isClientError = true) (body : Arrival) :
    interpret status body =
      .error (.exchangeFailed (status.text ++ ": " ++ reason status body)) := by
  rw [interpret, if_neg hsuccess, if_neg hclient]

/-! ## Errors -/

theorem push_answering {c : Client} {a : Url.Address} (hreach : c.address = .ok a) (p : Packet)
    (ending : Ending) (stream : Bytes) :
    (push (.answering ending stream) c p).result = conclude a (.sent (.read ending stream)) := by
  rw [push, hreach]
  rfl

/-- A client of a port of this machine. -/
def localClient : Client :=
  ⟨"http://127.0.0.1:8080/api/v1/ingest", defaultTimeout⟩

theorem address_localClient :
    localClient.address = .ok (Url.loopback 8080 Gateway.ingestPath) := by
  have hparse : Url.Address.parse? localClient.ingestUrl =
      some (Url.loopback 8080 Gateway.ingestPath) := by
    decide +kernel
  have hreach : isReachable (Url.loopback 8080 Gateway.ingestPath) = true := by
    decide +kernel
  have hhost : (Url.loopback 8080 Gateway.ingestPath).host?.isSome = true := rfl
  simp only [address, hparse, hhost, if_true]
  rw [withoutCredentials_loopback, if_pos hreach]

/-! ## A route that is missing -/

def missingLine : Bytes :=
  Bytes.ofString "HTTP/1.1 404 Not Found"

/-- A head of some header lines that say nothing and one that states a length of twenty-five. -/
def missingHead (others : Nat) : Bytes :=
  missingLine ++ [13, 10] ++
    (endedLines (List.replicate others (Bytes.ofString "a: b") ++
      [Bytes.ofString "content-length: 25"]) ++ [13, 10])

def missingFields (others : Nat) : List (Bytes × Bytes) :=
  List.replicate others (Bytes.ofString "a", Bytes.ofString "b") ++
    [(Bytes.ofString "content-length", Bytes.ofString "25")]

/-- An error report of twenty-five bytes. -/
def missingReport : Bytes :=
  Bytes.ofString "\x7b\"error\":\"no such route\"\x7d"

theorem headText_missingHead (others : Nat) :
    HeadText (missingHead others) ⟨false, ⟨404⟩⟩ (missingFields others) := by
  have hfirst : StatusLineText missingLine ⟨false, ⟨404⟩⟩ :=
    @StatusLineText.mk false 52 48 52 (Bytes.ofString " Not Found") rfl rfl rfl (by decide +kernel)
      (.inr ⟨_, rfl⟩) (by decide +kernel)
  have hother : FieldText (Bytes.ofString "a: b") (Bytes.ofString "a", Bytes.ofString "b") :=
    @FieldText.mk (Bytes.ofString "a") (Bytes.ofString " b") (by decide +kernel)
      (by decide +kernel) (by decide +kernel)
  have hlength : FieldText (Bytes.ofString "content-length: 25")
      (Bytes.ofString "content-length", Bytes.ofString "25") :=
    @FieldText.mk (Bytes.ofString "content-length") (Bytes.ofString " 25") (by decide +kernel)
      (by decide +kernel) (by decide +kernel)
  have hothers : List.Forall₂ FieldText (List.replicate others (Bytes.ofString "a: b"))
      (List.replicate others (Bytes.ofString "a", Bytes.ofString "b")) := by
    induction others with
    | zero => exact .nil
    | succ others ih => exact .cons hother ih
  exact headText_endedLines hfirst (List.rel_append hothers (.cons hlength .nil))

theorem headerValues_missingFields {name : String} (h : Bytes.ofString "a" ≠ Bytes.ofString name)
    (others : Nat) :
    headerValues name (missingFields others) =
      headerValues name [(Bytes.ofString "content-length", Bytes.ofString "25")] := by
  simp [headerValues, missingFields, List.filter_append, h]

theorem isWithinLimits_missingHead : IsWithinLimits (missingHead 0) (missingFields 0) :=
  ⟨by decide, by decide +kernel, by decide +kernel⟩

end InvoiceGateway.Client
