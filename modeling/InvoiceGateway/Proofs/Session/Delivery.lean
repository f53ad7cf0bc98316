import InvoiceGateway.Proofs.Client.Base
import InvoiceGateway.Proofs.Exchange

/-! # Sessions deliver what they should -/

namespace InvoiceGateway.Session

open Url

/-! ## Steps of a session -/

/-- The address of the gateway at a port. -/
def gatewayName (port : UInt16) : String :=
  "127.0.0.1:" ++ toString port.toNat

theorem gatewayName_eq_ofList (port : UInt16) :
    gatewayName port = String.ofList (loopbackName port) := by
  unfold gatewayName loopbackName
  rw [String.ofList_append]
  refine congrArg₂ (· ++ ·) ?_ ?_
  · exact String.ofList_toList.symm
  · exact Nat.toString_eq_ofList_toDigits

theorem ofList_gatewayBase (port : UInt16) (cs : List Char) :
    String.ofList ("http://".toList ++ loopbackName port ++ cs) =
      "http://" ++ gatewayName port ++ String.ofList cs := by
  rw [gatewayName_eq_ofList, String.ofList_append, String.ofList_append]
  exact congrArg (· ++ String.ofList (loopbackName port) ++ String.ofList cs) String.ofList_toList

/-- Nothing or only slashes stand behind the address of the gateway. -/
def Step.Reaches (s : Step) : Prop :=
  ∀ c ∈ s.suffix.toList, c = '/'

/-- A slash stands behind the address of the gateway, and then ordinary characters of which not all
are slashes. -/
def Step.Misses (s : Step) : Prop :=
  ∃ rest, s.suffix.toList = '/' :: rest ∧ (∀ c ∈ rest, IsOrdinary c) ∧ ∃ c ∈ rest, c ≠ '/'

/-- Where the request of a step is sent. -/
def Step.address (port : UInt16) (s : Step) : Url.Address :=
  loopback port
    (String.ofList (encode pathSet (Client.trimSlashes s.suffix.toList)) ++ Gateway.ingestPath)

/-- The packet that is pushed, if it is not in an invoice that is too short. -/
def Item.decoded : Item → Except Invoice.TooShort Packet
  | .packet p => .ok p
  | .invoice body => Invoice.decode body

/-- A base address with inert characters behind the gateway's leads to the gateway's port, unless
the whole address is too long to be sent to. -/
theorem exists_ofBase_name (port : UInt16) (timeout : Nat) {suffix : String}
    (hslash : ∀ c, suffix.toList.head? = some c → c = '/')
    (hinert : ∀ c ∈ suffix.toList, IsInert c)
    {a : Url.Address}
    (ha : a = loopback port
      (String.ofList (encode pathSet (Client.trimSlashes suffix.toList)) ++ Gateway.ingestPath)) :
    ∃ c, Client.ofBase ("http://" ++ gatewayName port ++ suffix) timeout = .ok c ∧
      c.ingestUrl = "http://" ++ gatewayName port ++
        (String.ofList (Client.trimSlashes suffix.toList) ++ Gateway.ingestPath) ∧
      c.address =
        if a.text.utf8ByteSize ≤ 65534 then .ok a else .error (.unsupported a) := by
  obtain ⟨c, hc, hurl, hparse⟩ := Client.exists_ofBase port timeout hslash hinert
  rw [ofList_gatewayBase, String.ofList_toList] at hc
  rw [ofList_gatewayBase, String.append_assoc] at hurl
  refine ⟨c, hc, hurl, ?_⟩
  rw [← ha] at hparse
  exact Client.address_of_parse? hparse (by rw [ha]; rfl) (by rw [ha]; rfl)

theorem exists_client (port : UInt16) (timeout : Nat) {s : Step} (hs : s.Reaches ∨ s.Misses) :
    ∃ c, Client.ofBase ("http://" ++ gatewayName port ++ s.suffix) timeout = .ok c ∧
      c.address =
        if (s.address port).text.utf8ByteSize ≤ 65534 then .ok (s.address port)
        else .error (.unsupported (s.address port)) := by
  have hsuffix : (∀ c, s.suffix.toList.head? = some c → c = '/') ∧
      ∀ c ∈ s.suffix.toList, IsInert c := by
    rcases hs with hreaches | ⟨rest, hrest, hordinary, -⟩
    · refine ⟨fun c hc => hreaches c (List.mem_of_head? hc), fun c hc => ?_⟩
      rw [hreaches c hc]
      decide
    · rw [hrest]
      refine ⟨fun c hc => (Option.some.inj hc).symm, fun c hc => ?_⟩
      rcases List.mem_cons.mp hc with rfl | hc
      · decide
      · exact (hordinary c hc).isInert
  obtain ⟨c, hc, -, haddress⟩ := exists_ofBase_name port timeout hsuffix.1 hsuffix.2 rfl
  exact ⟨c, hc, haddress⟩

/-! ## Where requests arrive -/

/-- Only slashes are trimmed away, so requests go to the path for uploads itself. -/
theorem Step.Reaches.path {s : Step} (h : s.Reaches) (port : UInt16) :
    (s.address port).path = Gateway.ingestPath := by
  have htrim : Client.trimSlashes s.suffix.toList = [] := Client.trimSlashes_eq_nil_iff.mpr h
  rw [Step.address, htrim]
  exact String.empty_append

theorem path_of_ofBase (port : UInt16) {suffix : String} (hsuffix : ∀ c ∈ suffix.toList, c = '/')
    {timeout : Nat} {c : Client}
    (hc : Client.ofBase ("http://" ++ gatewayName port ++ suffix) timeout = .ok c)
    {a : Url.Address} (ha : c.address = .ok a) : a.path = Gateway.ingestPath := by
  let s : Step := ⟨.invoice [], suffix⟩
  have hs : s.Reaches := hsuffix
  obtain ⟨d, hd, haddress⟩ := exists_client port timeout (Or.inl hs)
  have hcd : c = d := Except.ok.inj (hc.symm.trans hd)
  rw [← hcd, ha] at haddress
  split at haddress
  · injection haddress with haddress
    rw [haddress]
    exact hs.path port
  · contradiction

/-- What is left of the other characters makes the path longer than any that the gateway knows. -/
theorem Step.Misses.route {s : Step} (h : s.Misses) (port : UInt16) (method : String) :
    Gateway.Route.of method (s.address port).path = .unknown := by
  obtain ⟨rest, hrest, -, c, hc, hne⟩ := h
  have htrim : 0 < (Client.trimSlashes s.suffix.toList).length := by
    refine List.length_pos_iff.mpr fun hnil => ?_
    exact hne (Client.trimSlashes_eq_nil_iff.mp hnil c (hrest ▸ List.mem_cons_of_mem _ hc))
  have hlength : Gateway.ingestPath.length < (s.address port).path.length := by
    have hencoded := length_le_length_encode pathSet (Client.trimSlashes s.suffix.toList)
    change _ < (String.ofList (encode pathSet (Client.trimSlashes s.suffix.toList)) ++
      Gateway.ingestPath).length
    rw [String.length_append, String.length_ofList]
    omega
  have hingest : (s.address port).path ≠ Gateway.ingestPath := by
    intro heq
    rw [heq] at hlength
    exact Nat.lt_irrefl _ hlength
  have hhealth : (s.address port).path ≠ Gateway.healthPath := by
    intro heq
    rw [heq] at hlength
    exact absurd hlength (by decide)
  rw [Gateway.Route.of, if_neg hingest, if_neg hhealth]

theorem Step.Misses.answer {s : Step} (h : s.Misses) (port : UInt16) (p : Packet) :
    Gateway.answer .recording (received (Client.request (s.address port) p)) =
      Gateway.quiet (Http.Response.empty .notFound []).withLength := by
  have hroute : Gateway.Route.of (received (Client.request (s.address port) p)).method
      (received (Client.request (s.address port) p)).path = .unknown :=
    h.route port "POST"
  rw [Gateway.answer, hroute]

/-! ## Pushes -/

theorem push_of_decoded {item : Item} {p : Packet} (h : item.decoded = .ok p) (network : Network)
    (c : Client) : item.push network c = c.push network p := by
  cases item with
  | packet q =>
      injection h with h
      rw [h]
      rfl
  | invoice body =>
      have hdecode : Invoice.decode body = .ok p := h
      simp only [Item.push, Client.pushInvoice, hdecode]

theorem push_of_tooShort {item : Item} {e : Invoice.TooShort} (h : item.decoded = .error e)
    (network : Network) (c : Client) :
    item.push network c = ⟨.error (.invalidInvoice e), [], []⟩ := by
  cases item with
  | packet q => contradiction
  | invoice body =>
      have hdecode : Invoice.decode body = .error e := h
      simp only [Item.push, Client.pushInvoice, hdecode]

theorem conclude_notFound (a : Url.Address) :
    Client.conclude a (.sent (reply (Http.Response.empty .notFound []).withLength)) =
      .error (.rejected "404 Not Found") := by
  have hreason : Client.reason .notFound (.complete (Bytes.ofString "")) = "404 Not Found" := by
    decide +kernel
  change Client.interpret .notFound (.complete (Bytes.ofString "")) = _
  rw [← hreason]
  rfl

/-- The answer of the gateway to the request of a step comes back whole. -/
theorem push_up {c : Client} {a : Url.Address} (hc : c.address = .ok a) (p : Packet) :
    (c.push (Link.up.network .recording) p).result =
        Client.conclude a
          (.sent (reply (Gateway.answer .recording (received (Client.request a p))).response)) ∧
      (c.push (Link.up.network .recording) p).sent = [Client.request a p] := by
  unfold Client.push
  rw [hc]
  exact ⟨rfl, rfl⟩

theorem push_unsupported {c : Client} {a : Url.Address} (hc : c.address = .error (.unsupported a))
    (network : Network) (p : Packet) :
    (c.push network p).result =
        .error (.exchangeFailed ("builder error for url (" ++ a.text ++ ")")) ∧
      (c.push network p).sent = [] := by
  unfold Client.push
  rw [hc]
  exact ⟨rfl, rfl⟩

/-! ## What each step comes to -/

/-- What a step has to come to, given what was kept before it. -/
structure Outcome.Meets (port : UInt16) (kept : List Packet) (s : Step) (o : Outcome) : Prop where
  delivered : s.Reaches → ∀ p, s.item.decoded = .ok p →
    o.result = .ok (Ack.accepted p.satId) ∧ o.kept = kept ++ [p]
  tooShort : ∀ body, s.item = .invoice body → body.length < 62 →
    o.result = .error (.invalidInvoice ⟨62, body.length⟩) ∧ o.kept = kept
  missed : s.Misses → ∀ p, s.item.decoded = .ok p →
    (s.address port).text.utf8ByteSize ≤ 65534 →
    o.result = .error (.rejected "404 Not Found") ∧ o.kept = kept
  unsent : s.Misses → ∀ p, s.item.decoded = .ok p →
    65534 < (s.address port).text.utf8ByteSize →
    o.result =
        .error (.exchangeFailed ("builder error for url (" ++ (s.address port).text ++ ")")) ∧
      o.kept = kept

theorem step_of_ofBase {port : UInt16} {s : Step} {c : Client} (sink : Gateway.Sink)
    (kept : List Packet)
    (hc : Client.ofBase ("http://" ++ gatewayName port ++ s.suffix) Client.defaultTimeout = .ok c) :
    (step .up sink (gatewayName port) kept s).result =
        (s.item.push (Link.up.network sink) c).result ∧
      (step .up sink (gatewayName port) kept s).kept = kept ++
        ((s.item.push (Link.up.network sink) c).sent.map fun o =>
          Gateway.answer sink (received o)).flatMap Gateway.Outcome.packets := by
  unfold step
  rw [hc]
  exact ⟨rfl, rfl⟩

theorem Step.Reaches.size_le {s : Step} (h : s.Reaches) (port : UInt16) :
    (s.address port).text.utf8ByteSize ≤ 65534 := by
  have hsize := utf8ByteSize_text_loopback_le port (s.address port).path
  have hingest : Gateway.ingestPath.utf8ByteSize = 14 := by decide
  rw [h.path port, hingest] at hsize
  have htext : (s.address port).text = (loopback port Gateway.ingestPath).text := by
    rw [← h.path port]
    rfl
  rw [htext]
  exact Nat.le_trans hsize (by decide)

theorem meets_step (port : UInt16) (kept : List Packet) {s : Step} (hs : s.Reaches ∨ s.Misses) :
    (step .up .recording (gatewayName port) kept s).Meets port kept s := by
  obtain ⟨c, hbase, haddress⟩ := exists_client port Client.defaultTimeout hs
  obtain ⟨hresult, hkept⟩ := step_of_ofBase .recording kept hbase
  constructor
  · intro hreaches p hp
    rw [if_pos (hreaches.size_le port)] at haddress
    obtain ⟨hpush, hsent⟩ := push_up haddress p
    rw [push_of_decoded hp] at hresult hkept
    rw [hresult, hkept, hpush, hsent, answer_received (hreaches.path port),
      conclude_acknowledge]
    refine ⟨rfl, ?_⟩
    rw [List.map_singleton, answer_received (hreaches.path port)]
    rfl
  · intro body hitem hshort
    have hdecoded : s.item.decoded = .error ⟨62, body.length⟩ := by
      rw [hitem]
      exact if_pos hshort
    rw [push_of_tooShort hdecoded] at hresult hkept
    exact ⟨hresult, hkept.trans (List.append_nil kept)⟩
  · intro hmisses p hp hsize
    rw [if_pos hsize] at haddress
    obtain ⟨hpush, hsent⟩ := push_up haddress p
    rw [push_of_decoded hp] at hresult hkept
    rw [hresult, hkept, hpush, hsent, List.map_singleton, hmisses.answer port p]
    exact ⟨conclude_notFound _, List.append_nil kept⟩
  · intro hmisses p hp hsize
    rw [if_neg (Nat.not_le_of_lt hsize)] at haddress
    obtain ⟨hpush, hsent⟩ := push_unsupported haddress (Link.up.network .recording) p
    rw [push_of_decoded hp] at hresult hkept
    rw [hresult, hkept, hpush, hsent]
    exact ⟨rfl, List.append_nil kept⟩

/-! ## Runs -/

instance (s : Step) : Decidable s.Reaches :=
  decidable_of_iff (s.suffix.toList.all (fun c => decide (c = '/')) = true) (by
    simp [Step.Reaches])

/-- The packet that a step delivers, if it does. -/
def Step.delivered? (s : Step) : Option Packet :=
  if s.Reaches then s.item.decoded.toOption else none

theorem exists_short_of_decoded {item : Item} {e : Invoice.TooShort} (h : item.decoded = .error e) :
    ∃ body, item = .invoice body ∧ body.length < 62 := by
  cases item with
  | packet p => contradiction
  | invoice body =>
      refine ⟨body, rfl, Nat.lt_of_not_le fun hle => ?_⟩
      have hdecode : Invoice.decode body = .ok _ := if_neg (Nat.not_lt_of_le hle)
      exact absurd (h.symm.trans hdecode) (by simp)

theorem Outcome.Meets.kept_eq {port : UInt16} {kept : List Packet} {s : Step} {o : Outcome}
    (h : o.Meets port kept s) (hs : s.Reaches ∨ s.Misses) :
    o.kept = kept ++ s.delivered?.toList := by
  cases hdecoded : s.item.decoded with
  | error e =>
      obtain ⟨body, hitem, hshort⟩ := exists_short_of_decoded hdecoded
      have hnone : s.delivered? = none := by simp [Step.delivered?, hdecoded, Except.toOption]
      rw [hnone, (h.tooShort body hitem hshort).2]
      exact (List.append_nil kept).symm
  | ok p =>
      by_cases hreaches : s.Reaches
      · have hsome : s.delivered? = some p := by
          simp [Step.delivered?, hreaches, hdecoded, Except.toOption]
        rw [hsome, (h.delivered hreaches p hdecoded).2]
        rfl
      · have hmisses : s.Misses := hs.resolve_left hreaches
        have hnone : s.delivered? = none := if_neg hreaches
        rw [hnone]
        refine Eq.trans ?_ (List.append_nil kept).symm
        rcases Nat.lt_or_ge 65534 (s.address port).text.utf8ByteSize with hlong | hfits
        · exact (h.unsent hmisses p hdecoded hlong).2
        · exact (h.missed hmisses p hdecoded hfits).2

theorem length_run (link : Link) (sink : Gateway.Sink) (address : String) (kept : List Packet)
    (steps : List Step) : (run link sink address kept steps).length = steps.length := by
  induction steps generalizing kept with
  | nil => rfl
  | cons s rest ih => simp [run, ih]

/-- Before each step, a run has kept what was kept at its beginning and what was delivered since. -/
theorem run_up_get (port : UInt16) (kept : List Packet) {steps : List Step}
    (hsteps : ∀ s ∈ steps, s.Reaches ∨ s.Misses) {i : Nat} {s : Step} (hs : steps[i]? = some s) :
    (run .up .recording (gatewayName port) kept steps)[i]? =
      some (step .up .recording (gatewayName port)
        (kept ++ (steps.take i).filterMap Step.delivered?) s) := by
  induction steps generalizing kept i with
  | nil => contradiction
  | cons first rest ih =>
      cases i with
      | zero =>
          injection hs with hs
          subst hs
          simp [run]
      | succ i =>
          have hfirst : first.Reaches ∨ first.Misses := hsteps first List.mem_cons_self
          have hkept := (meets_step port kept hfirst).kept_eq hfirst
          have hrest : ∀ s ∈ rest, s.Reaches ∨ s.Misses :=
            fun s hmem => hsteps s (List.mem_cons_of_mem first hmem)
          simp only [run, List.getElem?_cons_succ]
          rw [ih _ hrest hs, hkept, List.append_assoc]
          cases hdelivered : first.delivered? <;> simp [hdelivered]

/-- What is kept at the end of a session with a recording gateway at a port. -/
def keptBy (port : UInt16) (steps : List Step) : List Packet :=
  ((run .up .recording (gatewayName port) [] steps).getLast?.map Outcome.kept).getD []

theorem keptBy_eq_filterMap (port : UInt16) {steps : List Step}
    (hsteps : ∀ s ∈ steps, s.Reaches ∨ s.Misses) :
    keptBy port steps = steps.filterMap Step.delivered? := by
  rcases List.eq_nil_or_concat' steps with rfl | ⟨front, last, rfl⟩
  · rfl
  · have hlast : last.Reaches ∨ last.Misses := hsteps last (by simp)
    have hget : (front ++ [last])[front.length]? = some last := by simp
    have hrun := run_up_get port [] hsteps hget
    have hkept := (meets_step port (front.filterMap Step.delivered?) hlast).kept_eq hlast
    rw [List.take_left, List.nil_append] at hrun
    rw [keptBy, List.getLast?_eq_getElem?, length_run, List.length_append, List.length_singleton,
      Nat.add_sub_cancel, hrun, Option.map_some, Option.getD_some, hkept, List.filterMap_append]
    cases hdelivered : last.delivered? <;> simp [hdelivered]

/-- In every session with base addresses of the two kinds, every step comes to what it has to, and
at the end exactly the packets of the delivering steps are kept, in their order. -/
theorem run_meets (port : UInt16) {steps : List Step}
    (hsteps : ∀ s ∈ steps, s.Reaches ∨ s.Misses) :
    keptBy port steps = steps.filterMap Step.delivered? ∧
      (run .up .recording (gatewayName port) [] steps).length = steps.length ∧
      ∀ i : Fin steps.length, ∃ outcome,
        (run .up .recording (gatewayName port) [] steps)[i]? = some outcome ∧
          outcome.Meets port ((steps.take i).filterMap Step.delivered?) steps[i] := by
  refine ⟨keptBy_eq_filterMap port hsteps, length_run _ _ _ _ _, fun i => ?_⟩
  have hget : steps[i.val]? = some steps[i] := List.getElem?_eq_getElem i.isLt
  have hi : steps[i].Reaches ∨ steps[i].Misses := hsteps steps[i] (List.getElem_mem i.isLt)
  exact ⟨_, run_up_get port [] hsteps hget, meets_step port _ hi⟩

/-- A packet and an invoice that arrive, a packet that goes astray, and an invoice that is too
short. -/
def fourSteps : List Step :=
  [⟨.packet ⟨1, 2, 3, 4⟩, ""⟩, ⟨.packet ⟨5, 6, 7, 8⟩, "/nowhere/"⟩,
    ⟨.invoice (Invoice.encode ⟨9, 10, 11, 12⟩ (List.replicate 36 0) (List.replicate 4 0)), "//"⟩,
    ⟨.invoice [1, 2, 3], "/nowhere"⟩]

theorem run_meets_fourSteps :
    (∀ s ∈ fourSteps, s.Reaches ∨ s.Misses) ∧
      keptBy 8080 fourSteps = [⟨1, 2, 3, 4⟩, ⟨9, 10, 11, 12⟩] := by
  have hsteps : ∀ s ∈ fourSteps, s.Reaches ∨ s.Misses := by
    intro s hs
    simp only [fourSteps, List.mem_cons, List.not_mem_nil, or_false] at hs
    rcases hs with rfl | rfl | rfl | rfl
    · exact .inl (by decide)
    · exact .inr ⟨"nowhere/".toList, rfl, isOrdinary_of_all (by decide), 'n', by decide, by decide⟩
    · exact .inl (by decide)
    · exact .inr ⟨"nowhere".toList, rfl, isOrdinary_of_all (by decide), 'n', by decide, by decide⟩
  exact ⟨hsteps, (run_meets 8080 hsteps).1.trans (by decide)⟩

/-! ## Addresses that are too long -/

/-- A path of more than 65533 letters behind the gateway's address. -/
theorem result_of_long_suffix (port : UInt16) (kept : List Packet) (p : Packet) {n : Nat}
    (hn : 65534 ≤ n) {s : Step}
    (hs : s = ⟨.packet p, String.ofList ('/' :: List.replicate n 'a')⟩) :
    s.Misses ∧ (step .up .recording (gatewayName port) kept s).result =
      .error (.exchangeFailed ("builder error for url (" ++ (s.address port).text ++ ")")) := by
  have hsuffix : s.suffix.toList = '/' :: List.replicate n 'a' := by
    rw [hs]
    exact String.toList_ofList
  have hmisses : s.Misses := by
    refine ⟨List.replicate n 'a', hsuffix, fun c hc => ?_, 'a',
      List.mem_replicate.mpr ⟨by omega, rfl⟩, by decide⟩
    rw [List.eq_of_mem_replicate hc]
    decide
  have hsize : 65534 < (s.address port).text.utf8ByteSize := by
    have hle : (Client.trimSlashes s.suffix.toList).length ≤
        (s.address port).text.utf8ByteSize :=
      Nat.le_trans (length_le_length_encode pathSet _) (length_le_text_loopback port _ _)
    rw [hsuffix, Client.trimSlashes_replicate (by omega), List.length_cons,
      List.length_replicate] at hle
    omega
  have hdecoded : s.item.decoded = .ok p := by rw [hs]; rfl
  exact ⟨hmisses, ((meets_step port kept (.inr hmisses)).unsent hmisses p hdecoded hsize).1⟩

/-- The gateway does not reject a packet whose path is that long: no request is ever sent. -/
theorem not_rejected_of_long_suffix :
    ∃ s : Step, s = ⟨.packet ⟨1, 2, 3, 4⟩, String.ofList ('/' :: List.replicate 70000 'a')⟩ ∧
      s.Misses ∧ ∃ outcome, run .up .recording (gatewayName 8080) [] [s] = [outcome] ∧
        outcome.result ≠ .error (.rejected "404 Not Found") := by
  have hne : ∀ detail reason : String,
      (Except.error (.exchangeFailed detail) : Except GatewayError Ack) ≠
        .error (.rejected reason) := by
    intro detail reason h
    injection h with h
    contradiction
  obtain ⟨hmisses, hresult⟩ :=
    result_of_long_suffix 8080 [] ⟨1, 2, 3, 4⟩ (n := 70000) (by decide) rfl
  exact ⟨_, rfl, hmisses, _, rfl, fun h => hne _ _ (hresult.symm.trans h)⟩

end InvoiceGateway.Session
