import InvoiceGateway.Proofs.Session.Delivery
import InvoiceGateway.Session.Concurrent

/-! # Concurrent pushes lose and repeat nothing -/

namespace InvoiceGateway.Session

/-! ## The steps of the gateway -/

/-- Without a pause between them, the steps for an upload that holds a packet are its answer. -/
theorem answer_of_checked {r : Http.Request} {p : Packet} (h : Stage.afterCheck r = .checked p) :
    Gateway.answer .recording r =
      { response := (Gateway.acknowledge p).withLength
        packets := [p]
        events := [.accepted p.satId] } := by
  unfold Stage.afterCheck at h
  split at h
  · next hroute =>
      split at h
      · next q hreceive =>
          injection h with h
          subst h
          rw [Gateway.answer_of_isUpload (Gateway.route_eq_ingest_iff.mp hroute), Gateway.ingest,
            hreceive]
          rfl
      · contradiction
  · contradiction

/-- Any other request is answered at the first step, and nothing is kept of it. -/
theorem answer_of_replied {r : Http.Request} {response : Http.Response}
    (h : Stage.afterCheck r = .replied response) :
    (Gateway.answer .recording r).response = response ∧
      (Gateway.answer .recording r).packets = [] := by
  unfold Stage.afterCheck at h
  split at h
  · next hroute =>
      split at h
      · contradiction
      · next e hreceive =>
          injection h with h
          subst h
          rw [Gateway.answer_of_isUpload (Gateway.route_eq_ingest_iff.mp hroute), Gateway.ingest,
            hreceive]
          exact ⟨rfl, rfl⟩
  · next hroute =>
      injection h with h
      exact ⟨h, (Gateway.answer_of_not_isUpload .recording fun hupload =>
        hroute (Gateway.route_eq_ingest_iff.mpr hupload)).1⟩

/-! ## The invariant -/

/-- The number of the push that an action hands over, if it does. -/
def Action.handedOver? : Action → Option Nat
  | .handOver i => some i
  | _ => none

/-- The numbers of the pushes that actions hand over, in the order of these actions. -/
def handOvers (actions : List Action) : List Nat :=
  actions.filterMap Action.handedOver?

/-- Which stages the push of a packet may be in before it was handed over, and which ones after. -/
def Stage.Fits (p : Packet) (isHandedOver : Prop) : Stage → Prop
  | .inFlight => ¬isHandedOver
  | .lost => ¬isHandedOver
  | .checked q => q = p ∧ ¬isHandedOver
  | .handedOver q => q = p ∧ isHandedOver
  | .replied response => response = (Gateway.acknowledge p).withLength ∧ isHandedOver

/-- A push went to the right path, is in a stage it may be in, and its client was told nothing else
than the truth. -/
structure Attempt.Fits (isHandedOver : Prop) (t : Attempt) : Prop where
  path : t.address.path = Gateway.ingestPath
  stage : t.stage.Fits t.packet isHandedOver
  result : ∀ r, t.result = some r →
    (r = .ok (Ack.accepted t.packet.satId) ∧ isHandedOver) ∨
      ∃ detail, r = .error (.exchangeFailed detail)

/-- The packets of the pushes handed over are kept, once each and in their order. -/
structure World.Conserves (order : List Nat) (w : World) : Prop where
  nodup : order.Nodup
  kept : order.map (fun i => w.attempts[i]?.map Attempt.packet) = w.kept.map some
  fits : ∀ (i : Nat) (t : Attempt), w.attempts[i]? = some t → t.Fits (i ∈ order)

theorem conserves_initial : World.initial.Conserves [] where
  nodup := List.nodup_nil
  kept := rfl
  fits := by
    intro i t h
    contradiction

theorem Attempt.Fits.congr {t : Attempt} {p q : Prop} (h : t.Fits p) (hpq : p ↔ q) : t.Fits q := by
  rw [← propext hpq]
  exact h

theorem World.Conserves.exists_attempt {order : List Nat} {w : World} (h : w.Conserves order)
    {i : Nat} (hi : i ∈ order) : ∃ t, w.attempts[i]? = some t ∧ t.packet ∈ w.kept := by
  have hmem : w.attempts[i]?.map Attempt.packet ∈ w.kept.map some := by
    rw [← h.kept]
    exact List.mem_map_of_mem hi
  obtain ⟨p, hp, heq⟩ := List.mem_map.mp hmem
  obtain ⟨t, ht, rfl⟩ := Option.map_eq_some_iff.mp heq.symm
  exact ⟨t, ht, hp⟩

theorem World.Conserves.stage_fits {order : List Nat} {w : World} (h : w.Conserves order) {i : Nat}
    {t : Attempt} (ht : w.attempts[i]? = some t) {stage : Stage} (hstage : t.stage = stage) :
    stage.Fits t.packet (i ∈ order) :=
  hstage ▸ (h.fits i t ht).stage

/-! ## Steps -/

theorem packet_set {attempts : List Attempt} {i : Nat} {t t' : Attempt}
    (ht : attempts[i]? = some t) (hpacket : t'.packet = t.packet) (j : Nat) :
    (attempts.set i t')[j]?.map Attempt.packet = attempts[j]?.map Attempt.packet := by
  by_cases hij : i = j
  · subst hij
    have hlt : i < attempts.length := (List.getElem?_eq_some_iff.mp ht).1
    rw [List.getElem?_set_self hlt, ht, Option.map_some, Option.map_some, hpacket]
  · rw [List.getElem?_set_ne hij]

/-- Going on with a push that is not handed over in this step changes nothing for the others. -/
theorem World.Conserves.replace {order : List Nat} {w : World} (h : w.Conserves order) {i : Nat}
    {t t' : Attempt} (ht : w.attempts[i]? = some t) (hpacket : t'.packet = t.packet)
    (ht' : t'.Fits (i ∈ order)) : (w.replace i t').Conserves order where
  nodup := h.nodup
  kept := (List.map_congr_left fun j _ => packet_set ht hpacket j).trans h.kept
  fits := by
    intro j u hu
    by_cases hij : i = j
    · subst hij
      have hlt : i < w.attempts.length := (List.getElem?_eq_some_iff.mp ht).1
      simp only [World.replace, List.getElem?_set_self hlt, Option.some.injEq] at hu
      rw [← hu]
      exact ht'
    · simp only [World.replace, List.getElem?_set_ne hij] at hu
      exact h.fits j u hu

theorem World.Conserves.advance {order : List Nat} {w : World} (h : w.Conserves order) {i : Nat}
    {t : Attempt} (ht : w.attempts[i]? = some t) (stage : Stage)
    (hstage : stage.Fits t.packet (i ∈ order)) :
    (w.replace i { t with stage := stage }).Conserves order := by
  have hfits := h.fits i t ht
  exact h.replace ht rfl ⟨hfits.path, hstage, hfits.result⟩

theorem World.Conserves.conclude {order : List Nat} {w : World} (h : w.Conserves order) {i : Nat}
    {t : Attempt} (ht : w.attempts[i]? = some t) {transfer : Transfer}
    (hresult : (Client.conclude t.address transfer = .ok (Ack.accepted t.packet.satId) ∧
        i ∈ order) ∨
      ∃ detail, Client.conclude t.address transfer = .error (.exchangeFailed detail)) :
    (w.conclude i t transfer).Conserves order := by
  have hfits := h.fits i t ht
  refine h.replace ht rfl ⟨hfits.path, hfits.stage, ?_⟩
  intro r hr
  injection hr with hr
  subst hr
  exact hresult

theorem World.Conserves.start {order : List Nat} {w : World} (h : w.Conserves order)
    {a : Url.Address} (ha : a.path = Gateway.ingestPath) (p : Packet) :
    World.Conserves order { w with attempts := w.attempts ++ [⟨a, p, .inFlight, none⟩] } where
  nodup := h.nodup
  kept := by
    rw [← h.kept]
    refine List.map_congr_left fun j hj => ?_
    obtain ⟨t, ht, -⟩ := h.exists_attempt hj
    rw [List.getElem?_append_left (List.getElem?_eq_some_iff.mp ht).1]
  fits := by
    intro i t ht
    by_cases hi : i < w.attempts.length
    · rw [List.getElem?_append_left hi] at ht
      exact h.fits i t ht
    · rw [List.getElem?_append_right (Nat.le_of_not_lt hi)] at ht
      have ht' : t = ⟨a, p, .inFlight, none⟩ := List.mem_singleton.mp (List.mem_of_getElem? ht)
      have hnew : i ∉ order := by
        intro hmem
        obtain ⟨u, hu, -⟩ := h.exists_attempt hmem
        exact hi (List.getElem?_eq_some_iff.mp hu).1
      subst ht'
      exact ⟨ha, hnew, by simp⟩

theorem World.Conserves.handOver {order : List Nat} {w : World} (h : w.Conserves order) {i : Nat}
    {t : Attempt} (ht : w.attempts[i]? = some t) {p : Packet} (hstage : t.stage = .checked p) :
    World.Conserves (order ++ [i])
      { w.replace i { t with stage := .handedOver p } with kept := w.kept ++ [p] } := by
  have hfits := h.fits i t ht
  obtain ⟨rfl, hnew⟩ := h.stage_fits ht hstage
  constructor
  · rw [List.nodup_append]
    refine ⟨h.nodup, by simp, ?_⟩
    intro j hj k hk
    rw [List.mem_singleton.mp hk]
    rintro rfl
    exact hnew hj
  · have hpacket : ∀ j, (w.attempts.set i { t with stage := .handedOver t.packet })[j]?.map
        Attempt.packet = w.attempts[j]?.map Attempt.packet :=
      packet_set ht rfl
    simp only [World.replace, List.map_append, hpacket, h.kept, List.map_cons, List.map_nil, ht,
      Option.map_some]
  · intro j u hu
    by_cases hij : i = j
    · subst hij
      have hlt : i < w.attempts.length := (List.getElem?_eq_some_iff.mp ht).1
      simp only [World.replace, List.getElem?_set_self hlt, Option.some.injEq] at hu
      rw [← hu]
      refine ⟨hfits.path, ⟨rfl, by simp⟩, ?_⟩
      intro r hr
      rcases hfits.result r hr with ⟨-, hmem⟩ | herror
      · exact absurd hmem hnew
      · exact .inr herror
    · simp only [World.replace, List.getElem?_set_ne hij] at hu
      refine (h.fits j u hu).congr ?_
      simp [Ne.symm hij]

/-- The first step of the gateway finds the packet that was pushed. -/
theorem afterCheck_request {t : Attempt} (h : t.address.path = Gateway.ingestPath) :
    Stage.afterCheck t.request = .checked t.packet := by
  have hroute : Gateway.Route.of t.request.method t.request.path = .ingest :=
    Gateway.route_eq_ingest_iff.mpr ⟨rfl, h⟩
  have hreceive : Gateway.receive t.request.body = .ok t.packet :=
    Gateway.receive_toJson t.packet
  rw [Stage.afterCheck, hroute]
  simp only [hreceive]

/-- A loss, and a reply that breaks off, is told as a failed exchange. -/
theorem conclude_loss (a : Url.Address) (loss : Loss) :
    ∃ detail, Client.conclude a loss.transfer = .error (.exchangeFailed detail) := by
  cases loss with
  | unconnected => exact ⟨_, rfl⟩
  | unconnectedInTime => exact ⟨_, rfl⟩
  | broken => exact ⟨_, rfl⟩
  | late => exact ⟨_, rfl⟩

theorem conclude_part (a : Url.Address) (p : Packet) (isLate : Bool) :
    ∃ detail,
      Client.conclude a (.sent (.headed (Gateway.acknowledge p).withLength.status
        (if isLate then .late else .broken))) = .error (.exchangeFailed detail) := by
  cases isLate with
  | true => exact ⟨_, rfl⟩
  | false => exact ⟨_, rfl⟩

/-! ## Actions -/

section

variable {order : List Nat} {w w' : World} {i : Nat}

theorem World.Conserves.act_start (h : w.Conserves order) {c : Client} {p : Packet}
    (hclient : ∀ a, c.address = .ok a → a.path = Gateway.ingestPath)
    (hact : w.act (.start c p) = some w') : w'.Conserves order := by
  simp only [World.act] at hact
  split at hact
  · next a ha =>
      injection hact with hact
      subst hact
      exact h.start (hclient a ha) p
  · contradiction

theorem World.Conserves.act_lose (h : w.Conserves order) (hact : w.act (.lose i) = some w') :
    w'.Conserves order := by
  obtain ⟨t, ht, hstep⟩ := Option.bind_eq_some_iff.mp hact
  split at hstep
  · next hstage =>
      injection hstep with hstep
      subst hstep
      have hnew : i ∉ order := h.stage_fits ht hstage
      exact h.advance ht .lost hnew
  · contradiction

theorem World.Conserves.act_check (h : w.Conserves order) (hact : w.act (.check i) = some w') :
    w'.Conserves order := by
  obtain ⟨t, ht, hstep⟩ := Option.bind_eq_some_iff.mp hact
  split at hstep
  · next hstage =>
      injection hstep with hstep
      subst hstep
      have hnew : i ∉ order := h.stage_fits ht hstage
      rw [afterCheck_request (h.fits i t ht).path]
      exact h.advance ht (.checked t.packet) ⟨rfl, hnew⟩
  · contradiction

theorem World.Conserves.act_handOver (h : w.Conserves order)
    (hact : w.act (.handOver i) = some w') : w'.Conserves (order ++ [i]) := by
  obtain ⟨t, ht, hstep⟩ := Option.bind_eq_some_iff.mp hact
  split at hstep
  · next p hstage =>
      injection hstep with hstep
      subst hstep
      exact h.handOver ht hstage
  · contradiction

theorem World.Conserves.act_reply (h : w.Conserves order) (hact : w.act (.reply i) = some w') :
    w'.Conserves order := by
  obtain ⟨t, ht, hstep⟩ := Option.bind_eq_some_iff.mp hact
  split at hstep
  · next p hstage =>
      injection hstep with hstep
      subst hstep
      obtain ⟨rfl, hmem⟩ := h.stage_fits ht hstage
      exact h.advance ht (.replied _) ⟨rfl, hmem⟩
  · contradiction

theorem World.Conserves.act_deliver (h : w.Conserves order)
    (hact : w.act (.deliver i) = some w') : w'.Conserves order := by
  obtain ⟨t, ht, hstep⟩ := Option.bind_eq_some_iff.mp hact
  split at hstep
  · next response hstage _ =>
      injection hstep with hstep
      subst hstep
      obtain ⟨rfl, hmem⟩ := h.stage_fits ht hstage
      exact h.conclude ht (.inl ⟨conclude_acknowledge t.address t.packet, hmem⟩)
  · contradiction

theorem World.Conserves.act_deliverPart (h : w.Conserves order) {isLate : Bool}
    (hact : w.act (.deliverPart i isLate) = some w') : w'.Conserves order := by
  obtain ⟨t, ht, hstep⟩ := Option.bind_eq_some_iff.mp hact
  split at hstep
  · next response hstage _ =>
      injection hstep with hstep
      subst hstep
      obtain ⟨rfl, -⟩ := h.stage_fits ht hstage
      exact h.conclude ht (.inr (conclude_part t.address t.packet isLate))
  · contradiction

theorem World.Conserves.act_giveUp (h : w.Conserves order) {loss : Loss}
    (hact : w.act (.giveUp i loss) = some w') : w'.Conserves order := by
  obtain ⟨t, ht, hstep⟩ := Option.bind_eq_some_iff.mp hact
  split at hstep
  · injection hstep with hstep
    subst hstep
    exact h.conclude ht (.inr (conclude_loss t.address loss))
  · contradiction

/-- Every action keeps the invariant; only a hand-over adds to the order. -/
theorem World.Conserves.act (h : w.Conserves order) {action : Action}
    (hclient : ∀ c p a, action = .start c p → c.address = .ok a → a.path = Gateway.ingestPath)
    (hact : w.act action = some w') : w'.Conserves (order ++ action.handedOver?.toList) := by
  cases action with
  | start c p => simpa [Action.handedOver?] using h.act_start (fun a => hclient c p a rfl) hact
  | lose i => simpa [Action.handedOver?] using h.act_lose hact
  | check i => simpa [Action.handedOver?] using h.act_check hact
  | handOver i => exact h.act_handOver hact
  | reply i => simpa [Action.handedOver?] using h.act_reply hact
  | deliver i => simpa [Action.handedOver?] using h.act_deliver hact
  | deliverPart i isLate => simpa [Action.handedOver?] using h.act_deliverPart hact
  | giveUp i loss => simpa [Action.handedOver?] using h.act_giveUp hact

end

/-! ## Runs -/

/-- Every request of these actions goes to the path for uploads. -/
def GoToIngest (actions : List Action) : Prop :=
  ∀ c p a, Action.start c p ∈ actions → c.address = .ok a → a.path = Gateway.ingestPath

/-- Clients with nothing but slashes behind the gateway's address send all their requests there. -/
theorem goToIngest_of_ofBase (port : UInt16) {actions : List Action}
    (h : ∀ c p, Action.start c p ∈ actions → ∃ suffix : String, (∀ d ∈ suffix.toList, d = '/') ∧
      Client.ofBase ("http://" ++ gatewayName port ++ suffix) c.timeout = .ok c) :
    GoToIngest actions := by
  intro c p a hmem ha
  obtain ⟨suffix, hsuffix, hc⟩ := h c p hmem
  exact path_of_ofBase port hsuffix hc ha

theorem World.Conserves.actAll {order : List Nat} {w w' : World} (h : w.Conserves order)
    {actions : List Action} (hclients : GoToIngest actions) (hact : w.actAll actions = some w') :
    w'.Conserves (order ++ handOvers actions) := by
  induction actions generalizing order w with
  | nil =>
      injection hact with hact
      subst hact
      simpa [handOvers] using h
  | cons action rest ih =>
      obtain ⟨v, hv, hrest⟩ := Option.bind_eq_some_iff.mp hact
      have hfirst : v.Conserves (order ++ action.handedOver?.toList) := by
        refine h.act ?_ hv
        rintro c p a rfl
        exact hclients c p a List.mem_cons_self
      have hlater : GoToIngest rest :=
        fun c p a hmem => hclients c p a (List.mem_cons_of_mem _ hmem)
      have hhanded : order ++ handOvers (action :: rest) =
          order ++ action.handedOver?.toList ++ handOvers rest := by
        cases hnumber : action.handedOver? <;> simp [handOvers, hnumber]
      rw [hhanded]
      exact ih hfirst hlater hrest

/-- What the clients and the gateway have of each other's doings after a sequence of actions.  The
kept packets are those of the pushes handed over, once each and in the order of the hand-overs.  A
push that returned an acknowledgement had its packet kept and got the acknowledgement of it; no push
was refused; any other push that returned failed in the exchange, and was handed over at most
once. -/
structure World.Agrees (actions : List Action) (w : World) : Prop where
  once : (handOvers actions).Nodup
  kept : w.kept.map some =
    (handOvers actions).map fun i => w.attempts[i]?.map Attempt.packet
  accepted : ∀ (i : Nat) (t : Attempt) (ack : Ack), w.attempts[i]? = some t →
    t.result = some (.ok ack) →
    i ∈ handOvers actions ∧ t.packet ∈ w.kept ∧ ack = Ack.accepted t.packet.satId
  notRejected : ∀ (i : Nat) (t : Attempt) (reason : String), w.attempts[i]? = some t →
    t.result ≠ some (.error (.rejected reason))
  failed : ∀ (i : Nat) (t : Attempt) (e : GatewayError), w.attempts[i]? = some t →
    t.result = some (.error e) →
    (∃ detail, e = .exchangeFailed detail) ∧ (handOvers actions).count i ≤ 1

/-- In every reachable world, the clients and the gateway agree. -/
theorem agrees_of_actAll {actions : List Action} {w : World} (hclients : GoToIngest actions)
    (hreached : World.initial.actAll actions = some w) : w.Agrees actions := by
  have h : w.Conserves (handOvers actions) := conserves_initial.actAll hclients hreached
  refine ⟨h.nodup, h.kept.symm, ?_, ?_, ?_⟩
  · intro i t ack ht hack
    rcases (h.fits i t ht).result _ hack with ⟨hok, hmem⟩ | ⟨detail, herror⟩
    · injection hok with hok
      obtain ⟨u, hu, hkept⟩ := h.exists_attempt hmem
      rw [ht] at hu
      injection hu with hu
      subst hu
      exact ⟨hmem, hkept, hok⟩
    · contradiction
  · intro i t reason ht hrejected
    rcases (h.fits i t ht).result _ hrejected with ⟨hok, -⟩ | ⟨detail, herror⟩
    · contradiction
    · injection herror with herror
      contradiction
  · intro i t e ht he
    refine ⟨?_, List.nodup_iff_count.mp h.nodup i⟩
    rcases (h.fits i t ht).result _ he with ⟨hok, -⟩ | ⟨detail, herror⟩
    · contradiction
    · injection herror with herror
      exact ⟨detail, herror⟩

/-- Two pushes at once: the second one is handed over first, and the client of the first one gives
up before its reply. -/
def twoPushes : List Action :=
  let c : Client := ⟨"http://127.0.0.1:8080/api/v1/ingest", 5000⟩
  [.start c ⟨1, 2, 3, 4⟩, .start c ⟨5, 6, 7, 8⟩, .check 0, .check 1, .handOver 1, .handOver 0,
    .reply 1, .giveUp 0 .late, .deliver 1, .reply 0]

theorem agrees_of_twoPushes :
    ∃ w, World.initial.actAll twoPushes = some w ∧ w.kept = [⟨5, 6, 7, 8⟩, ⟨1, 2, 3, 4⟩] ∧
      w.Agrees twoPushes := by
  have hbase : Client.ofBase ("http://" ++ gatewayName 8080 ++ "/") 5000 =
      .ok ⟨"http://127.0.0.1:8080/api/v1/ingest", 5000⟩ := by
    decide +kernel
  have hclients : GoToIngest twoPushes := by
    refine goToIngest_of_ofBase 8080 fun c p hmem => ⟨"/", fun d hd => List.mem_singleton.mp hd, ?_⟩
    have hc : c = ⟨"http://127.0.0.1:8080/api/v1/ingest", 5000⟩ := by
      simp only [twoPushes, List.mem_cons, Action.start.injEq, reduceCtorEq, List.not_mem_nil,
        or_false] at hmem
      rcases hmem with ⟨rfl, -⟩ | ⟨rfl, -⟩ <;> rfl
    rw [hc]
    exact hbase
  have hkept : (World.initial.actAll twoPushes).map World.kept =
      some [⟨5, 6, 7, 8⟩, ⟨1, 2, 3, 4⟩] := by
    decide +kernel
  obtain ⟨w, hw, hwKept⟩ := Option.map_eq_some_iff.mp hkept
  exact ⟨w, hw, hwKept, agrees_of_actAll hclients hw⟩

end InvoiceGateway.Session
