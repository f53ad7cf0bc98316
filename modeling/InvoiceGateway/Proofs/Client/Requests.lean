import InvoiceGateway.Proofs.Session.Delivery

/-! # What a client sends -/

namespace InvoiceGateway.Client

open Url

/-! ## Paths of base addresses -/

/-- Letters, digits, hyphens, underscores, tildes and slashes. -/
def IsPathChar (c : Char) : Prop :=
  c.isAlphanum = true ∨ c ∈ ['-', '_', '~', '/']

instance (c : Char) : Decidable (IsPathChar c) :=
  inferInstanceAs (Decidable (_ ∨ _))

/-- Nothing, or a slash and then such characters. -/
def IsPathSuffix (suffix : String) : Prop :=
  (suffix = "" ∨ suffix.toList.head? = some '/') ∧ ∀ c ∈ suffix.toList, IsPathChar c

instance (suffix : String) : Decidable (IsPathSuffix suffix) :=
  decidable_of_iff ((suffix = "" ∨ suffix.toList.head? = some '/') ∧
    suffix.toList.all (fun c => decide (IsPathChar c)) = true) (by simp [IsPathSuffix])

/-- Such characters mean nothing in an address and are not encoded there. -/
theorem IsPathChar.isInert {c : Char} (h : IsPathChar c) :
    IsInert c ∧ pathSet c = false := by
  have hrange : 0x20 < c.toNat ∧ c.toNat ≤ 0x7E := by
    rcases h with halphanum | hmem
    · have hrange := toNat_of_isAlphanum halphanum
      omega
    · simp only [List.mem_cons, List.not_mem_nil, or_false] at hmem
      rcases hmem with rfl | rfl | rfl | rfl <;> decide
  have hne : ∀ d, ¬IsPathChar d → c ≠ d := fun d hd hcd => hd (hcd ▸ h)
  simp (disch := decide) [IsInert, pathSet, fragmentSet, controlSet, hne]
  omega

theorem encode_of_isPathChar {cs : List Char} (h : ∀ c ∈ cs, IsPathChar c) :
    encode pathSet cs = cs := by
  induction cs with
  | nil => rfl
  | cons c cs ih =>
      have hc : encodeChar pathSet c = [c] := by
        rw [encodeChar, (h c List.mem_cons_self).isInert.2]
        rfl
      rw [encode_cons, hc, ih fun d hd => h d (List.mem_cons_of_mem c hd)]
      rfl

/-- The path of the requests of a client whose base address has this suffix. -/
def requestPath (suffix : String) : String :=
  String.ofList (trimSlashes suffix.toList) ++ Gateway.ingestPath

/-- The address of these requests, at a port of this machine. -/
def requestAddress (port : UInt16) (suffix : String) : Url.Address :=
  loopback port (requestPath suffix)

theorem exists_ofBase_suffix (port : UInt16) (timeout : Nat) {suffix : String}
    (h : IsPathSuffix suffix) :
    ∃ c, ofBase ("http://" ++ Session.gatewayName port ++ suffix) timeout = .ok c ∧
      c.ingestUrl = "http://" ++ Session.gatewayName port ++ requestPath suffix ∧
      c.address =
        if (requestAddress port suffix).text.utf8ByteSize ≤ 65534 then
          .ok (requestAddress port suffix)
        else .error (.unsupported (requestAddress port suffix)) := by
  obtain ⟨hstart, hchars⟩ := h
  have hslash : ∀ c, suffix.toList.head? = some c → c = '/' := by
    intro c hc
    rcases hstart with rfl | hstart
    · rw [String.toList_empty, List.head?_nil] at hc
      cases hc
    · exact Option.some.inj (hc.symm.trans hstart)
  have htrimmed : ∀ c ∈ trimSlashes suffix.toList, IsPathChar c := fun c hc =>
    hchars c (mem_of_mem_trimSlashes hc)
  refine Session.exists_ofBase_name port timeout hslash (fun c hc => (hchars c hc).isInert.1) ?_
  rw [encode_of_isPathChar htrimmed]
  rfl

/-! ## Requests -/

/-- Where a request can be sent, it is the only one and carries the packet. -/
theorem exists_sent {c : Client} {a : Url.Address} (ha : c.address = .ok a) {network : Network}
    (hnetwork : ∀ o, ∃ reply, network o = .sent reply) (p : Packet) :
    ∃ o, (c.push network p).sent = [o] ∧ o.line = "POST " ++ a.target ++ " HTTP/1.1" ∧
      Packet.ofUpload o.body = .ok p := by
  obtain ⟨reply, hreply⟩ := hnetwork (request a p)
  refine ⟨request a p, ?_, rfl, Packet.ofUpload_toJson p⟩
  rw [sent_of_address ha, hreply]
  rfl

/-- What is sent for packets and invoices by a client whose base address is that of a gateway at a
port with a suffix behind it. -/
structure SendsFor (port : UInt16) (suffix : String) (c : Client) : Prop where
  ingestUrl : c.ingestUrl = "http://" ++ Session.gatewayName port ++ requestPath suffix
  /-- However the gateway behaves once connected, one request is sent, if its address is not too
  long. -/
  sent : ∀ network p, (∀ o, ∃ reply, network o = .sent reply) →
    (requestAddress port suffix).text.utf8ByteSize ≤ 65534 →
    ∃ o, (c.push network p).sent = [o] ∧
      o.line = "POST " ++ requestPath suffix ++ " HTTP/1.1" ∧ Packet.ofUpload o.body = .ok p
  unsent : ∀ network p, 65534 < (requestAddress port suffix).text.utf8ByteSize →
    (c.push network p).sent = []
  tooShort : ∀ network invoice, invoice.length < 62 →
    (c.pushInvoice network invoice).sent = [] ∧ (c.pushInvoice network invoice).events = []
  /-- An invoice that is long enough is pushed as the packet in it. -/
  invoice : ∀ network invoice, 62 ≤ invoice.length →
    ∃ p, Invoice.decode invoice = .ok p ∧ c.pushInvoice network invoice = c.push network p

theorem target_requestAddress (port : UInt16) (suffix : String) :
    (requestAddress port suffix).target = requestPath suffix :=
  String.append_empty

theorem exists_sendsFor (port : UInt16) (timeout : Nat) {suffix : String}
    (h : IsPathSuffix suffix) :
    ∃ c, ofBase ("http://" ++ Session.gatewayName port ++ suffix) timeout = .ok c ∧
      c.SendsFor port suffix := by
  obtain ⟨c, hc, hurl, haddress⟩ := exists_ofBase_suffix port timeout h
  refine ⟨c, hc, ?_⟩
  constructor
  case ingestUrl => exact hurl
  case sent =>
    intro network p hnetwork hsize
    rw [if_pos hsize] at haddress
    have hsent := exists_sent haddress hnetwork p
    rwa [target_requestAddress] at hsent
  case unsent =>
    intro network p hsize
    rw [if_neg (Nat.not_le_of_lt hsize)] at haddress
    exact (Session.push_unsupported haddress network p).2
  case tooShort =>
    intro network invoice hshort
    have hdecode : Invoice.decode invoice = .error ⟨62, invoice.length⟩ := if_pos hshort
    simp only [pushInvoice, hdecode, and_self]
  case invoice =>
    intro network invoice hlong
    have hdecode : Invoice.decode invoice = .ok _ := if_neg (Nat.not_lt_of_le hlong)
    refine ⟨_, hdecode, ?_⟩
    simp only [pushInvoice, hdecode]

/-- A path with characters of all kinds, and a reply that breaks off in its first line. -/
theorem sent_to_station :
    IsPathSuffix "/v2/~ground_station-1//" ∧
      ∃ c, ofBase "http://127.0.0.1:8080/v2/~ground_station-1//" defaultTimeout = .ok c ∧
        c.ingestUrl = "http://127.0.0.1:8080/v2/~ground_station-1/api/v1/ingest" ∧
        ∃ o, (c.push (.answering .closed (Bytes.ofString "HTTP/1.1 50")) ⟨1, 2, 3, 4⟩).sent = [o] ∧
          o.line = "POST /v2/~ground_station-1/api/v1/ingest HTTP/1.1" ∧
          Packet.ofUpload o.body = .ok ⟨1, 2, 3, 4⟩ := by
  have hsuffix : IsPathSuffix "/v2/~ground_station-1//" := by decide
  have hpath : requestPath "/v2/~ground_station-1//" = "/v2/~ground_station-1/api/v1/ingest" := by
    decide
  obtain ⟨c, hc, hsends⟩ := exists_sendsFor 8080 defaultTimeout hsuffix
  have hsize := utf8ByteSize_text_loopback_le 8080 (requestPath "/v2/~ground_station-1//")
  rw [hpath] at hsize
  have hurl := hsends.ingestUrl
  have hsent := hsends.sent (.answering .closed (Bytes.ofString "HTTP/1.1 50")) ⟨1, 2, 3, 4⟩
    (fun _ => ⟨_, rfl⟩) (by rw [requestAddress, hpath]; exact Nat.le_trans hsize (by decide))
  rw [hpath] at hurl hsent
  exact ⟨hsuffix, c, hc, hurl, hsent⟩

/-! ## Addresses that are too long -/

/-- A path of more than 65533 letters behind the gateway's address leaves nothing to send. -/
theorem unsent_of_long_suffix (port : UInt16) (timeout : Nat) {n : Nat} (hn : 65534 ≤ n)
    {suffix : String} (hlist : suffix.toList = '/' :: List.replicate n 'a') :
    IsPathSuffix suffix ∧
      ∃ c, ofBase ("http://" ++ Session.gatewayName port ++ suffix) timeout = .ok c ∧
        ∀ network p, (c.push network p).sent = [] := by
  have hsuffix : IsPathSuffix suffix := by
    refine ⟨.inr (by rw [hlist]; rfl), ?_⟩
    rw [hlist]
    intro c hc
    rcases List.mem_cons.mp hc with rfl | hc
    · decide
    · rw [List.eq_of_mem_replicate hc]
      decide
  have hlong : 65534 < (requestAddress port suffix).text.utf8ByteSize := by
    have hle : (trimSlashes suffix.toList).length ≤
        (requestAddress port suffix).text.utf8ByteSize :=
      length_le_text_loopback port _ _
    rw [hlist, trimSlashes_replicate (by omega), List.length_cons, List.length_replicate] at hle
    omega
  obtain ⟨c, hc, -, haddress⟩ := exists_ofBase_suffix port timeout hsuffix
  rw [if_neg (Nat.not_le_of_lt hlong)] at haddress
  exact ⟨hsuffix, c, hc, fun network p => (Session.push_unsupported haddress network p).2⟩

/-- So not every such base address has its one request: here the gateway could read any. -/
theorem not_sent_of_long_suffix :
    ∃ suffix, suffix = String.ofList ('/' :: List.replicate 70000 'a') ∧ IsPathSuffix suffix ∧
      ∃ c, ofBase ("http://" ++ Session.gatewayName 8080 ++ suffix) defaultTimeout = .ok c ∧
        ¬∃ o, (c.push (.answering .closed []) ⟨1, 2, 3, 4⟩).sent = [o] := by
  obtain ⟨hsuffix, c, hc, hunsent⟩ := unsent_of_long_suffix 8080 defaultTimeout (n := 70000)
    (by decide) String.toList_ofList
  refine ⟨_, rfl, hsuffix, c, hc, ?_⟩
  rintro ⟨o, ho⟩
  exact absurd ((hunsent _ _).symm.trans ho) (List.cons_ne_nil o []).symm

end InvoiceGateway.Client
