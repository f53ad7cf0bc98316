import InvoiceGateway.Proofs.Session.Delivery
import InvoiceGateway.Proofs.Url.Paths

/-! # Where a base address leads -/

namespace InvoiceGateway

/-- The path that a request names, which a question mark ends. -/
def Outgoing.targetPath (o : Outgoing) : String :=
  String.ofList (o.address.target.toList.takeWhile (· != '?'))

namespace Client

open Url

/-! ## The address that is read -/

/-- What is read behind the address of a gateway: the suffix of a base address and the path for
uploads, less the characters that do not count. -/
def joined (suffix : String) : List Char :=
  plain (trimSlashes suffix.toList ++ Gateway.ingestPath.toList)

/-- The address that packets are sent to by a client whose base address has this suffix behind that
of a gateway at a port. -/
def joinedAddress (port : UInt16) (suffix : String) : Url.Address :=
  assemble "http" true (loopback port "").authority
    (hierarchicalPath true (splitPath (joined suffix)).1) (splitPath (joined suffix)).2.1
    (splitPath (joined suffix)).2.2

theorem exists_ofBase_joined (port : UInt16) (timeout : Nat) {suffix : String}
    (h : suffix.toList.head? = some '/') :
    ∃ c, ofBase ("http://" ++ Session.gatewayName port ++ suffix) timeout = .ok c ∧
      c.address =
        if (joinedAddress port suffix).text.utf8ByteSize ≤ 65534 then
          .ok (joinedAddress port suffix)
        else .error (.unsupported (joinedAddress port suffix)) := by
  have hslash : ∀ c, suffix.toList.head? = some c → c = '/' :=
    fun c hc => Option.some.inj (hc.symm.trans h)
  obtain ⟨c, path, hpath, hc, hurl⟩ := exists_ofBase_slash port timeout hslash
  rw [Session.ofList_gatewayBase, String.ofList_toList] at hc
  -- The path for uploads keeps blanks at the end of the suffix from being trimmed.
  have hlast : ∀ ch, ('/' :: path).getLast? = some ch → 0x20 < ch.toNat := by
    intro ch hch
    have hingest : ∀ c ∈ Gateway.ingestPath.toList, IsInert c := isInert_of_all (by decide)
    rw [← hpath, List.getLast?_append_of_ne_nil _ (by decide)] at hch
    exact (hingest ch (List.mem_of_getLast? hch)).1
  have hparse : Address.parse? c.ingestUrl = some (joinedAddress port suffix) := by
    rw [hurl, parse?_loopbackName port hlast, ← hpath]
    rfl
  have hauthority : (joinedAddress port suffix).authority = (loopback port "").authority := rfl
  exact ⟨c, hc, address_of_parse? hparse rfl hauthority⟩

theorem path_joinedAddress (port : UInt16) (suffix : String) :
    (joinedAddress port suffix).path =
      String.ofList (hierarchicalPath true (splitPath (joined suffix)).1) :=
  rfl

/-! ## The path that is requested -/

theorem targetPath_eq_path {o : Outgoing} (h : '?' ∉ o.address.path.toList) :
    o.targetPath = o.address.path := by
  have hpath : ∀ c ∈ o.address.path.toList, (c != '?') = true := by
    intro c hc
    refine bne_iff_ne.mpr ?_
    rintro rfl
    exact h hc
  have htake : ∀ query : Option String,
      ((o.address.path ++ (query.map fun q => "?" ++ q).getD "").toList.takeWhile (· != '?')) =
        o.address.path.toList := by
    intro query
    rw [String.toList_append, List.takeWhile_append_of_pos hpath]
    cases query with
    | none => exact List.append_nil _
    | some q =>
        rw [Option.map_some, Option.getD_some, String.toList_append]
        exact List.append_nil _
  rw [Outgoing.targetPath, Address.target, htake, String.ofList_toList]

theorem targetPath_request (port : UInt16) (suffix : String) (p : Packet) :
    (request (joinedAddress port suffix) p).targetPath =
      String.ofList (hierarchicalPath true (splitPath (joined suffix)).1) := by
  refine targetPath_eq_path ?_
  change '?' ∉ (joinedAddress port suffix).path.toList
  rw [path_joinedAddress, String.toList_ofList]
  exact questionMark_notMem_hierarchicalPath true _

/-! ## What becomes of the path for uploads -/

/-- Without a question mark and a number sign, the path for uploads ends what is requested. -/
theorem suffix_of_not_endsPath {suffix : String} (h : ∀ c ∈ suffix.toList, endsPath c = false) :
    Gateway.ingestPath.toList <:+ hierarchicalPath true (splitPath (joined suffix)).1 := by
  have hjoined : ∀ c ∈ joined suffix, endsPath c = false := by
    intro c hc
    rcases List.mem_append.mp (List.mem_of_mem_filter hc) with hmem | hmem
    · exact h c (mem_of_mem_trimSlashes hmem)
    · exact not_endsPath_of_all (by decide) c hmem
  have hparts : joined suffix = plain (trimSlashes suffix.toList) ++ '/' :: "api/v1/ingest".toList :=
    plain_append _ _
  have hinert : ∀ c ∈ "api/v1/ingest".toList, IsInert c := isInert_of_all (by decide)
  have hencoded : '/' :: encode pathSet "api/v1/ingest".toList = Gateway.ingestPath.toList := by
    decide
  rw [splitPath_fst_of_not_endsPath hjoined, hparts, ← hencoded]
  exact suffix_hierarchicalPath _ hinert

/-- The path that a base address names itself, given what stands behind the gateway's address. -/
def basePath (suffix : String) : String :=
  String.ofList (hierarchicalPath true (splitPath (plain suffix.toList)).1)

/-- Behind a question mark or a number sign, the path for uploads has no part in the path. -/
theorem splitPath_joined_of_endsPath {suffix : String}
    (h : ∃ c ∈ suffix.toList, endsPath c = true) :
    (splitPath (joined suffix)).1 = (splitPath (plain suffix.toList)).1 := by
  obtain ⟨c, hc, hends⟩ := h
  obtain ⟨slashes, hslashes, hsuffix⟩ := exists_trimSlashes_append suffix.toList
  have htrimmed : c ∈ trimSlashes suffix.toList := by
    rw [← hsuffix] at hc
    refine (List.mem_append.mp hc).resolve_right fun hmem => ?_
    rw [hslashes c hmem] at hends
    contradiction
  have hcounts : isSkipped c = false := by
    rcases Bool.or_eq_true_iff.mp hends with hmark | hmark
    · rw [of_decide_eq_true hmark]
      decide
    · rw [of_decide_eq_true hmark]
      decide
  have hplain : ∃ c ∈ plain (trimSlashes suffix.toList), endsPath c = true :=
    ⟨c, List.mem_filter.mpr ⟨htrimmed, by rw [hcounts]; rfl⟩, hends⟩
  calc (splitPath (joined suffix)).1
      = (splitPath (plain (trimSlashes suffix.toList) ++ plain Gateway.ingestPath.toList)).1 := by
        rw [joined, plain_append]
    _ = (splitPath (plain (trimSlashes suffix.toList))).1 := splitPath_fst_append hplain _
    _ = (splitPath (plain (trimSlashes suffix.toList) ++ plain slashes)).1 :=
        (splitPath_fst_append hplain _).symm
    _ = (splitPath (plain suffix.toList)).1 := by rw [← plain_append, hsuffix]

/-! ## Requests -/

/-- What a client requests whose base address has this suffix behind that of a gateway at a port. -/
structure Leads (port : UInt16) (suffix : String) (c : Client) : Prop where
  /-- Once connected, one request is sent, if its address is not too long. -/
  sent : ∀ network p, (∀ o, ∃ reply, network o = .sent reply) →
    (c.push network p).sent =
      if (joinedAddress port suffix).text.utf8ByteSize ≤ 65534 then
        [request (joinedAddress port suffix) p]
      else []
  /-- No part of the suffix changes who is addressed. -/
  atGateway : ∀ network p, ∀ o ∈ (c.push network p).sent,
    o.address.scheme = "http" ∧ o.address.authority = (loopback port "").authority
  kept : (∀ ch ∈ suffix.toList, endsPath ch = false) →
    ∀ network p, ∀ o ∈ (c.push network p).sent,
      Gateway.ingestPath.toList <:+ o.targetPath.toList
  /-- A question mark or a number sign leaves only the path of the base address itself. -/
  lost : (∃ ch ∈ suffix.toList, endsPath ch = true) →
    ∀ network p, ∀ o ∈ (c.push network p).sent, o.targetPath = basePath suffix

theorem exists_leads (port : UInt16) (timeout : Nat) {suffix : String}
    (h : suffix.toList.head? = some '/') :
    ∃ c, ofBase ("http://" ++ Session.gatewayName port ++ suffix) timeout = .ok c ∧
      c.Leads port suffix := by
  obtain ⟨c, hc, haddress⟩ := exists_ofBase_joined port timeout h
  have hsent : ∀ network p, ∀ o ∈ (c.push network p).sent,
      o = request (joinedAddress port suffix) p := by
    intro network p o ho
    obtain ⟨a, ha, rfl⟩ := eq_request_of_mem_sent ho
    rw [haddress] at ha
    split at ha
    · rw [Except.ok.inj ha]
    · contradiction
  refine ⟨c, hc, ?_⟩
  constructor
  case sent =>
    intro network p hnetwork
    by_cases hsize : (joinedAddress port suffix).text.utf8ByteSize ≤ 65534
    · rw [if_pos hsize] at haddress ⊢
      obtain ⟨reply, hreply⟩ := hnetwork (request (joinedAddress port suffix) p)
      rw [sent_of_address haddress, hreply]
      rfl
    · rw [if_neg hsize] at haddress ⊢
      exact (Session.push_unsupported haddress network p).2
  case atGateway =>
    intro network p o ho
    rw [hsent network p o ho]
    exact ⟨rfl, rfl⟩
  case kept =>
    intro hmarks network p o ho
    rw [hsent network p o ho, targetPath_request, String.toList_ofList]
    exact suffix_of_not_endsPath hmarks
  case lost =>
    intro hmarks network p o ho
    rw [hsent network p o ho, targetPath_request, splitPath_joined_of_endsPath hmarks]
    rfl

/-- A suffix with blanks, a tab, a backslash and encoded dots, behind which the path for uploads
stands. -/
theorem sent_through_relay :
    "/relay\\.%2E/a b\t//".toList.head? = some '/' ∧
      ∃ c, ofBase "http://127.0.0.1:8080/relay\\.%2E/a b\t//" defaultTimeout = .ok c ∧
        ∃ o, (c.push (.answering .closed []) ⟨1, 2, 3, 4⟩).sent = [o] ∧
          o.line = "POST /a%20b/api/v1/ingest HTTP/1.1" ∧
          Gateway.ingestPath.toList <:+ o.targetPath.toList := by
  have hslash : "/relay\\.%2E/a b\t//".toList.head? = some '/' := by decide
  obtain ⟨c, hc, hleads⟩ := exists_leads 8080 defaultTimeout hslash
  have hsize : (joinedAddress 8080 "/relay\\.%2E/a b\t//").text.utf8ByteSize ≤ 65534 := by
    decide +kernel
  have hsent := hleads.sent (.answering .closed []) ⟨1, 2, 3, 4⟩ fun _ => ⟨_, rfl⟩
  rw [if_pos hsize] at hsent
  have hmarks : ∀ ch ∈ "/relay\\.%2E/a b\t//".toList, endsPath ch = false :=
    not_endsPath_of_all (by decide)
  refine ⟨hslash, c, hc, _, hsent, by decide +kernel, ?_⟩
  exact hleads.kept hmarks (.answering .closed []) ⟨1, 2, 3, 4⟩ _ (by rw [hsent]; exact .head _)

/-- Of a base address with a question mark only its own path is requested. -/
theorem not_ingest_of_questionMark :
    ∃ c, ofBase "http://127.0.0.1:8080/?" defaultTimeout = .ok c ∧
      ∃ o, (c.push (Session.Link.up.network .recording) ⟨1, 2, 3, 4⟩).sent = [o] ∧
        o.line = "POST /?/api/v1/ingest HTTP/1.1" ∧
        ¬Gateway.ingestPath.toList <:+ o.targetPath.toList := by
  have hslash : "/?".toList.head? = some '/' := by decide
  obtain ⟨c, hc, haddress⟩ := exists_ofBase_joined 8080 defaultTimeout hslash
  rw [if_pos (by decide +kernel)] at haddress
  refine ⟨c, hc, request (joinedAddress 8080 "/?") ⟨1, 2, 3, 4⟩, ?_, by decide +kernel, ?_⟩
  · rw [sent_of_address haddress]
    rfl
  · rw [targetPath_request, String.toList_ofList]
    decide +kernel

end Client

end InvoiceGateway
