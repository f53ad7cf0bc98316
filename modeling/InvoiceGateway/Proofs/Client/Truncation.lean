import InvoiceGateway.Proofs.Client.Replies

/-! # Replies that are cut short -/

namespace InvoiceGateway.Http

/-! ## Lengths -/

theorem dropWhile_isSpaceByte_of_isDigit {s : Bytes} (h : ∀ b ∈ s, Ascii.isDigit b = true) :
    s.dropWhile isSpaceByte = s := by
  cases s with
  | nil => rfl
  | cons b s =>
      have hdigit := h b List.mem_cons_self
      have hspace : isSpaceByte b = false := by
        rw [isSpaceByte, Bool.or_eq_false_iff, decide_eq_false_iff_not, decide_eq_false_iff_not]
        constructor <;> rintro rfl <;> contradiction
      rw [List.dropWhile_cons, hspace]
      rfl

theorem trimBytes_of_isDigit {s : Bytes} (h : ∀ b ∈ s, Ascii.isDigit b = true) :
    trimBytes s = s := by
  have hreverse : ∀ b ∈ s.reverse, Ascii.isDigit b = true :=
    fun b hb => h b (List.mem_reverse.mp hb)
  rw [trimBytes, dropWhile_isSpaceByte_of_isDigit h, dropWhile_isSpaceByte_of_isDigit hreverse,
    List.reverse_reverse]

/-- A single length is agreed on. -/
theorem agreedLength?_singleton {value : Bytes} (hne : value ≠ [])
    (hdigits : ∀ d ∈ value, Ascii.isDigit d = true) (hlimit : digitsNumber value ≤ lengthLimit) :
    agreedLength? [value] = some (digitsNumber value) := by
  have hcomma : (44 : UInt8) ∉ value := fun hmem => absurd (hdigits 44 hmem) (by decide)
  have hitems : listItems value = [value] := by
    rw [listItems, List.splitOn_eq_singleton hcomma, List.map_singleton,
      trimBytes_of_isDigit hdigits]
  have hvalue : lengthValue? value = some (digitsNumber value) := by
    have hempty : value.isEmpty = false := by simpa using hne
    rw [lengthValue?, hempty, List.all_eq_true.mpr hdigits]
    exact if_pos hlimit
  simp [agreedLength?, hitems, hvalue]

/-- A reply that states its length: its head names one, which is that of the body, and no transfer
coding. -/
inductive SizedReply (status : Status) (fields : List (Bytes × Bytes)) : Bytes → Bytes → Prop
  | mk {head body value : Bytes} :
      HeadText head ⟨false, status⟩ fields → headerValues "transfer-encoding" fields = [] →
      headerValues "content-length" fields = [value] → value ≠ [] →
      (∀ d ∈ value, Ascii.isDigit d = true) → digitsNumber value = body.length →
      body.length ≤ lengthLimit → SizedReply status fields head body

namespace SizedReply

variable {status : Status} {fields : List (Bytes × Bytes)} {head body : Bytes}

theorem headText (h : SizedReply status fields head body) :
    HeadText head ⟨false, status⟩ fields := by
  cases h with
  | mk hhead => exact hhead

theorem framing?_eq (h : SizedReply status fields head body) (hbody : status.isBodiless = false) :
    framing? ⟨false, status⟩ fields = some (.length body.length) := by
  cases h with
  | mk _ hcodings hlengths hne hdigits hnumber hlimit =>
      have hagreed := agreedLength?_singleton hne hdigits (hnumber ▸ hlimit)
      simp [framing?, hbody, hcodings, hlengths, hagreed, hnumber]

/-- What follows the head is read as far as the length goes. -/
theorem read_append (h : SizedReply status fields head body) (hlimits : IsWithinLimits head fields)
    (hbody : status.isBodiless = false) (ending : Ending) (rest : Bytes) :
    Reply.read ending (head ++ rest) =
      .headed status (readBody (.length body.length) ending rest) := by
  have hfinal : 200 ≤ status.code := by
    simp only [Status.isBodiless, Bool.or_eq_false_iff, decide_eq_false_iff_not] at hbody
    omega
  exact Reply.read_append .nil h.headText hlimits (Reply.isInterim_eq_false hfinal)
    (h.framing?_eq hbody) ending rest

theorem read_whole (h : SizedReply status fields head body) (hlimits : IsWithinLimits head fields)
    (hbody : status.isBodiless = false) (ending : Ending) :
    Reply.read ending (head ++ body) = .headed status (.complete body) := by
  have hwhole : readBody (.length body.length) ending body = .complete body :=
    readBody_eq_complete_iff.mpr ⟨rfl, List.prefix_rfl⟩
  rw [h.read_append hlimits hbody, hwhole]

/-- A part that ends in the head is no reply. -/
theorem read_headPart (h : SizedReply status fields head body) {part : Bytes}
    (hpart : part <+: head ++ body) (hshort : part.length < head.length) :
    Reply.read .closed part = .broken := by
  rcases part_append hpart with ⟨hpart, hne⟩ | ⟨rest, rfl, -⟩
  · exact Reply.read_part h.headText hpart hne
  · rw [List.length_append] at hshort
    omega

/-- A part that goes beyond the head is a reply without its body. -/
theorem read_bodyPart (h : SizedReply status fields head body)
    (hlimits : IsWithinLimits head fields) (hbody : status.isBodiless = false) {part : Bytes}
    (hpart : part <+: head ++ body) (hne : part ≠ head ++ body)
    (hlong : head.length ≤ part.length) : Reply.read .closed part = .headed status .broken := by
  rcases part_append hpart with ⟨hpart, hne⟩ | ⟨rest, rfl, hrest⟩
  · exact absurd (hpart.eq_of_length_le hlong) hne
  · have hshort : rest.length < body.length :=
      lt_of_le_of_ne hrest.length_le fun hlen => hne (by rw [hrest.eq_of_length hlen])
    rw [h.read_append hlimits hbody, readBody, if_pos hshort]
    rfl

/-- No part of a reply is one if its head is refused. -/
theorem read_partBeyond (h : SizedReply status fields head body)
    (hlimits : ¬IsWithinLimits head fields) {part : Bytes} (hpart : part <+: head ++ body) :
    Reply.read .closed part = .broken := by
  rcases part_append hpart with ⟨hpart, hne⟩ | ⟨rest, rfl, -⟩
  · exact Reply.read_part h.headText hpart hne
  · exact Reply.read_beyond h.headText hlimits .closed rest

end SizedReply

end InvoiceGateway.Http

namespace InvoiceGateway.Client

open Http

/-! ## Pushes -/

/-- What becomes of a push when the connection is closed after a part of a reply, or after the whole
of it. -/
structure IsCutSafe (status : Status) (fields : List (Bytes × Bytes)) (head body : Bytes)
    (result : Bytes → Except GatewayError Ack) : Prop where
  acknowledged : IsWithinLimits head fields → status.code = 200 → ∀ ack,
    Ack.parse body = .ok ack → result (head ++ body) = .ok ack
  reported : IsWithinLimits head fields → 400 ≤ status.code → status.code < 500 → ∀ report,
    ErrorReport.parse body = .ok report →
    result (head ++ body) = .error (.rejected report.error)
  /-- A part of an acknowledgement is a failure of the exchange. -/
  cut : status.code = 200 → ∀ part, part <+: head ++ body → part ≠ head ++ body →
    ∃ detail, result part = .error (.exchangeFailed detail)
  /-- So is a part of the head of a rejection. -/
  headCut : 400 ≤ status.code → status.code < 500 → ∀ part, part <+: head ++ body →
    part.length < head.length → ∃ detail, result part = .error (.exchangeFailed detail)
  /-- A part of its body does not matter. -/
  bodyCut : IsWithinLimits head fields → 400 ≤ status.code → status.code < 500 → ∀ part,
    part <+: head ++ body → part ≠ head ++ body → head.length ≤ part.length →
    result part = .error (.rejected status.text)
  /-- Behind too many header lines every part is a failure of the exchange, and so is the whole. -/
  crowded : headerLimit < fields.length → ∀ part, part <+: head ++ body →
    ∃ detail, result part = .error (.exchangeFailed detail)

section

variable {c : Client} {a : Url.Address} {status : Status} {fields : List (Bytes × Bytes)}
  {head body : Bytes}

theorem push_whole (hreach : c.address = .ok a) (hreply : SizedReply status fields head body)
    (hlimits : IsWithinLimits head fields) (hbody : status.isBodiless = false) (p : Packet) :
    (push (.answering .closed (head ++ body)) c p).result = interpret status (.complete body) := by
  rw [push_answering hreach, hreply.read_whole hlimits hbody]
  rfl

theorem push_of_broken (hreach : c.address = .ok a) {part : Bytes}
    (hpart : Reply.read .closed part = .broken) (p : Packet) :
    (push (.answering .closed part) c p).result = .error (.exchangeFailed (sendingTo a)) := by
  rw [push_answering hreach, hpart]
  rfl

theorem push_bodyPart (hreach : c.address = .ok a) (hreply : SizedReply status fields head body)
    (hlimits : IsWithinLimits head fields) (hbody : status.isBodiless = false) (p : Packet)
    {part : Bytes} (hpart : part <+: head ++ body) (hne : part ≠ head ++ body)
    (hlong : head.length ≤ part.length) :
    (push (.answering .closed part) c p).result = interpret status .broken := by
  rw [push_answering hreach, hreply.read_bodyPart hlimits hbody hpart hne hlong]
  rfl

/-- Wherever a reply is cut off, a part of it is never an acknowledgement, and only a rejection whose
head is whole is still a rejection. -/
theorem isCutSafe_of_sizedReply (hreach : c.address = .ok a)
    (hreply : SizedReply status fields head body) (p : Packet) :
    IsCutSafe status fields head body fun s => (push (.answering .closed s) c p).result where
  acknowledged hlimits hstatus ack hack := by
    have hsuccess : status.isSuccess = true := isSuccess_iff.mpr (by omega)
    simp only [push_whole hreach hreply hlimits (isBodiless_eq_false (.inl hstatus)) p, interpret,
      hsuccess, if_true, wholeBody, hack]
  reported hlimits hlow hhigh report hreport := by
    simp only [push_whole hreach hreply hlimits (isBodiless_eq_false (.inr hlow)) p,
      interpret_clientError (isClientError_iff.mpr ⟨hlow, hhigh⟩), reason, hreport]
  cut hstatus part hpart hne := by
    by_cases hwhole : IsWithinLimits head fields ∧ head.length ≤ part.length
    · obtain ⟨hlimits, hlong⟩ := hwhole
      have hsuccess : status.isSuccess = true := isSuccess_iff.mpr (by omega)
      have hresult := push_bodyPart hreach hreply hlimits (isBodiless_eq_false (.inl hstatus)) p
        hpart hne hlong
      refine ⟨undecodable, hresult.trans ?_⟩
      simp only [interpret, hsuccess, if_true, wholeBody]
    · have hbroken : Reply.read .closed part = .broken := by
        rcases not_and_or.mp hwhole with hlimits | hshort
        · exact hreply.read_partBeyond hlimits hpart
        · exact hreply.read_headPart hpart (Nat.not_le.mp hshort)
      exact ⟨_, push_of_broken hreach hbroken p⟩
  headCut _ _ part hpart hshort :=
    ⟨_, push_of_broken hreach (hreply.read_headPart hpart hshort) p⟩
  bodyCut hlimits hlow hhigh part hpart hne hlong :=
    (push_bodyPart hreach hreply hlimits (isBodiless_eq_false (.inr hlow)) p hpart hne hlong).trans
      (interpret_clientError (isClientError_iff.mpr ⟨hlow, hhigh⟩) .broken)
  crowded hcrowded part hpart := by
    have hlimits : ¬IsWithinLimits head fields := fun h => absurd h.count (by omega)
    exact ⟨_, push_of_broken hreach (hreply.read_partBeyond hlimits hpart) p⟩

end

theorem sizedReply_missingReply (others : Nat) :
    SizedReply ⟨404⟩ (missingFields others) (missingHead others) missingReport := by
  have hlengths := headerValues_missingFields
    (by decide +kernel : Bytes.ofString "a" ≠ Bytes.ofString "content-length") others
  have hcodings := headerValues_missingFields
    (by decide +kernel : Bytes.ofString "a" ≠ Bytes.ofString "transfer-encoding") others
  have hlength : headerValues "content-length"
      [(Bytes.ofString "content-length", Bytes.ofString "25")] = [Bytes.ofString "25"] := by
    decide +kernel
  have hcoding : headerValues "transfer-encoding"
      [(Bytes.ofString "content-length", Bytes.ofString "25")] = [] := by
    decide +kernel
  exact .mk (headText_missingHead others) (hcodings.trans hcoding) (hlengths.trans hlength)
    (by decide +kernel) (by decide +kernel) (by decide +kernel) (by decide +kernel)

theorem isCutSafe_missingReply :
    localClient.address = .ok (Url.loopback 8080 Gateway.ingestPath) ∧
      SizedReply ⟨404⟩ (missingFields 0) (missingHead 0) missingReport ∧
      IsWithinLimits (missingHead 0) (missingFields 0) ∧
      IsCutSafe ⟨404⟩ (missingFields 0) (missingHead 0) missingReport fun s =>
        (push (.answering .closed s) localClient ⟨1, 2, 3, 4⟩).result :=
  ⟨address_localClient, sizedReply_missingReply 0, isWithinLimits_missingHead,
    isCutSafe_of_sizedReply address_localClient (sizedReply_missingReply 0) ⟨1, 2, 3, 4⟩⟩

/-- A cut behind a head with one line too many is not a rejection. -/
theorem not_rejected_missingReply :
    localClient.address = .ok (Url.loopback 8080 Gateway.ingestPath) ∧
      SizedReply ⟨404⟩ (missingFields 100) (missingHead 100) missingReport ∧
      (ErrorReport.parse missingReport).toOption = some ⟨"no such route"⟩ ∧
      (push (.answering .closed (missingHead 100)) localClient ⟨1, 2, 3, 4⟩).result ≠
        .error (.rejected (Status.text ⟨404⟩)) := by
  have hbeyond : ¬IsWithinLimits (missingHead 100) (missingFields 100) :=
    fun hlimits => absurd hlimits.count (by decide)
  have hbroken : Reply.read .closed (missingHead 100) = .broken :=
    (sizedReply_missingReply 100).read_partBeyond hbeyond (List.prefix_append _ _)
  refine ⟨address_localClient, sizedReply_missingReply 100, by decide +kernel, ?_⟩
  rw [push_of_broken address_localClient hbroken]
  exact nofun

end InvoiceGateway.Client
