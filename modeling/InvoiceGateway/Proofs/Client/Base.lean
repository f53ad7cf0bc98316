import InvoiceGateway.Proofs.Url.Loopback
import Mathlib.Data.List.DropRight

/-! # Base addresses -/

namespace InvoiceGateway.Client

open Url

/-! ## Trimming -/

theorem trimSlashes_append {xs ys : List Char} (h : trimSlashes xs = xs) :
    trimSlashes (xs ++ ys) = xs ++ trimSlashes ys := by
  have hxs : xs.reverse.dropWhile (· = '/') = xs.reverse := by
    rw [← List.reverse_inj, List.reverse_reverse]
    exact h
  rw [trimSlashes, trimSlashes, List.reverse_append, List.dropWhile_append, hxs]
  split
  · next hempty => simp [List.isEmpty_iff.mp hempty]
  · simp

/-- Nothing but slashes is trimmed away. -/
theorem exists_trimSlashes_append (cs : List Char) :
    ∃ slashes, (∀ c ∈ slashes, c = '/') ∧ trimSlashes cs ++ slashes = cs :=
  ⟨cs.rtakeWhile (· = '/'), fun c hc => by simpa using List.mem_rtakeWhile_imp hc,
    List.rdropWhile_append_rtakeWhile⟩

theorem mem_of_mem_trimSlashes {cs : List Char} {c : Char} (h : c ∈ trimSlashes cs) : c ∈ cs := by
  obtain ⟨slashes, -, happend⟩ := exists_trimSlashes_append cs
  exact happend ▸ List.mem_append_left slashes h

theorem trimSlashes_eq_nil_iff {cs : List Char} : trimSlashes cs = [] ↔ ∀ c ∈ cs, c = '/' := by
  simp [trimSlashes, List.dropWhile_eq_nil_iff]

theorem trimSlashes_append_of_ne {cs : List Char} (hne : cs ≠ []) (hcs : ∀ c ∈ cs, c ≠ '/')
    (front : List Char) : trimSlashes (front ++ cs) = front ++ cs := by
  rcases List.eq_nil_or_concat' cs with rfl | ⟨ds, d, rfl⟩
  · contradiction
  · have hd : d ≠ '/' := hcs d (by simp)
    simp [trimSlashes, hd]

theorem trimSlashes_loopbackName (front : List Char) (port : UInt16) :
    trimSlashes (front ++ loopbackName port) = front ++ loopbackName port := by
  have hdigits : ∀ c ∈ Nat.toDigits 10 port.toNat, c ≠ '/' := by
    rintro c hc rfl
    exact absurd (Nat.isDigit_of_mem_toDigits (by decide) (by decide) hc) (by decide)
  have h := trimSlashes_append_of_ne Nat.toDigits_ne_nil hdigits (front ++ "127.0.0.1:".toList)
  rwa [List.append_assoc] at h

theorem trimSlashes_replicate {n : Nat} (hn : 0 < n) :
    trimSlashes ('/' :: List.replicate n 'a') = '/' :: List.replicate n 'a' := by
  have hne : List.replicate n 'a' ≠ [] := List.ne_nil_of_mem (List.mem_replicate.mpr ⟨hn.ne', rfl⟩)
  refine trimSlashes_append_of_ne hne (fun c hc => ?_) ['/']
  rw [List.eq_of_mem_replicate hc]
  decide

/-! ## Bases on this machine -/

/-- A base address with nothing or a slash behind the gateway's is taken, and its address for
uploads has a slash there too. -/
theorem exists_ofBase_slash (port : UInt16) {suffix : List Char} (timeout : Nat)
    (hslash : ∀ c, suffix.head? = some c → c = '/') :
    ∃ c path, trimSlashes suffix ++ Gateway.ingestPath.toList = '/' :: path ∧
      ofBase (String.ofList ("http://".toList ++ loopbackName port ++ suffix)) timeout = .ok c ∧
      c.ingestUrl = String.ofList ("http://".toList ++ (loopbackName port ++ '/' :: path)) := by
  obtain ⟨slashes, -, hslashes⟩ := exists_trimSlashes_append suffix
  have htrim : trimSlashes ("http://".toList ++ loopbackName port ++ suffix) = _ :=
    trimSlashes_append (trimSlashes_loopbackName "http://".toList port)
  generalize trimSlashes suffix = trimmed at hslashes htrim
  have hne : ("http://".toList ++ loopbackName port ++ trimmed).isEmpty = false := rfl
  -- The first slash is that of the suffix or, where nothing of it is left, that of the path.
  obtain ⟨path, hpath⟩ : ∃ path, trimmed ++ Gateway.ingestPath.toList = '/' :: path := by
    cases trimmed with
    | nil => exact ⟨"api/v1/ingest".toList, by decide⟩
    | cons c cs => exact ⟨cs ++ Gateway.ingestPath.toList, by
        rw [hslash c (by rw [← hslashes]; rfl), List.cons_append]⟩
  refine ⟨⟨String.ofList ("http://".toList ++ loopbackName port ++ trimmed) ++
    Gateway.ingestPath, timeout⟩, path, hpath, ?_, ?_⟩
  · simp only [ofBase, String.toList_ofList, htrim, hne, Bool.false_eq_true, if_false]
  · rw [← hpath, ← String.toList_inj]
    simp

/-- Inert characters after a slash, or none at all, stand in front of the path for uploads. -/
theorem exists_ofBase (port : UInt16) {suffix : List Char} (timeout : Nat)
    (hslash : ∀ c, suffix.head? = some c → c = '/') (hinert : ∀ c ∈ suffix, IsInert c) :
    ∃ c, ofBase (String.ofList ("http://".toList ++ loopbackName port ++ suffix)) timeout = .ok c ∧
      c.ingestUrl = String.ofList ("http://".toList ++ loopbackName port ++ trimSlashes suffix) ++
        Gateway.ingestPath ∧
      Address.parse? c.ingestUrl =
        some (loopback port
          (String.ofList (encode pathSet (trimSlashes suffix)) ++ Gateway.ingestPath)) := by
  obtain ⟨c, path, hpath, hc, hurl⟩ := exists_ofBase_slash port timeout hslash
  have hinertIngest : ∀ c ∈ Gateway.ingestPath.toList, IsInert c :=
    isInert_of_all (by decide)
  have hpathInert : ∀ c ∈ path, IsInert c := by
    intro c hc
    have hmem : c ∈ trimSlashes suffix ++ Gateway.ingestPath.toList :=
      hpath ▸ List.mem_cons_of_mem _ hc
    rcases List.mem_append.mp hmem with hmem | hmem
    · exact hinert c (mem_of_mem_trimSlashes hmem)
    · exact hinertIngest c hmem
  have hencoded : '/' :: encode pathSet path =
      encode pathSet (trimSlashes suffix) ++ Gateway.ingestPath.toList := by
    have hslashEncoded : encode pathSet ('/' :: path) = '/' :: encode pathSet path := rfl
    have hingest : encode pathSet Gateway.ingestPath.toList = Gateway.ingestPath.toList := by
      decide
    rw [← hslashEncoded, ← hpath, encode, List.flatMap_append, ← encode, ← encode, hingest]
  refine ⟨c, hc, ?_, ?_⟩
  · rw [hurl, ← hpath, ← String.toList_inj]
    simp
  · rw [hurl, parse?_loopback port hpathInert, hencoded, String.ofList_append,
      String.ofList_toList]

theorem withoutCredentials_loopback (port : UInt16) (path : String) :
    (loopback port path).withoutCredentials = loopback port path :=
  rfl

/-- An address at a port of this machine can be sent to, unless it is too long. -/
theorem address_of_parse? {c : Client} {a : Address} (hparse : Address.parse? c.ingestUrl = some a)
    {port : UInt16} (hscheme : a.scheme = "http")
    (hauthority : a.authority = (loopback port "").authority) :
    c.address =
      if a.text.utf8ByteSize ≤ 65534 then .ok a else .error (.unsupported a) := by
  have hhost : a.host? = some (.ipv4 2130706433) := by
    rw [Address.host?, hauthority]
    rfl
  have hsame : a.withoutCredentials = a := by
    cases a
    cases hauthority
    rfl
  have hchars : (Host.ipv4 2130706433).text.toList.all isHostChar = true := by decide +kernel
  have hreach : isReachable a = decide (a.text.utf8ByteSize ≤ 65534) := by
    simp only [isReachable, hscheme, hhost, Option.any_some, hchars, Bool.and_true]
    rfl
  simp only [address, hparse, hhost, Option.isSome_some, if_true, hsame, hreach,
    decide_eq_true_eq]

/-! ## Requests -/

theorem sent_of_address {c : Client} {a : Address} (ha : c.address = .ok a)
    (network : Network) (p : Packet) :
    (c.push network p).sent = Transfer.request (request a p) (network (request a p)) := by
  simp only [push, ha]

theorem eq_request_of_mem_sent {c : Client} {network : Network} {p : Packet} {o : Outgoing}
    (ho : o ∈ (c.push network p).sent) : ∃ a, c.address = .ok a ∧ o = request a p := by
  cases ha : c.address with
  | error fault =>
      simp only [push, ha] at ho
      contradiction
  | ok a =>
      rw [sent_of_address ha] at ho
      refine ⟨a, rfl, ?_⟩
      unfold Transfer.request at ho
      split at ho
      · exact List.mem_singleton.mp ho
      · contradiction

end InvoiceGateway.Client
