import InvoiceGateway.Settings
import InvoiceGateway.Proofs.Text.Trimming

/-! # The address to listen on -/

namespace InvoiceGateway

namespace Text

/-! ## The last separator -/

/-- Splits a text at the last character of a kind, leaving that character out. -/
def splitLast? (separator : Char) : List Char → Option (List Char × List Char)
  | [] => none
  | c :: cs =>
      match splitLast? separator cs with
      | some (front, back) => some (c :: front, back)
      | none => if c = separator then some ([], cs) else none

theorem splitLast?_eq_none_iff {separator : Char} {cs : List Char} :
    splitLast? separator cs = none ↔ separator ∉ cs := by
  induction cs with
  | nil => simp [splitLast?]
  | cons c cs ih =>
      rw [splitLast?]
      cases hrest : splitLast? separator cs with
      | some parts =>
          have hmem : separator ∈ cs := by
            by_contra hnot
            rw [ih.mpr hnot] at hrest
            contradiction
          simp [hmem]
      | none =>
          have hnot : separator ∉ cs := ih.mp hrest
          simp [hnot, eq_comm]

theorem splitLast?_append {separator : Char} {back : List Char} (hback : separator ∉ back)
    (front : List Char) :
    splitLast? separator (front ++ separator :: back) = some (front, back) := by
  induction front with
  | nil => simp [splitLast?, splitLast?_eq_none_iff.mpr hback]
  | cons c front ih => simp [splitLast?, ih]

/-- The two parts make up the text, and no separator is left in the second one. -/
theorem splitLast?_eq_some_iff {separator : Char} {cs front back : List Char} :
    splitLast? separator cs = some (front, back) ↔
      cs = front ++ separator :: back ∧ separator ∉ back := by
  constructor
  · intro h
    fun_induction splitLast? separator cs generalizing front with
    | case1 => contradiction
    | case2 c cs first second hrest ih =>
        obtain ⟨rfl, rfl⟩ := Prod.mk.inj (Option.some.inj h)
        obtain ⟨hcs, hnot⟩ := ih hrest
        exact ⟨by rw [hcs]; rfl, hnot⟩
    | case3 cs hrest ih =>
        obtain ⟨rfl, rfl⟩ := Prod.mk.inj (Option.some.inj h)
        exact ⟨rfl, splitLast?_eq_none_iff.mp hrest⟩
    | case4 => contradiction
  · rintro ⟨rfl, hback⟩
    exact splitLast?_append hback front

/-- What stands before the last colon of a text, and what stands behind it. -/
def splitLastColon? (s : String) : Option (String × String) :=
  (splitLast? ':' s.toList).map fun (front, back) => (String.ofList front, String.ofList back)

theorem splitLastColon?_eq_some_iff {s front back : String} :
    splitLastColon? s = some (front, back) ↔ s = front ++ ":" ++ back ∧ ':' ∉ back.toList := by
  have hparts : splitLastColon? s = some (front, back) ↔
      splitLast? ':' s.toList = some (front.toList, back.toList) := by
    rw [splitLastColon?, Option.map_eq_some_iff]
    constructor
    · rintro ⟨⟨first, second⟩, hsplit, heq⟩
      obtain ⟨rfl, rfl⟩ := Prod.mk.inj heq
      rw [hsplit, String.toList_ofList, String.toList_ofList]
    · intro hsplit
      exact ⟨_, hsplit, Prod.ext String.ofList_toList String.ofList_toList⟩
  rw [hparts, splitLast?_eq_some_iff, ← String.toList_inj]
  simp

end Text

namespace Settings

/-! ## Settings to listen with -/

theorem listenAddress_of_unfit {s : Settings} (h : Text.IsBlankText s.host ∨ s.port = 0) :
    ∃ detail, s.listenAddress = .error (.config detail) := by
  have hvalidate : ∃ detail, s.validate = .error (.config detail) := by
    unfold validate
    split
    · exact ⟨_, rfl⟩
    · next hhost =>
        have hport : s.port = 0 := by
          refine h.resolve_left fun hblank => hhost ?_
          exact String.isEmpty_iff.mpr (Text.trim_eq_empty_iff.mpr hblank)
        rw [if_pos hport]
        exact ⟨_, rfl⟩
  obtain ⟨detail, hdetail⟩ := hvalidate
  exact ⟨detail, by rw [listenAddress, hdetail]; rfl⟩

theorem listenAddress_of_fit {s : Settings} (hhost : ¬Text.IsBlankText s.host)
    (hport : s.port ≠ 0) :
    s.listenAddress = .ok (Text.trim s.host ++ ":" ++ toString s.port.toNat) := by
  have hempty : ¬s.trimmedHost.isEmpty := fun hempty =>
    hhost (Text.trim_eq_empty_iff.mp (String.isEmpty_iff.mp hempty))
  rw [listenAddress, validate, if_neg hempty, if_neg hport]
  rfl

theorem listenAddress_eq_config_iff {s : Settings} :
    (∃ detail, s.listenAddress = .error (.config detail)) ↔
      Text.IsBlankText s.host ∨ s.port = 0 := by
  constructor
  · rintro ⟨detail, hdetail⟩
    by_contra hfit
    obtain ⟨hhost, hport⟩ := not_or.mp hfit
    rw [listenAddress_of_fit hhost hport] at hdetail
    contradiction
  · exact listenAddress_of_unfit

/-! ## The text of a port -/

theorem colon_notMem_toString (n : Nat) : ':' ∉ (toString n).toList := by
  intro hmem
  rw [Nat.toString_eq_ofList_toDigits, String.toList_ofList] at hmem
  exact absurd (Nat.isDigit_of_mem_toDigits (by decide) (by decide) hmem) (by decide)

/-- Two ports have one text only if they are one. -/
theorem port_eq_of_toString {p q : UInt16} (h : toString p.toNat = toString q.toNat) : p = q := by
  rw [Nat.toString_eq_ofList_toDigits, Nat.toString_eq_ofList_toDigits, String.ofList_inj] at h
  have hvalue := congrArg (fun digits => Nat.ofDigitChars 10 digits 0) h
  simp only [Nat.ofDigitChars_ten_toDigits] at hvalue
  exact UInt16.toNat_inj.mp hvalue

/-! ## The parts of the address -/

theorem listenAddress_eq_error_iff {s : Settings} {e : GatewayError} :
    s.listenAddress = .error e ↔ s.validate = .error e := by
  unfold listenAddress
  cases s.validate with
  | error f => simp [Except.map]
  | ok u => simp [Except.map]

/-- There is an address only for a host and a port to listen on, and it is made of them. -/
theorem listenAddress_eq_ok_iff {s : Settings} {address : String} :
    s.listenAddress = .ok address ↔
      (s.trimmedHost ≠ "" ∧ s.port ≠ 0) ∧
        address = s.trimmedHost ++ ":" ++ toString s.port.toNat := by
  have hblank : s.trimmedHost = "" ↔ Text.IsBlankText s.host := Text.trim_eq_empty_iff
  by_cases hfit : s.trimmedHost ≠ "" ∧ s.port ≠ 0
  · rw [listenAddress_of_fit (fun h => hfit.1 (hblank.mpr h)) hfit.2]
    constructor
    · intro h
      exact ⟨hfit, (Except.ok.inj h).symm⟩
    · rintro ⟨-, rfl⟩
      rfl
  · have hunfit : Text.IsBlankText s.host ∨ s.port = 0 := by
      rw [← hblank]
      exact (Decidable.not_and_iff_not_or_not.mp hfit).imp not_not.mp not_not.mp
    obtain ⟨detail, hdetail⟩ := listenAddress_of_unfit hunfit
    simp [hdetail, hfit]

example : (listenAddress ⟨" ::1\t", 8080, "info"⟩).toOption = some "::1:8080" := by
  decide +kernel

theorem splitLastColon?_listenAddress {s : Settings} {address : String}
    (h : s.listenAddress = .ok address) :
    Text.splitLastColon? address = some (s.trimmedHost, toString s.port.toNat) := by
  obtain ⟨-, rfl⟩ := listenAddress_eq_ok_iff.mp h
  exact Text.splitLastColon?_eq_some_iff.mpr ⟨rfl, colon_notMem_toString s.port.toNat⟩

/-! ## Addresses of two settings -/

/-- What the address tells of the settings that it was made of. -/
structure IsUnambiguous (s : Settings) : Prop where
  error_iff : ∀ e, s.listenAddress = .error e ↔ s.validate = .error e
  /-- Other settings have the same address only with the same host, blanks around it apart, and the
  same port. -/
  eq_iff : ∀ (t : Settings) address other,
    s.listenAddress = .ok address → t.listenAddress = .ok other →
      (address = other ↔ s.trimmedHost = t.trimmedHost ∧ s.port = t.port)
  /-- The last colon stands between the two parts. -/
  parts : ∀ address, s.listenAddress = .ok address →
    Text.TrimsTo s.host s.trimmedHost ∧ s.trimmedHost ≠ "" ∧ s.port ≠ 0 ∧
      Text.splitLastColon? address = some (s.trimmedHost, toString s.port.toNat)

theorem isUnambiguous (s : Settings) : s.IsUnambiguous := by
  constructor
  case error_iff => exact fun _ => listenAddress_eq_error_iff
  case parts =>
    intro address h
    obtain ⟨⟨hhost, hport⟩, -⟩ := listenAddress_eq_ok_iff.mp h
    exact ⟨Text.trimsTo_trim s.host, hhost, hport, splitLastColon?_listenAddress h⟩
  case eq_iff =>
    intro t address other hs ht
    constructor
    · rintro rfl
      have hsplit := (splitLastColon?_listenAddress hs).symm.trans
        (splitLastColon?_listenAddress ht)
      obtain ⟨hhost, hport⟩ := Prod.mk.inj (Option.some.inj hsplit)
      exact ⟨hhost, port_eq_of_toString hport⟩
    · rintro ⟨hhost, hport⟩
      rw [(listenAddress_eq_ok_iff.mp hs).2, (listenAddress_eq_ok_iff.mp ht).2, hhost, hport]

end Settings

end InvoiceGateway
