import InvoiceGateway.Proofs.Json.Writing
import InvoiceGateway.Proofs.Packet.Precedence

/-! # Number literals in the place of a field -/

namespace InvoiceGateway.Packet

open Json

/-! ## One field -/

section Field

variable {depth : Nat} {members : List (String × Value)} {f : Field} {s : Bytes} {v : Value}

/-- Below `2 ^ 64`, digits are a text of their number only. -/
theorem eq_natural_iff_of_valueText {n : Nat} (hs : ValueText depth s v) (hn : n < UInt64.size) :
    v = .number (.natural (UInt64.ofNat n)) ↔ s = natBytes n := by
  constructor
  · rintro rfl
    obtain ⟨hwhole, hvalue⟩ := valueText_natural_iff.mp hs
    rw [← natBytes_decimalValue hwhole, hvalue, UInt64.toNat_ofNat_of_lt' hn]
  · rintro rfl
    exact valueText_unique hs (valueText_natBytes hn)

/-- A field is given exactly the number whose digits are written. -/
theorem gives_iff_of_valueText (hlast : LastNamed f.name v members) (hs : ValueText depth s v)
    {n : Nat} : Gives members f n ↔ n ≤ f.max ∧ s = natBytes n := by
  constructor
  · rintro ⟨hmax, m, rfl, hm⟩
    have hv : v = .number (.natural (UInt64.ofNat m.toNat)) := by
      rw [UInt64.ofNat_toNat]
      exact lastNamed_unique hlast hm
    exact ⟨hmax, (eq_natural_iff_of_valueText hs m.toNat_lt).mp hv⟩
  · rintro ⟨hmax, hn⟩
    have hlt : n < UInt64.size := Nat.lt_of_le_of_lt hmax f.max_lt_uint64
    rw [(eq_natural_iff_of_valueText hs hlt).mpr hn] at hlast
    exact ⟨hmax, _, UInt64.toNat_ofNat_of_lt hlt, hlast⟩

/-- Digits of a number below `2 ^ 64` that the field cannot hold are out of range. -/
theorem faulty_of_natBytes (hlast : LastNamed f.name v members) (hs : ValueText depth s v)
    {n : Nat} (hmax : f.max < n) (hn : n < UInt64.size) (hdigits : s = natBytes n) :
    Faulty members f (.outOfRange f.name f.max) := by
  rw [(eq_natural_iff_of_valueText hs hn).mpr hdigits] at hlast
  refine .outOfRange hlast ?_
  rwa [UInt64.toNat_ofNat_of_lt' hn]

/-- What is not the digits of a number below `2 ^ 64` is of the wrong type. -/
theorem faulty_of_ne_natBytes (hlast : LastNamed f.name v members) (hs : ValueText depth s v)
    (hdigits : ∀ n, n < UInt64.size → s ≠ natBytes n) : Faulty members f (.wrongType f.name) := by
  refine .wrongType hlast ?_
  rintro m rfl
  apply hdigits m.toNat m.toNat_lt
  apply (eq_natural_iff_of_valueText hs m.toNat_lt).mp
  rw [UInt64.ofNat_toNat]

theorem natBytes_injective {n m : Nat} (h : natBytes n = natBytes m) : n = m := by
  rw [← (digits_natBytes n).2, h, (digits_natBytes m).2]

end Field

/-! ## Uploads -/

/-- The last member of the field's name is written as the digits of a number that the field can
hold. -/
def IsWritten (spelled : List (String × Bytes)) (f : Field) : Prop :=
  ∃ n, n ≤ f.max ∧ LastNamed f.name (natBytes n) spelled

theorem IsWritten.exists_gives {depth : Nat} {spelled : List (String × Bytes)}
    {members : List (String × Value)} {f : Field} (h : IsWritten spelled f)
    (hall : List.Forall₂ (Spells depth) spelled members) : ∃ n, Gives members f n := by
  obtain ⟨n, hmax, hn⟩ := h
  obtain ⟨v, hv, hs⟩ := exists_lastNamed_of_spells hall hn
  exact ⟨n, (gives_iff_of_valueText hv hs).mpr ⟨hmax, rfl⟩⟩

/-- What becomes of an upload by the literal that is written for one field. -/
structure IsTakenWhole (body : Bytes) (f : Field) (s : Bytes) (l : Literal) : Prop where
  /-- Digits of a number that the field can hold give the field that number. -/
  fits : ∀ n, s = natBytes n → n ≤ f.max → ∃ p, ofUpload body = .ok p ∧ p.get f = n
  /-- Digits of a larger number below `2 ^ 64` are out of range, if the field is a narrow one. -/
  tooLarge : ∀ n, s = natBytes n → f.max < n → n < UInt64.size →
    ofUpload body = .error (.outOfRange f.name f.max) ∧ (f = .satId ∨ f = .assetId)
  /-- However many digits there are, from `2 ^ 64` on the type is wrong. -/
  tooLong : ∀ n, s = natBytes n → UInt64.size ≤ n →
    ofUpload body = .error (.wrongType f.name)
  /-- With a minus sign, a fraction or an exponent the type is wrong, whatever the value. -/
  marked : l.negative = true ∨ l.fraction ≠ [] ∨ l.exponent ≠ none →
    ofUpload body = .error (.wrongType f.name)
  /-- All other literals are the digits of a number. -/
  unmarked : l.negative = false → l.fraction = [] → l.exponent = none → ∃ n, s = natBytes n
  /-- The value of the field is never another than the one that is written. -/
  exact : ∀ p, ofUpload body = .ok p → s = natBytes (p.get f)

/-- Where the other fields are written well, the literal of a field decides about the upload, and it
is never changed to fit. -/
theorem isTakenWhole_of_literal {body s : Bytes} {spelled : List (String × Bytes)} {f : Field}
    {l : Literal} (hbody : ObjectText depthLimit body spelled)
    (hothers : ∀ g, g ≠ f → IsWritten spelled g) (hlast : LastNamed f.name s spelled)
    (hliteral : LiteralText s l) : IsTakenWhole body f s l := by
  obtain ⟨members, hdocument, hall⟩ := hbody.exists_document
  have hupload : ofUpload body = ofValue (.object members) := ofUpload_of_document hdocument
  obtain ⟨v, hv, hs⟩ := exists_lastNamed_of_spells hall hlast
  have hgiven : ∀ g, g ≠ f → ∃ n, Gives members g n :=
    fun g hg => (hothers g hg).exists_gives hall
  have hrefused : ∀ e, Faulty members f e → ofUpload body = .error e := by
    intro e he
    rw [hupload]
    exact ofValue_eq_error_iff.mpr ⟨f, he.firstFault hgiven⟩
  have haccepted : ∀ p, ofUpload body = .ok p → s = natBytes (p.get f) := by
    intro p hp
    rw [hupload] at hp
    exact ((gives_iff_of_valueText hv hs).mp (ofValue_eq_ok_iff_gives.mp hp f)).2
  constructor
  case fits =>
    intro n hn hmax
    have hf : Gives members f n := (gives_iff_of_valueText hv hs).mpr ⟨hmax, hn⟩
    obtain ⟨p, hp⟩ : ∃ p, ofValue (.object members) = .ok p := by
      apply exists_ofValue
      intro g
      by_cases hg : g = f
      · exact ⟨n, hg ▸ hf⟩
      · exact hgiven g hg
    have hp' : ofUpload body = .ok p := hupload.trans hp
    exact ⟨p, hp', natBytes_injective ((haccepted p hp').symm.trans hn)⟩
  case tooLarge =>
    intro n hn hmax hlt
    have hf := faulty_of_natBytes hv hs hmax hlt hn
    exact ⟨hrefused _ hf, hf.outOfRange_field.2.2⟩
  case tooLong =>
    intro n hn hle
    apply hrefused
    apply faulty_of_ne_natBytes hv hs
    intro m hm hdigits
    have heq : n = m := natBytes_injective (hn.symm.trans hdigits)
    omega
  case marked =>
    intro hmarked
    apply hrefused
    apply faulty_of_ne_natBytes hv hs
    rintro m - rfl
    obtain ⟨hsign, hfraction, hexponent⟩ := hliteral.wholeText_iff.mp (wholeText_natBytes m)
    simp [hsign, hfraction, hexponent] at hmarked
  case unmarked =>
    intro hsign hfraction hexponent
    have hwhole := hliteral.wholeText_iff.mpr ⟨hsign, hfraction, hexponent⟩
    exact ⟨decimalValue s, (natBytes_decimalValue hwhole).symm⟩
  case exact => exact haccepted

/-- The fields of an upload whose satellite is `2 ^ 64`, which would be nought if it were cut. -/
def wideFields : List (String × String) :=
  [("epoch_ts", "1"), ("sat_id", "18446744073709551616"), ("amount", "3"), ("asset_id", "4")]

def wideSpelling : List (String × Bytes) :=
  wideFields.map fun (name, value) => (name, Bytes.ofString value)

theorem isTakenWhole_wideUpload :
    ObjectText depthLimit (Bytes.ofString (compactObject wideFields)) wideSpelling ∧
      (∀ g, g ≠ .satId → IsWritten wideSpelling g) ∧
      LastNamed Field.satId.name (natBytes UInt64.size) wideSpelling ∧
      LiteralText (natBytes UInt64.size) ⟨false, natBytes UInt64.size, [], none⟩ ∧
      IsTakenWhole (Bytes.ofString (compactObject wideFields)) .satId (natBytes UInt64.size)
        ⟨false, natBytes UInt64.size, [], none⟩ := by
  have hliteral : LiteralText (natBytes UInt64.size) ⟨false, natBytes UInt64.size, [], none⟩ :=
    literalText_whole (wholeText_natBytes _)
  have hbody : ObjectText depthLimit (Bytes.ofString (compactObject wideFields)) wideSpelling := by
    apply objectText_compactObject
    intro w hw
    simp only [wideFields, List.mem_cons, List.not_mem_nil, or_false] at hw
    rcases hw with rfl | rfl | rfl | rfl
    · exact ⟨_, valueText_natBytes (n := 1) (by decide)⟩
    · exact ⟨_, .number hliteral (by with_unfolding_all rfl)⟩
    · exact ⟨_, valueText_natBytes (n := 3) (by decide)⟩
    · exact ⟨_, valueText_natBytes (n := 4) (by decide)⟩
  have hothers : ∀ g, g ≠ .satId → IsWritten wideSpelling g := by
    intro g hg
    cases g with
    | epochTs => exact ⟨1, by decide, [], wideSpelling.drop 1, rfl, by decide⟩
    | satId => contradiction
    | amount => exact ⟨3, by decide, wideSpelling.take 2, wideSpelling.drop 3, rfl, by decide⟩
    | assetId => exact ⟨4, by decide, wideSpelling.take 3, [], rfl, by simp⟩
  have hlast : LastNamed Field.satId.name (natBytes UInt64.size) wideSpelling :=
    ⟨wideSpelling.take 1, wideSpelling.drop 2, rfl, by decide⟩
  exact ⟨hbody, hothers, hlast, hliteral, isTakenWhole_of_literal hbody hothers hlast hliteral⟩

end InvoiceGateway.Packet
