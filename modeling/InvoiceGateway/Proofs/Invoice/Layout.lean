import InvoiceGateway.Invoice
import InvoiceGateway.Proofs.Packet.Language

/-! # Invoice bodies and their layout -/

namespace InvoiceGateway

/-! ## Fields and their bytes -/

namespace Packet

theorem Field.size_eq_pow (f : Field) : f.size = Nat.pow 256 f.width := by
  cases f <;> rfl

theorem get_lt_pow (p : Packet) (f : Field) : p.get f < Nat.pow 256 f.width := by
  rw [← Field.size_eq_pow]
  exact get_lt_fieldSize p f

/-- Values that fit their fields are not cut. -/
theorem get_ofFields {value : Field → Nat} (h : ∀ f, value f < Nat.pow 256 f.width) (f : Field) :
    (ofFields value).get f = value f := by
  cases f with
  | epochTs => exact UInt64.toNat_ofNat_of_lt (h .epochTs)
  | satId => exact UInt32.toNat_ofNat_of_lt (h .satId)
  | amount => exact UInt64.toNat_ofNat_of_lt (h .amount)
  | assetId => exact UInt16.toNat_ofNat_of_lt (h .assetId)

end Packet

namespace Invoice

open Packet (Field)

/-! ## The place of a field -/

/-- The bytes of the value that a packet gives to a field. -/
def fieldBytes (p : Packet) (f : Field) : Bytes :=
  Bytes.ofLittleEndian f.width (p.get f)

theorem length_fieldBytes (p : Packet) (f : Field) : (fieldBytes p f).length = f.width :=
  Bytes.length_ofLittleEndian _ _

theorem offset_add_width_le (f : Field) : offset f + f.width ≤ bodySize := by
  cases f <;> decide

theorem length_slice {body : Bytes} (h : bodySize ≤ body.length) (f : Field) :
    (slice body f).length = f.width := by
  have hplace := offset_add_width_le f
  rw [slice, List.length_take, List.length_drop]
  omega

/-- What stands behind as many bytes as the offset of a field says is the slice of that field. -/
theorem slice_append {f : Field} {front field : Bytes} (back : Bytes)
    (hfront : front.length = offset f) (hfield : field.length = f.width) :
    slice (front ++ (field ++ back)) f = field := by
  rw [slice, ← hfront, ← hfield, List.drop_left, List.take_left]

/-- Two bodies have the same slice exactly when they agree at each place in it. -/
theorem slice_eq_slice_iff {body other : Bytes} {f : Field} :
    slice body f = slice other f ↔
      ∀ i, offset f ≤ i → i < offset f + f.width → body[i]? = other[i]? := by
  constructor
  · intro h i hle hlt
    have hplace := congrArg (fun s : Bytes => s[i - offset f]?) h
    have hinside : i - offset f < f.width := by omega
    have hindex : offset f + (i - offset f) = i := by omega
    simpa [slice, List.getElem?_take, List.getElem?_drop, hinside, hindex] using hplace
  · intro h
    apply List.ext_getElem?
    intro i
    simp only [slice, List.getElem?_take, List.getElem?_drop]
    by_cases hi : i < f.width
    · rw [if_pos hi, if_pos hi]
      apply h
      · omega
      · omega
    · rw [if_neg hi, if_neg hi]

/-! ## Which bodies hold a packet -/

theorem decode_eq_error_iff {body : Bytes} {e : TooShort} :
    decode body = .error e ↔ body.length < bodySize ∧ e = ⟨bodySize, body.length⟩ := by
  unfold decode
  by_cases h : body.length < bodySize
  · simp [h, eq_comm]
  · simp [h]

/-- A body that is long enough holds a packet exactly when its slices are the bytes of the packet's
values. -/
theorem decode_eq_ok_iff {body : Bytes} {p : Packet} :
    decode body = .ok p ↔
      bodySize ≤ body.length ∧ ∀ f, slice body f = fieldBytes p f := by
  constructor
  · intro h
    unfold decode at h
    by_cases hshort : body.length < bodySize
    · rw [if_pos hshort] at h
      contradiction
    · rw [if_neg hshort] at h
      injection h with h
      subst h
      have hlong : bodySize ≤ body.length := Nat.le_of_not_lt hshort
      refine ⟨hlong, fun f => ?_⟩
      have hfits : ∀ g : Field, Bytes.littleEndian (slice body g) < Nat.pow 256 g.width := by
        intro g
        rw [← length_slice hlong g]
        exact Bytes.littleEndian_lt _
      have hwritten := Bytes.ofLittleEndian_littleEndian (slice body f)
      rw [length_slice hlong f] at hwritten
      rw [fieldBytes, Packet.get_ofFields hfits, hwritten]
  · rintro ⟨hlong, hslices⟩
    have hvalue : (fun f => Bytes.littleEndian (slice body f)) = p.get := by
      funext f
      rw [hslices, fieldBytes, Bytes.littleEndian_ofLittleEndian]
      exact Nat.mod_eq_of_lt (p.get_lt_pow f)
    rw [decode, if_neg (Nat.not_lt_of_le hlong), hvalue, Packet.ofFields_get]

theorem exists_decode {body : Bytes} (h : bodySize ≤ body.length) : ∃ p, decode body = .ok p := by
  cases hdecode : decode body with
  | ok p => exact ⟨p, rfl⟩
  | error e => exact absurd (decode_eq_error_iff.mp hdecode).1 (Nat.not_lt_of_le h)

/-- Only the slices of the fields decide which packet a body holds. -/
theorem decode_eq_decode_iff {body other : Bytes} (hbody : bodySize ≤ body.length)
    (hother : bodySize ≤ other.length) :
    decode body = decode other ↔ ∀ f, slice body f = slice other f := by
  obtain ⟨p, hp⟩ := exists_decode hbody
  have hslices := (decode_eq_ok_iff.mp hp).2
  constructor
  · intro h f
    rw [hp] at h
    have hslices' := (decode_eq_ok_iff.mp h.symm).2
    rw [hslices f, hslices' f]
  · intro h
    have hp' : decode other = .ok p :=
      decode_eq_ok_iff.mpr ⟨hother, fun f => by rw [← h f, hslices f]⟩
    rw [hp, hp']

/-! ## Bodies that are laid out -/

theorem length_encode (p : Packet) (telemetry checksum : Bytes) :
    (encode p telemetry checksum).length = 22 + telemetry.length + checksum.length := by
  simp only [encode, List.length_append, Bytes.length_ofLittleEndian, Field.width]
  omega

theorem slice_encode (p : Packet) {telemetry : Bytes} (h : telemetry.length = 36)
    (checksum rest : Bytes) (f : Field) :
    slice (encode p telemetry checksum ++ rest) f = fieldBytes p f := by
  cases f with
  | epochTs =>
      have hslice := slice_append
        (telemetry ++ fieldBytes p .satId ++ fieldBytes p .amount ++ fieldBytes p .assetId ++
          checksum ++ rest) (List.length_nil : ([] : Bytes).length = offset .epochTs)
        (length_fieldBytes p .epochTs)
      simpa [encode, fieldBytes] using hslice
  | satId =>
      have hfront : (fieldBytes p .epochTs ++ telemetry).length = offset .satId := by
        simp [length_fieldBytes, h, Field.width, offset]
      have hslice := slice_append
        (fieldBytes p .amount ++ fieldBytes p .assetId ++ checksum ++ rest) hfront
        (length_fieldBytes p .satId)
      simpa [encode, fieldBytes] using hslice
  | amount =>
      have hfront : (fieldBytes p .epochTs ++ telemetry ++ fieldBytes p .satId).length =
          offset .amount := by
        simp [length_fieldBytes, h, Field.width, offset]
      have hslice := slice_append (fieldBytes p .assetId ++ checksum ++ rest) hfront
        (length_fieldBytes p .amount)
      simpa [encode, fieldBytes] using hslice
  | assetId =>
      have hfront : (fieldBytes p .epochTs ++ telemetry ++ fieldBytes p .satId ++
          fieldBytes p .amount).length = offset .assetId := by
        simp [length_fieldBytes, h, Field.width, offset]
      have hslice := slice_append (checksum ++ rest) hfront (length_fieldBytes p .assetId)
      simpa [encode, fieldBytes] using hslice

/-- What is laid out is read back, whatever stands between the fields and behind the body. -/
theorem decode_encode (p : Packet) {telemetry checksum : Bytes} (ht : telemetry.length = 36)
    (hc : checksum.length = 4) (rest : Bytes) :
    decode (encode p telemetry checksum ++ rest) = .ok p := by
  apply decode_eq_ok_iff.mpr
  refine ⟨?_, slice_encode p ht checksum rest⟩
  rw [List.length_append, length_encode, ht, hc, bodySize]
  omega

/-! ## Reading by the layout -/

/-- The twenty-two bytes of a body that belong to its fields. -/
def IsFieldByte (i : Nat) : Prop :=
  i < 8 ∨ (44 ≤ i ∧ i < 58)

theorem isFieldByte_iff {i : Nat} :
    IsFieldByte i ↔ ∃ f : Field, offset f ≤ i ∧ i < offset f + f.width := by
  constructor
  · rintro (h | ⟨hle, hlt⟩)
    · exact ⟨.epochTs, Nat.zero_le i, by simpa [offset, Field.width] using h⟩
    · by_cases hsat : i < 48
      · exact ⟨.satId, hle, hsat⟩
      · by_cases hamount : i < 56
        · exact ⟨.amount, Nat.le_of_not_lt hsat, hamount⟩
        · exact ⟨.assetId, Nat.le_of_not_lt hamount, hlt⟩
  · rintro ⟨f, hle, hlt⟩
    unfold IsFieldByte
    cases f <;> simp only [offset, Field.width] at hle hlt <;> omega

/-- A reader of invoice bodies that goes by their layout. -/
structure ReadsLayout (decode : Bytes → Except TooShort Packet) : Prop where
  /-- Only a body of fewer than sixty-two bytes is refused, and its length is reported. -/
  error_iff : ∀ body e, decode body = .error e ↔ body.length < 62 ∧ e = ⟨62, body.length⟩
  /-- No field of any other body reaches past its end. -/
  inside : ∀ body : Bytes, 62 ≤ body.length → ∀ f, offset f + f.width ≤ body.length
  /-- Every other body holds a packet, whose values are laid out in it. -/
  laidOut : ∀ body : Bytes, 62 ≤ body.length → ∃ p, decode body = .ok p ∧
    body.extract 0 8 = Bytes.ofLittleEndian 8 p.epochTs.toNat ∧
    body.extract 44 48 = Bytes.ofLittleEndian 4 p.satId.toNat ∧
    body.extract 48 56 = Bytes.ofLittleEndian 8 p.amount.toNat ∧
    body.extract 56 58 = Bytes.ofLittleEndian 2 p.assetId.toNat
  /-- What is laid out is read back, whatever the telemetry, the checksum and what follows. -/
  readBack : ∀ (p : Packet) (telemetry checksum rest : Bytes), telemetry.length = 36 →
    checksum.length = 4 → decode (encode p telemetry checksum ++ rest) = .ok p
  /-- Two bodies hold the same packet exactly when they agree in the bytes of the fields. -/
  same_iff : ∀ body other : Bytes, 62 ≤ body.length → 62 ≤ other.length →
    (decode body = decode other ↔ ∀ i, IsFieldByte i → body[i]? = other[i]?)

/-- Reading a body and laying it out are inverse to each other. -/
theorem readsLayout_decode : ReadsLayout decode where
  error_iff := fun _ _ => decode_eq_error_iff
  inside := fun _ h f => Nat.le_trans (offset_add_width_le f) h
  laidOut := by
    intro body h
    obtain ⟨p, hp⟩ := exists_decode h
    have hslices := (decode_eq_ok_iff.mp hp).2
    exact ⟨p, hp, hslices .epochTs, hslices .satId, hslices .amount, hslices .assetId⟩
  readBack := fun p _ _ rest ht hc => decode_encode p ht hc rest
  same_iff := by
    intro body other hbody hother
    rw [decode_eq_decode_iff hbody hother]
    constructor
    · intro h i hi
      obtain ⟨f, hle, hlt⟩ := isFieldByte_iff.mp hi
      exact slice_eq_slice_iff.mp (h f) i hle hlt
    · intro h f
      apply slice_eq_slice_iff.mpr
      intro i hle hlt
      exact h i (isFieldByte_iff.mpr ⟨f, hle, hlt⟩)

end Invoice

end InvoiceGateway
