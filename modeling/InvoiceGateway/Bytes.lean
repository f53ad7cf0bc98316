/-! # Byte strings -/

namespace InvoiceGateway

abbrev Bytes := List UInt8

namespace Bytes

def ofString (s : String) : Bytes :=
  s.toByteArray.data.toList

/-- The text whose UTF-8 bytes these are, if they are valid UTF-8. -/
def toString? (bytes : Bytes) : Option String :=
  String.fromUTF8? bytes.toByteArray

/-- The natural number that the bytes spell, least significant byte first. -/
def littleEndian : Bytes → Nat
  | [] => 0
  | b :: rest => b.toNat + 256 * littleEndian rest

/-- The `width` low bytes of `n`, least significant byte first. -/
def ofLittleEndian : (width n : Nat) → Bytes
  | 0, _ => []
  | width + 1, n => UInt8.ofNat (n % 256) :: ofLittleEndian width (n / 256)

/-! ## Laws of the conversions -/

@[simp]
theorem length_ofLittleEndian (width n : Nat) : (ofLittleEndian width n).length = width := by
  induction width generalizing n with
  | zero => rfl
  | succ width ih => simp [ofLittleEndian, ih]

theorem littleEndian_ofLittleEndian (width n : Nat) :
    littleEndian (ofLittleEndian width n) = n % Nat.pow 256 width := by
  induction width generalizing n with
  | zero => simp [ofLittleEndian, littleEndian, Nat.mod_one]
  | succ width ih =>
      have hbyte : (UInt8.ofNat (n % 256)).toNat = n % 256 := by
        rw [UInt8.toNat_ofNat']
        omega
      have hpow : Nat.pow 256 (width + 1) = 256 * Nat.pow 256 width := Nat.mul_comm _ _
      rw [ofLittleEndian, littleEndian, ih, hbyte, hpow, Nat.mod_mul]

theorem littleEndian_lt (bytes : Bytes) : littleEndian bytes < Nat.pow 256 bytes.length := by
  induction bytes with
  | nil => simp [littleEndian]
  | cons b rest ih =>
      have hb : b.toNat < 256 := b.toNat_lt
      have hpow : Nat.pow 256 (rest.length + 1) = 256 * Nat.pow 256 rest.length := Nat.mul_comm _ _
      rw [littleEndian, List.length_cons, hpow]
      omega

/-- Bytes are written again as they were read. -/
theorem ofLittleEndian_littleEndian (bytes : Bytes) :
    ofLittleEndian bytes.length (littleEndian bytes) = bytes := by
  induction bytes with
  | nil => rfl
  | cons b rest ih =>
      have hb : b.toNat < 256 := b.toNat_lt
      have hlow : (b.toNat + 256 * littleEndian rest) % 256 = b.toNat := by omega
      have hhigh : (b.toNat + 256 * littleEndian rest) / 256 = littleEndian rest := by omega
      rw [List.length_cons, littleEndian, ofLittleEndian, hlow, hhigh, ih, UInt8.ofNat_toNat]

/-- The bytes of a text are those of its characters. -/
theorem ofString_eq_flatMap (s : String) :
    ofString s = s.toList.flatMap String.utf8EncodeChar := by
  have h := String.toByteArray_ofList (l := s.toList)
  rw [String.ofList_toList] at h
  rw [ofString, h, List.utf8Encode]
  simp

theorem ofString_append (s t : String) : ofString (s ++ t) = ofString s ++ ofString t := by
  simp [ofString_eq_flatMap]

theorem toString?_ofString (s : String) : toString? (ofString s) = some s := by
  have h : (ofString s).toByteArray = s.toByteArray :=
    ByteArray.ext (by simp [ofString])
  rw [toString?, h, String.fromUTF8?, dif_pos s.isValidUTF8]
  rfl

/-- Only the bytes of a text are read as that text. -/
theorem toString?_eq_some_iff {bytes : Bytes} {s : String} :
    toString? bytes = some s ↔ bytes = ofString s := by
  constructor
  · intro h
    rw [toString?, String.fromUTF8?] at h
    split at h
    · next hv =>
        injection h with h
        subst h
        simp [ofString, String.fromUTF8]
    · contradiction
  · rintro rfl
    exact toString?_ofString s

end Bytes

end InvoiceGateway

/-! ## Digits and letters of ASCII -/

namespace InvoiceGateway.Ascii

/-- Whether a byte is a decimal digit. -/
def isDigit (b : UInt8) : Bool :=
  48 ≤ b && b ≤ 57

def digitValue (b : UInt8) : Nat :=
  b.toNat - 48

/-- Whether a byte is a letter in upper case. -/
def isUpper (b : UInt8) : Bool :=
  65 ≤ b && b ≤ 90

/-- Whether a byte is a letter in lower case. -/
def isLower (b : UInt8) : Bool :=
  97 ≤ b && b ≤ 122

def toLower (b : UInt8) : UInt8 :=
  if isUpper b then b + 32 else b

/-- The value of a hexadecimal digit of either case. -/
def hexDigit? (b : UInt8) : Option Nat :=
  if isDigit b then some (b.toNat - 48)
  else if 65 ≤ b && b ≤ 70 then some (b.toNat - 55)
  else if 97 ≤ b && b ≤ 102 then some (b.toNat - 87)
  else none

/-- The value of a hexadecimal digit that is given as a character. -/
def hexChar? (c : Char) : Option Nat :=
  if c.toNat < 128 then hexDigit? (UInt8.ofNat c.toNat) else none

end InvoiceGateway.Ascii
