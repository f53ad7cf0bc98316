import InvoiceGateway.Bytes

/-! # How characters become bytes -/

namespace InvoiceGateway.Text

/-! ## The first byte and the others -/

theorem exists_utf8EncodeChar_eq_cons (c : Char) :
    ∃ b tail, String.utf8EncodeChar c = b :: tail ∧ b.IsUTF8FirstByte ∧
      ∀ x ∈ tail, ¬x.IsUTF8FirstByte := by
  have hfirst : ∀ (i : Nat) (hi : i < (String.utf8EncodeChar c).length),
      (String.utf8EncodeChar c)[i].IsUTF8FirstByte ↔ i = 0 := fun _ _ =>
    UInt8.isUTF8FirstByte_getElem_utf8EncodeChar
  cases h : String.utf8EncodeChar c with
  | nil => exact absurd h String.utf8EncodeChar_ne_nil
  | cons b tail =>
      rw [h] at hfirst
      refine ⟨b, tail, rfl, (hfirst 0 (by simp)).mpr rfl, ?_⟩
      intro x hx hbyte
      obtain ⟨i, hi, rfl⟩ := List.getElem_of_mem hx
      have hzero := (hfirst (i + 1) (by simpa using hi)).mp (by simpa using hbyte)
      omega

/-- Two byte strings that begin with a character each agree on that character. -/
theorem utf8EncodeChar_append_inj {c d : Char} {s t : Bytes}
    (h : String.utf8EncodeChar c ++ s = String.utf8EncodeChar d ++ t) : c = d ∧ s = t := by
  have hchar : ∀ (e : Char) (u : Bytes),
      ByteArray.utf8DecodeChar? (String.utf8EncodeChar e ++ u).toByteArray 0 = some e := by
    intro e u
    rw [List.toByteArray_append]
    exact ByteArray.utf8DecodeChar?_utf8EncodeChar_append
  have hcd : c = d := by
    have hd := hchar d t
    rw [← h, hchar c s] at hd
    exact Option.some.inj hd
  subst hcd
  exact ⟨rfl, List.append_cancel_left h⟩

/-! ## ASCII -/

theorem utf8EncodeChar_of_lt {c : Char} (h : c.toNat < 128) :
    String.utf8EncodeChar c = [UInt8.ofNat c.toNat] := by
  have hsize : c.utf8Size = 1 := by
    rw [Char.utf8Size_eq_one_iff, UInt32.le_iff_toNat_le]
    change c.toNat ≤ 127
    omega
  rw [String.utf8EncodeChar_eq_singleton hsize]
  rfl

theorem toNat_ofNat_of_isValidChar {n : Nat} (h : n.isValidChar) : (Char.ofNat n).toNat = n := by
  rw [Char.ofNat, dif_pos h]
  rfl

/-- A byte of ASCII is the character of its number. -/
theorem utf8EncodeChar_ofNat_toNat {b : UInt8} (h : b.toNat < 128) :
    String.utf8EncodeChar (Char.ofNat b.toNat) = [b] := by
  have hnat : (Char.ofNat b.toNat).toNat = b.toNat :=
    toNat_ofNat_of_isValidChar (Or.inl (by omega))
  rw [utf8EncodeChar_of_lt (by omega), hnat, UInt8.ofNat_toNat]

/-- A byte of ASCII among those of a character is the whole character. -/
theorem eq_ofNat_of_mem_utf8EncodeChar {c : Char} {b : UInt8}
    (hb : b ∈ String.utf8EncodeChar c) (hlt : b.toNat < 128) : c = Char.ofNat b.toNat := by
  have hfirst : b.IsUTF8FirstByte := by
    obtain ⟨a, tail, ha, hbyte, -⟩ := exists_utf8EncodeChar_eq_cons (Char.ofNat b.toNat)
    rw [utf8EncodeChar_ofNat_toNat hlt] at ha
    injection ha with ha _
    rwa [ha]
  obtain ⟨a, tail, ha, -, htail⟩ := exists_utf8EncodeChar_eq_cons c
  rw [ha] at hb
  rcases List.mem_cons.mp hb with rfl | hb
  · have happ : String.utf8EncodeChar c ++ [] =
        String.utf8EncodeChar (Char.ofNat b.toNat) ++ tail := by
      rw [utf8EncodeChar_ofNat_toNat hlt, ha]
      simp
    exact (utf8EncodeChar_append_inj happ).1
  · exact absurd hfirst (htail b hb)

/-! ## Lengths -/

/-- No character takes less than a byte. -/
theorem length_le_utf8ByteSize (cs : List Char) : cs.length ≤ (String.ofList cs).utf8ByteSize := by
  induction cs with
  | nil => exact Nat.zero_le _
  | cons c cs ih =>
      have hcons : String.ofList (c :: cs) = String.singleton c ++ String.ofList cs := by
        rw [String.singleton_eq_ofList, ← String.ofList_append]
        rfl
      have hpos : 0 < c.utf8Size := c.utf8Size_pos
      rw [hcons, String.utf8ByteSize_append, String.utf8ByteSize_singleton, List.length_cons]
      omega

end InvoiceGateway.Text
