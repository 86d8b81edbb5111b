import MailWindow.Text.Utf8

namespace MailWindow.Utf8

theorem following_byte {n acc part : Nat} {low high : UInt8} (hpart : part < 64)
    (hlow : low.toNat ≤ part + 128) (hhigh : part + 128 ≤ high.toNat) (bs : List UInt8) :
    following (n + 1) low high acc (UInt8.ofNat (part + 128) :: bs) =
      following n 0x80 0xBF (acc * 64 + part) bs := by
  have hbyte : (UInt8.ofNat (part + 128)).toNat = part + 128 := by
    rw [UInt8.toNat_ofNat']
    omega
  have hmod : (part + 128) % 64 = part := by omega
  rw [following, hbyte, hmod, if_pos]
  rw [Bool.and_eq_true, decide_eq_true_eq, decide_eq_true_eq, UInt8.le_iff_toNat_le,
    UInt8.le_iff_toNat_le, hbyte]
  exact ⟨hlow, hhigh⟩

theorem following_next {n acc part : Nat} (hpart : part < 64) (bs : List UInt8) :
    following (n + 1) 0x80 0xBF acc (UInt8.ofNat (part + 128) :: bs) =
      following n 0x80 0xBF (acc * 64 + part) bs := by
  apply following_byte hpart
  · change 128 ≤ _
    omega
  · change _ ≤ 191
    omega

namespace Lead

variable {b : UInt8}

theorem of?_one (hb : b.toNat < 0x80) : of? b = some ⟨0, 0x80, 0xBF, b.toNat⟩ := by
  simp only [of?, UInt8.lt_iff_toNat_lt, UInt8.reduceToNat]
  rw [if_pos hb]

theorem of?_two (hlow : 0xC2 ≤ b.toNat) (hhigh : b.toNat < 0xE0) :
    of? b = some ⟨1, 0x80, 0xBF, b.toNat - 0xC0⟩ := by
  simp only [of?, UInt8.lt_iff_toNat_lt, UInt8.reduceToNat]
  rw [if_neg (by omega), if_neg (by omega), if_pos hhigh]

theorem toNat_ite_eq (b c x y : UInt8) : (if b = c then x else y).toNat =
    if b.toNat = c.toNat then x.toNat else y.toNat := by
  rw [apply_ite UInt8.toNat]
  simp only [UInt8.toNat_inj]

theorem of?_three (hlow : 0xE0 ≤ b.toNat) (hhigh : b.toNat < 0xF0) :
    ∃ low high, of? b = some ⟨2, low, high, b.toNat - 0xE0⟩ ∧
      low.toNat = (if b.toNat = 0xE0 then 0xA0 else 0x80) ∧
      high.toNat = if b.toNat = 0xED then 0x9F else 0xBF := by
  refine ⟨_, _, ?_, toNat_ite_eq b 0xE0 0xA0 0x80, toNat_ite_eq b 0xED 0x9F 0xBF⟩
  simp only [of?, UInt8.lt_iff_toNat_lt, UInt8.reduceToNat]
  rw [if_neg (by omega), if_neg (by omega), if_neg (by omega), if_pos hhigh]

theorem of?_four (hlow : 0xF0 ≤ b.toNat) (hhigh : b.toNat < 0xF5) :
    ∃ low high, of? b = some ⟨3, low, high, b.toNat - 0xF0⟩ ∧
      low.toNat = (if b.toNat = 0xF0 then 0x90 else 0x80) ∧
      high.toNat = if b.toNat = 0xF4 then 0x8F else 0xBF := by
  refine ⟨_, _, ?_, toNat_ite_eq b 0xF0 0x90 0x80, toNat_ite_eq b 0xF4 0x8F 0xBF⟩
  simp only [of?, UInt8.lt_iff_toNat_lt, UInt8.reduceToNat]
  rw [if_neg (by omega), if_neg (by omega), if_neg (by omega), if_neg (by omega), if_pos hhigh]

end Lead

section Characters

variable {n : Nat} (rest : List UInt8)

theorem next_of_lead {b low high : UInt8} {more bits : Nat}
    (h : Lead.of? b = some ⟨more, low, high, bits⟩) (bs : List UInt8) :
    next b bs = following more low high bits bs := by
  rw [next, h]

theorem next_one (h : n ≤ 0x7F) : next (UInt8.ofNat n) rest = (some n, rest) := by
  have hb : (UInt8.ofNat n).toNat = n := by
    rw [UInt8.toNat_ofNat']
    omega
  rw [next_of_lead (Lead.of?_one (by omega)), hb, following]

theorem next_two (hlow : 0x7F < n) (hhigh : n ≤ 0x7FF) :
    next (UInt8.ofNat (n / 64 % 32 + 192)) (UInt8.ofNat (n % 64 + 128) :: rest) =
      (some n, rest) := by
  have hb : (UInt8.ofNat (n / 64 % 32 + 192)).toNat = n / 64 % 32 + 192 := by
    rw [UInt8.toNat_ofNat']
    omega
  rw [next_of_lead (Lead.of?_two (by omega) (by omega)), hb, following_next (by omega), following]
  congr 2
  omega

theorem next_three (hlow : 0x7FF < n) (hhigh : n ≤ 0xFFFF) (hvalid : n.isValidChar) :
    next (UInt8.ofNat (n / 4096 % 16 + 224))
      (UInt8.ofNat (n / 64 % 64 + 128) :: UInt8.ofNat (n % 64 + 128) :: rest) =
        (some n, rest) := by
  unfold Nat.isValidChar at hvalid
  have hb : (UInt8.ofNat (n / 4096 % 16 + 224)).toNat = n / 4096 % 16 + 224 := by
    rw [UInt8.toNat_ofNat']
    omega
  obtain ⟨low, high, hlead, hl, hh⟩ := Lead.of?_three (b := UInt8.ofNat (n / 4096 % 16 + 224))
    (by omega) (by omega)
  rw [hb] at hlead hl hh
  rw [next_of_lead hlead, following_byte (by omega) (by split at hl <;> omega)
    (by split at hh <;> omega), following_next (by omega), following]
  congr 2
  omega

theorem next_four (hlow : 0xFFFF < n) (hvalid : n.isValidChar) :
    next (UInt8.ofNat (n / 262144 % 8 + 240)) (UInt8.ofNat (n / 4096 % 64 + 128) ::
      UInt8.ofNat (n / 64 % 64 + 128) :: UInt8.ofNat (n % 64 + 128) :: rest) = (some n, rest) := by
  unfold Nat.isValidChar at hvalid
  have hb : (UInt8.ofNat (n / 262144 % 8 + 240)).toNat = n / 262144 % 8 + 240 := by
    rw [UInt8.toNat_ofNat']
    omega
  obtain ⟨low, high, hlead, hl, hh⟩ := Lead.of?_four (b := UInt8.ofNat (n / 262144 % 8 + 240))
    (by omega) (by omega)
  rw [hb] at hlead hl hh
  rw [next_of_lead hlead, following_byte (by omega) (by split at hl <;> omega)
    (by split at hh <;> omega), following_next (by omega), following_next (by omega), following]
  congr 2
  omega

end Characters

theorem decode_of_next {b : UInt8} {bs rest : List UInt8} {c : Char}
    (h : next b bs = (some c.toNat, rest)) : decode (b :: bs) = c :: decode rest := by
  rw [decode, h, Option.elim_some, Char.ofNat_toNat]

theorem decode_utf8EncodeChar_append (c : Char) (rest : List UInt8) :
    decode (String.utf8EncodeChar c ++ rest) = c :: decode rest := by
  have hvalid : c.toNat.isValidChar := c.valid
  unfold String.utf8EncodeChar
  dsimp only
  split
  · next h => exact decode_of_next (next_one rest h)
  · split
    · next hlow hhigh => exact decode_of_next (next_two rest (by omega) hhigh)
    · split
      · next hlow hhigh => exact decode_of_next (next_three rest (by omega) hhigh hvalid)
      · next hlow => exact decode_of_next (next_four rest (by omega) hvalid)

theorem decode_encode_append (cs : List Char) (rest : List UInt8) :
    decode (encode cs ++ rest) = cs ++ decode rest := by
  induction cs with
  | nil => rfl
  | cons c cs ih =>
    rw [encode, List.flatMap_cons, List.append_assoc, decode_utf8EncodeChar_append]
    exact congrArg (c :: ·) ih

theorem decode_encode (cs : List Char) : decode (encode cs) = cs := by
  have h := decode_encode_append cs []
  rwa [List.append_nil, decode, List.append_nil] at h

end MailWindow.Utf8
