namespace MailWindow.Word

def largest : UInt32 := 4294967295

def add? (a b : UInt32) : Option UInt32 :=
  if a.toNat + b.toNat < UInt32.size then some (a + b) else none

def addOrMax (a b : UInt32) : UInt32 := (add? a b).getD largest

def subOrZero (a b : UInt32) : UInt32 := if b ≤ a then a - b else 0

theorem toNat_pos {a : UInt32} (h : a ≠ 0) : 0 < a.toNat :=
  Nat.pos_of_ne_zero fun h' ↦ h (UInt32.toNat_inj.mp h')

theorem toNat_add_of_lt {a b : UInt32} (h : a.toNat + b.toNat < UInt32.size) :
    (a + b).toNat = a.toNat + b.toNat :=
  (UInt32.toNat_add a b).trans (Nat.mod_eq_of_lt h)

theorem toNat_of_add? {a b c : UInt32} (h : add? a b = some c) :
    c.toNat = a.toNat + b.toNat := by
  unfold add? at h
  split at h
  · next hlt =>
    obtain rfl := Option.some.inj h
    exact toNat_add_of_lt hlt
  · exact nomatch h

theorem size_le_of_add?_eq_none {a b : UInt32} (h : add? a b = none) :
    UInt32.size ≤ a.toNat + b.toNat := by
  unfold add? at h
  split at h
  · exact nomatch h
  · next hle => exact Nat.le_of_not_lt hle

theorem toNat_addOrMax (a b : UInt32) :
    (addOrMax a b).toNat = min (a.toNat + b.toNat) (UInt32.size - 1) := by
  unfold addOrMax add?
  split
  · next h =>
    rw [Option.getD_some, toNat_add_of_lt h]
    omega
  · next h =>
    rw [Option.getD_none, Nat.min_eq_right (by omega)]
    rfl

theorem toNat_subOrZero (a b : UInt32) : (subOrZero a b).toNat = a.toNat - b.toNat := by
  unfold subOrZero
  split
  · next h => exact UInt32.toNat_sub_of_le a b h
  · next h =>
    rw [UInt32.le_iff_toNat_le] at h
    rw [Nat.sub_eq_zero_of_le (by omega)]
    rfl

theorem toNat_min (a b : UInt32) : (min a b).toNat = min a.toNat b.toNat := by
  change (if a ≤ b then a else b).toNat = _
  split
  · next h => exact (Nat.min_eq_left (UInt32.le_iff_toNat_le.mp h)).symm
  · next h =>
    rw [UInt32.le_iff_toNat_le] at h
    exact (Nat.min_eq_right (by omega)).symm

end MailWindow.Word
