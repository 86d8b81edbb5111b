namespace MailWindow

structure IndexRange where
  start : UInt32
  stop : UInt32
  start_le_stop : start ≤ stop
  deriving DecidableEq

namespace IndexRange

def of? (start stop : UInt32) : Option IndexRange :=
  if h : start ≤ stop then some ⟨start, stop, h⟩ else none

def contains (r : IndexRange) (i : UInt32) : Bool := r.start ≤ i && i ≤ r.stop

def size (r : IndexRange) : Nat := r.stop.toNat - r.start.toNat + 1

def first (r : IndexRange) (n : Nat) : List UInt32 :=
  (List.range (min n r.size)).map fun i ↦ r.start + UInt32.ofNat i

def last (r : IndexRange) (n : Nat) : List UInt32 :=
  (List.range (min n r.size)).map fun i ↦ r.stop - UInt32.ofNat i

def toList (r : IndexRange) : List UInt32 := r.first r.size

def text (r : IndexRange) : String :=
  "[" ++ toString r.start.toNat ++ "," ++ toString r.stop.toNat ++ "]"

variable (r : IndexRange)

theorem start_add_lt_size {i : Nat} (hi : i < r.size) : r.start.toNat + i < UInt32.size := by
  have hle := UInt32.le_iff_toNat_le.mp r.start_le_stop
  have hlt := r.stop.toNat_lt_size
  rw [size] at hi
  omega

theorem toList_eq : r.toList = (List.range r.size).map fun i ↦ .ofNat (r.start.toNat + i) := by
  rw [toList, first, Nat.min_self]
  apply List.map_congr_left
  intro i _
  rw [UInt32.ofNat_add, UInt32.ofNat_toNat]

theorem toNat_toList : r.toList.map UInt32.toNat = List.range' r.start.toNat r.size := by
  rw [toList_eq, List.map_map, List.range'_eq_map_range]
  apply List.map_congr_left
  intro i hi
  exact UInt32.toNat_ofNat_of_lt' (r.start_add_lt_size (List.mem_range.mp hi))

theorem pairwise_toList : r.toList.Pairwise (· < ·) := by
  have hsorted : (r.toList.map UInt32.toNat).Pairwise (· < ·) := by
    rw [toNat_toList]
    exact List.pairwise_lt_range'
  exact (List.pairwise_map.mp hsorted).imp UInt32.lt_iff_toNat_lt.mpr

end IndexRange

end MailWindow
