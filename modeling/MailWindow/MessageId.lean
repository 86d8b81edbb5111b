import MailWindow.Text.Decimal
import MailWindow.Word

namespace MailWindow

structure MessageId where
  val : UInt32
  deriving DecidableEq

namespace MessageId

instance : LE MessageId := ⟨fun a b ↦ a.val ≤ b.val⟩
instance : LT MessageId := ⟨fun a b ↦ a.val < b.val⟩
instance (a b : MessageId) : Decidable (a ≤ b) := inferInstanceAs (Decidable (a.val ≤ b.val))
instance (a b : MessageId) : Decidable (a < b) := inferInstanceAs (Decidable (a.val < b.val))

theorem le_iff_toNat {a b : MessageId} : a ≤ b ↔ a.val.toNat ≤ b.val.toNat :=
  UInt32.le_iff_toNat_le

theorem lt_iff_toNat {a b : MessageId} : a < b ↔ a.val.toNat < b.val.toNat :=
  UInt32.lt_iff_toNat_lt

theorem eq_iff_toNat {a b : MessageId} : a = b ↔ a.val.toNat = b.val.toNat := by
  cases a; cases b
  rw [mk.injEq, UInt32.toNat_inj]

theorem le_of_lt {a b : MessageId} (h : a < b) : a ≤ b :=
  le_iff_toNat.mpr (Nat.le_of_lt (lt_iff_toNat.mp h))

theorem lt_irrefl (a : MessageId) : ¬a < a := fun h ↦ Nat.lt_irrefl _ (lt_iff_toNat.mp h)

theorem ne_of_lt {a b : MessageId} (h : a < b) : a ≠ b := fun he ↦ lt_irrefl b (he ▸ h)

theorem lt_asymm {a b : MessageId} (h : a < b) : ¬b < a := fun h' ↦
  Nat.lt_asymm (lt_iff_toNat.mp h) (lt_iff_toNat.mp h')

theorem not_lt_of_le {a b : MessageId} (h : a ≤ b) : ¬b < a := fun h' ↦
  Nat.not_lt_of_le (le_iff_toNat.mp h) (lt_iff_toNat.mp h')

theorem le_trans {a b c : MessageId} (hab : a ≤ b) (hbc : b ≤ c) : a ≤ c :=
  le_iff_toNat.mpr (Nat.le_trans (le_iff_toNat.mp hab) (le_iff_toNat.mp hbc))

theorem le_total (a b : MessageId) : a ≤ b ∨ b ≤ a :=
  (Nat.le_total a.val.toNat b.val.toNat).imp le_iff_toNat.mpr le_iff_toNat.mpr

theorem le_antisymm (a b : MessageId) (hab : a ≤ b) (hba : b ≤ a) : a = b :=
  eq_iff_toNat.mpr (Nat.le_antisymm (le_iff_toNat.mp hab) (le_iff_toNat.mp hba))

theorem lt_of_le_of_ne {a b : MessageId} (hle : a ≤ b) (hne : a ≠ b) : a < b :=
  lt_iff_toNat.mpr (Nat.lt_of_le_of_ne (le_iff_toNat.mp hle) fun h ↦ hne (eq_iff_toNat.mpr h))

def top : MessageId := ⟨Word.largest⟩

def isTop (id : MessageId) : Bool := id = top

def add? (id : MessageId) (n : UInt32) : Option MessageId := (Word.add? id.val n).map mk

def addOrTop (id : MessageId) (n : UInt32) : MessageId := ⟨Word.addOrMax id.val n⟩

theorem toNat_top : top.val.toNat = UInt32.size - 1 := rfl

theorem eq_top_of_le {id : MessageId} (h : top ≤ id) : id = top := by
  have hlt := id.val.toNat_lt_size
  rw [le_iff_toNat, toNat_top] at h
  rw [eq_iff_toNat, toNat_top]
  omega

theorem toNat_addOrTop (id : MessageId) (n : UInt32) :
    (id.addOrTop n).val.toNat = min (id.val.toNat + n.toNat) (UInt32.size - 1) :=
  Word.toNat_addOrMax id.val n

def text (id : MessageId) : List Char := Decimal.digits id.val.toNat

end MessageId

end MailWindow
