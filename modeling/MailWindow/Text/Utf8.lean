namespace MailWindow.Utf8

def replacement : Char := Char.ofNat 0xFFFD

def encode (cs : List Char) : List UInt8 := cs.flatMap String.utf8EncodeChar

/-- What a first byte announces: how many bytes follow, between which bounds the next of them lies,
and the bits of the first byte. -/
structure Lead where
  following : Nat
  low : UInt8
  high : UInt8
  bits : Nat

/-- The bounds on the second byte leave out overlong forms, surrogates and numbers past the last
character. -/
def Lead.of? (b : UInt8) : Option Lead :=
  if b < 0x80 then some ⟨0, 0x80, 0xBF, b.toNat⟩
  else if b < 0xC2 then none
  else if b < 0xE0 then some ⟨1, 0x80, 0xBF, b.toNat - 0xC0⟩
  else if b < 0xF0 then
    some ⟨2, if b = 0xE0 then 0xA0 else 0x80, if b = 0xED then 0x9F else 0xBF, b.toNat - 0xE0⟩
  else if b < 0xF5 then
    some ⟨3, if b = 0xF0 then 0x90 else 0x80, if b = 0xF4 then 0x8F else 0xBF, b.toNat - 0xF0⟩
  else none

/-- Reads the bytes that follow a first one: the number they make, or none where one is missing or
out of bounds, and the bytes not read. -/
def following : Nat → UInt8 → UInt8 → Nat → List UInt8 → Option Nat × List UInt8
  | 0, _, _, acc, bs => (some acc, bs)
  | _ + 1, _, _, _, [] => (none, [])
  | n + 1, low, high, acc, b :: bs =>
    if low ≤ b && b ≤ high then following n 0x80 0xBF (acc * 64 + b.toNat % 64) bs
    else (none, b :: bs)

theorem length_following_le (n : Nat) (low high : UInt8) (acc : Nat) (bs : List UInt8) :
    (following n low high acc bs).2.length ≤ bs.length := by
  induction bs generalizing n low high acc with
  | nil => cases n <;> simp [following]
  | cons b bs ih =>
    cases n with
    | zero => simp [following]
    | succ n =>
      simp only [following]
      split
      · exact Nat.le_succ_of_le (ih ..)
      · simp

def next (b : UInt8) (bs : List UInt8) : Option Nat × List UInt8 :=
  match Lead.of? b with
  | none => (none, bs)
  | some l => following l.following l.low l.high l.bits bs

theorem length_next_le (b : UInt8) (bs : List UInt8) : (next b bs).2.length ≤ bs.length := by
  unfold next
  split
  · exact Nat.le_refl _
  · exact length_following_le ..

/-- Never fails: each start of a character that is cut short or goes wrong is one replacement
character. -/
def decode : List UInt8 → List Char
  | [] => []
  | b :: bs => (next b bs).1.elim replacement Char.ofNat :: decode (next b bs).2
termination_by bs => bs.length
decreasing_by exact Nat.lt_succ_of_le (length_next_le b bs)

def decode? (bs : List UInt8) : Option (List Char) :=
  let cs := decode bs
  if encode cs = bs then some cs else none

end MailWindow.Utf8
