namespace MailWindow.LineEndings

def bareCount (bs : List UInt8) : Nat :=
  (bs.zip (0 :: bs)).countP fun p ↦ p.1 = 10 && p.2 ≠ 13

def insertReturns (previous : UInt8) : List UInt8 → List UInt8
  | [] => []
  | b :: bs =>
    if b = 10 && previous ≠ 13 then 13 :: b :: insertReturns b bs else b :: insertReturns b bs

/-- The text with every line feed after a carriage return; left alone if it is so already. -/
def toCrlf (bs : List UInt8) : List UInt8 := if bareCount bs = 0 then bs else insertReturns 0 bs

end MailWindow.LineEndings
