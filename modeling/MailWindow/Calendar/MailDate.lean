import MailWindow.Calendar.Instant
import MailWindow.Text.Letters
import MailWindow.Text.Scanner

namespace MailWindow.MailDate

open Text Scanner

def blanks : Scanner Unit := modify trimStart

def someBlanks : Scanner Unit := fun cs ↦
  if (cs.head?).any Character.isBlank then some ((), trimStart cs) else none

/-- As many digits as there are, but at most `most`; their number and their value. -/
def digits (least : Nat) (most : Option Nat) : Scanner (Nat × Nat) := fun cs ↦
  let ds := (most.elim cs cs.take).takeWhile Char.isDigit
  if least ≤ ds.length then some ((ds.length, valueOf ds), cs.drop ds.length) else none

def number (least low high : Nat) : Scanner Nat := do
  let (_, n) ← digits least (some 2)
  if low ≤ n && n ≤ high then pure n else failure

def name (names : List String) : Scanner Nat := fun cs ↦
  (names.findIdx? fun n ↦ eqIgnoringAsciiCase n.toList (cs.take 3)).map (·, cs.drop 3)

def weekday : Scanner (Option Nat) := fun cs ↦
  match name Calendar.weekdayNames cs with
  | none => some (none, cs)
  | some (w, rest) => (mark ',' rest).map fun p ↦ (some w, p.2)

/-- Years of two digits lie between 1950 and 2049; of three, they count from 1900. -/
def fullYear (length n : Nat) : Nat :=
  if length = 2 then (if n ≤ 49 then n + 2000 else n + 1900)
  else if length = 3 then n + 1900
  else n

def lastYear : Nat := 262142

def year : Scanner Nat := do
  let (length, n) ← digits 2 none
  if n ≤ lastYear then pure (fullYear length n) else failure

def zoneNames : List (String × Int) :=
  [("gmt", 0), ("ut", 0), ("z", 0), ("edt", -4), ("est", -5), ("cdt", -5), ("cst", -6), ("mdt", -6),
    ("mst", -7), ("pdt", -7), ("pst", -8)]

/-- Hours from universal time; single letters but `j` are military zones, which mean nothing. -/
def zoneHours (letters : List Char) : Option Int :=
  match zoneNames.find? fun z ↦ eqIgnoringAsciiCase z.1.toList letters with
  | some z => some z.2
  | none => if letters.length = 1 && letters ≠ ['j'] && letters ≠ ['J'] then some 0 else none

def offset : Scanner Int := do
  let sign : Int ← (mark '+' *> pure 1) <|> (mark '-' *> pure (-1))
  let (_, hours) ← digits 2 (some 2)
  let minutes ← number 2 0 59
  pure (sign * (hours * 3600 + minutes * 60))

def zone : Scanner Int := fun cs ↦
  let letters := cs.takeWhile Char.isAlpha
  if letters.isEmpty then offset cs
  else (zoneHours letters).map fun h ↦ (h * 3600, cs.drop letters.length)

/-- What follows a comment whose opening parentheses are counted; a backslash takes the next
character with it. -/
def afterComment? : Nat → List Char → Option (List Char)
  | 0, cs => some cs
  | _, [] => none
  | depth + 1, '\\' :: _ :: cs => afterComment? (depth + 1) cs
  | depth + 1, '(' :: cs => afterComment? (depth + 2) cs
  | depth + 1, ')' :: cs => afterComment? depth cs
  | depth + 1, _ :: cs => afterComment? (depth + 1) cs

theorem length_afterComment? {depth : Nat} {cs rest : List Char}
    (h : afterComment? depth cs = some rest) : rest.length ≤ cs.length := by
  fun_induction afterComment? depth cs with
  | case1 => simp_all
  | case2 => simp at h
  | _ => simp only [List.length_cons]; grind

def onlyComments (cs : List Char) : Bool :=
  match _opening : trimStart cs with
  | '(' :: inner =>
    match _closing : afterComment? 1 inner with
    | some rest => onlyComments rest
    | none => false
  | _ => cs.isEmpty
termination_by cs.length
decreasing_by
  have h₁ := length_afterComment? _closing
  have h₂ : (trimStart cs).length ≤ cs.length := (List.dropWhile_sublist _).length_le
  rw [_opening, List.length_cons] at h₂
  omega

structure Fields where
  weekday : Option Nat
  date : Date
  hour : Nat
  minute : Nat
  second : Nat
  offset : Int

def fields : Scanner Fields := do
  blanks
  let weekday ← weekday
  blanks
  let day ← number 1 1 31
  someBlanks
  let month ← name Calendar.monthNames
  someBlanks
  let year ← year
  let some date := Date.of? year (month + 1) day | failure
  someBlanks
  let hour ← number 2 0 23
  blanks
  mark ':'
  blanks
  let minute ← number 2 0 59
  let second ← (blanks *> mark ':' *> number 2 0 60) <|> pure 0
  someBlanks
  pure { weekday, date, hour, minute, second, offset := ← zone }

/-- The moment that a date field names. Second 60 is a leap second; a weekday has to be the right
one, an offset less than a day, and the moment has to lie in the calendar. -/
def parse? (s : List Char) : Option Instant := do
  let (f, rest) ← fields s
  guard (onlyComments rest)
  guard (f.weekday.all (· = Calendar.weekday f.date.number))
  guard (f.offset.natAbs < 86400)
  let clock := f.hour * 3600 + f.minute * 60 + min f.second 59
  let t : Instant :=
    { seconds := f.date.number * 86400 + clock - f.offset, isLeapSecond := f.second = 60 }
  guard ((Calendar.ofDayNumber t.day).1 ≤ lastYear)
  pure t

end MailWindow.MailDate
