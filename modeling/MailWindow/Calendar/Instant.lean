import MailWindow.Calendar.Date

namespace MailWindow

/-- Seconds since the start of 1970. A leap second has the number of the second before it. -/
structure Instant where
  seconds : Int
  isLeapSecond : Bool := false
  deriving DecidableEq

namespace Instant

def day (t : Instant) : Int := t.seconds / 86400

def secondOfDay (t : Instant) : Nat := (t.seconds % 86400).toNat

def noon (d : Date) : Instant := { seconds := d.number * 86400 + 43200 }

/-- `hh:mm:ss`; a leap second counts on past the second before it. -/
def clockText (t : Instant) : List Char :=
  let s := t.secondOfDay
  Decimal.padded 2 (s / 3600) ++ ':' :: Decimal.padded 2 (s / 60 % 60) ++
    ':' :: Decimal.padded 2 (s % 60 + if t.isLeapSecond then 1 else 0)

def timestamp (t : Instant) : String :=
  let (year, month, day) := Calendar.ofDayNumber t.day
  .ofList (Calendar.yearText year ++ '-' :: Decimal.padded 2 month ++ '-' :: Decimal.padded 2 day ++
    'T' :: t.clockText ++ "+00:00".toList)

def dateField (t : Instant) : String :=
  let (year, month, day) := Calendar.ofDayNumber t.day
  .ofList ((Calendar.weekdayNames.getD (Calendar.weekday t.day) "").toList ++ ", ".toList ++
    Decimal.digits day ++ ' ' :: Calendar.monthName month ++ ' ' :: Calendar.yearText year ++
    ' ' :: t.clockText ++ " +0000".toList)

end Instant

end MailWindow
