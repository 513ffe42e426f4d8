import ThingWorld.Text.Blank
import ThingWorld.Text.Numeral
namespace ThingWorld
namespace Calendar

def isLeap (year : Int) : Bool :=
  year % 4 == 0 && (year % 100 != 0 || year % 400 == 0)

def daysIn (year : Int) (month : Nat) : Nat :=
  if month == 2 then (if isLeap year then 29 else 28)
  else if month == 4 || month == 6 || month == 9 || month == 11 then 30
  else 31

def isDate (year : Int) (month day : Nat) : Bool :=
  1 ≤ month && month ≤ 12 && 1 ≤ day && day ≤ daysIn year month

-- The sixtieth second is a leap second.
def isTime (hour minute second : Nat) : Bool :=
  hour ≤ 23 && minute ≤ 59 && second ≤ 60

abbrev Reader (α : Type) := List Char → Option (α × List Char)

-- At least one digit and at most `width`.
def readDigits (width : Nat) : Reader Nat := fun cs =>
  let digits := (cs.take width).takeWhile Text.isDigit
  (Text.digits? digits).map fun n => (n, cs.drop digits.length)

def readField (width : Nat) : Reader Nat := fun cs =>
  readDigits width (Text.trimStart cs)

-- A year with a sign may have any number of digits.
def readYear : Reader Int := fun cs =>
  match Text.trimStart cs with
  | '-' :: r => (readDigits r.length r).map fun (n, r) => (-(n : Int), r)
  | '+' :: r => (readDigits r.length r).map fun (n, r) => ((n : Int), r)
  | r => (readDigits 4 r).map fun (n, r) => ((n : Int), r)

def readMark (mark : Char) : Reader Unit := fun cs =>
  match Text.trimStart cs with
  | c :: r => if c = mark then some ((), r) else none
  | [] => none

def firstYear : Int := -262143
def lastYear : Int := 262142

structure Date where
  year : Int
  month : Nat
  day : Nat
deriving DecidableEq, Repr

def isFirstDay (date : Date) : Bool := date == ⟨firstYear, 1, 1⟩

def isLastDay (date : Date) : Bool := date == ⟨lastYear, 12, 31⟩

def readDate : Reader Date := fun cs => do
  let (year, cs) ← readYear cs
  let (_, cs) ← readMark '-' cs
  let (month, cs) ← readField 2 cs
  let (_, cs) ← readMark '-' cs
  let (day, cs) ← readField 2 cs
  if firstYear ≤ year && year ≤ lastYear && isDate year month day then some (⟨year, month, day⟩, cs)
  else none

-- A point must be followed by digits.
def readFraction : Reader Unit
  | '.' :: r => (readDigits r.length r).map fun (_, r) => ((), r)
  | cs => some ((), cs)

-- A time of day, as the minutes before it.
def readTime : Reader Nat := fun cs => do
  let (hour, cs) ← readField 2 cs
  let (_, cs) ← readMark ':' cs
  let (minute, cs) ← readField 2 cs
  let (_, cs) ← readMark ':' cs
  let (second, cs) ← readField 2 cs
  let (_, cs) ← readFraction cs
  if isTime hour minute second then some (60 * hour + minute, cs) else none

def readSeparator : Reader Unit
  | c :: r => if c = 'T' || c = 't' || c = ' ' then some ((), r) else none
  | [] => none

def isSign (c : Char) : Bool := c == '+' || c == '-' || c == '−'

def readHoursMinutes : Reader Nat := fun cs => do
  let (hour, rest) ← readDigits 2 cs
  let tail := rest.dropWhile fun c => c == ':' || Text.isBlank c
  let (minute, end') ← readDigits 2 tail
  let full := cs.length - rest.length == 2 && tail.length - end'.length == 2
  if full && hour ≤ 23 && minute ≤ 59 then some (60 * hour + minute, end') else none

def isUtc (cs : List Char) : Bool :=
  cs == ['u', 't', 'c']

def readOffset : Reader Int := fun cs =>
  let cs := Text.trimStart cs
  if isUtc ((cs.take 3).map Char.toLower) then some (0, cs.drop 3)
  else
    match cs with
    | c :: r =>
      if c = 'Z' || c = 'z' then some (0, r)
      else if isSign c then
        (readHoursMinutes r).map fun (n, r) => (if c = '+' then (n : Int) else -(n : Int), r)
      else none
    | [] => none

-- Universal time may be on the day before or after the date; that day must be one that a date can have.
def hasUniversalDay (date : Date) (minute : Nat) (ahead : Int) : Bool :=
  let universal := (minute : Int) - ahead
  !(universal < 0 && isFirstDay date) && !(1440 ≤ universal && isLastDay date)

def isInstant (s : String) : Bool :=
  let read : Option (Bool × List Char) := do
    let (date, cs) ← readDate s.toList
    let (_, cs) ← readSeparator cs
    let (minute, cs) ← readTime cs
    let (ahead, cs) ← readOffset cs
    some (hasUniversalDay date minute ahead, cs)
  read.any fun (fits, cs) => fits && cs.all Text.isBlank

-- At least `width` digits.
def padded (width n : Nat) : String :=
  let digits := Text.showNat n
  String.ofList (List.replicate (width - digits.length) '0') ++ digits

-- Year, month and day of a day counted from the first of January 1970. A year is counted from March, so that a
-- leap day is the last of its year.
def civil (day : Nat) : Nat × Nat × Nat :=
  let z := day + 719468
  let era := z / 146097
  let ofEra := z % 146097
  let yearOfEra := (ofEra - ofEra / 1460 + ofEra / 36524 - ofEra / 146096) / 365
  let ofYear := ofEra - (365 * yearOfEra + yearOfEra / 4 - yearOfEra / 100)
  let shifted := (5 * ofYear + 2) / 153
  let month := if shifted < 10 then shifted + 3 else shifted - 9
  let year := yearOfEra + era * 400
  (if month ≤ 2 then year + 1 else year, month, ofYear - (153 * shifted + 2) / 5 + 1)

def showInstant (seconds : Nat) : String :=
  let (year, month, day) := civil (seconds / 86400)
  let second := seconds % 86400
  String.join
    [padded 4 year, "-", padded 2 month, "-", padded 2 day, "T", padded 2 (second / 3600), ":",
     padded 2 (second / 60 % 60), ":", padded 2 (second % 60), "Z"]

end Calendar

structure Timestamp where
  text : String
  named : Calendar.isInstant text = true
deriving DecidableEq

namespace Timestamp

def ofText? (s : String) : Option Timestamp :=
  if named : Calendar.isInstant s = true then some ⟨s, named⟩ else none

def epoch : Timestamp := ⟨"1970-01-01T00:00:00Z", by decide +kernel⟩

def ofSeconds (seconds : Nat) : Timestamp :=
  (ofText? (Calendar.showInstant seconds)).getD epoch

end Timestamp
end ThingWorld
