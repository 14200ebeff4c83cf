/-
  Reading dates and datetimes from text: three patterns of year, month and day, whose digits may be
  of any script, and the ISO 8601 forms, whose digits are ASCII. Of the ISO forms a calendar or week
  date is read, with or without hyphens, and after one separating character a time with or without
  colons, a fraction and an offset.
-/
import RecordCalc.Calendar.DateTime
import RecordCalc.Text.Digit
import RecordCalc.Text.Search

namespace RecordCalc.Calendar

/-! ## Patterns of year, month and day -/

/-- Four digits and what follows. -/
def readYear : List Char → Option (Nat × List Char)
  | a :: b :: c :: d :: rest =>
    if [a, b, c, d].all Text.isDigit then some (Text.digitsValue [a, b, c, d], rest) else none
  | _ => none

/-- The ways to read a month at the front of a text, the preferred one first. -/
def monthReadings : List Char → List (Nat × List Char)
  | '1' :: '0' :: rest => [(10, rest), (1, '0' :: rest)]
  | '1' :: '1' :: rest => [(11, rest), (1, '1' :: rest)]
  | '1' :: '2' :: rest => [(12, rest), (1, '2' :: rest)]
  | '0' :: c :: rest => if '1' ≤ c && c ≤ '9' then [(c.toNat - 48, rest)] else []
  | c :: rest => if '1' ≤ c && c ≤ '9' then [(c.toNat - 48, rest)] else []
  | [] => []

/-- A digit from 1 to 9 alone. -/
def loneDay : List Char → List (Nat × List Char)
  | c :: rest => if '1' ≤ c && c ≤ '9' then [(c.toNat - 48, rest)] else []
  | [] => []

/-- The ways to read a day at the front of a text, the preferred one first. -/
def dayReadings (cs : List Char) : List (Nat × List Char) :=
  match cs with
  | '3' :: '0' :: rest => (30, rest) :: loneDay cs
  | '3' :: '1' :: rest => (31, rest) :: loneDay cs
  | '0' :: c :: rest => loneDay (c :: rest)
  | ' ' :: c :: rest => loneDay (c :: rest)
  | a :: b :: rest =>
    if (a == '1' || a == '2') && Text.isDigit b then
      (Text.digitsValue [a, b], rest) :: loneDay cs
    else loneDay cs
  | _ => loneDay cs

/-- The first reading that the given character follows, without that character. -/
def followedBy (c : Char) (readings : List (Nat × List Char)) : Option (Nat × List Char) :=
  readings.findSome? fun
    | (n, d :: rest) => if d == c then some (n, rest) else none
    | _ => none

/-- Year, month and day, with the same character between them. -/
def readYearFirst? (separator : Char) (cs : List Char) : Option Date := do
  let (year, rest) ← followedBy separator (readYear cs).toList
  let (month, rest) ← followedBy separator (monthReadings rest)
  match dayReadings rest with
  | (day, []) :: _ => Date.ofYmd? year month day
  | _ => none

/-- Month, day and year, with slashes between them. -/
def readMonthFirst? (cs : List Char) : Option Date := do
  let (month, rest) ← followedBy '/' (monthReadings cs)
  let (day, rest) ← followedBy '/' (dayReadings rest)
  match readYear rest with
  | some (year, []) => Date.ofYmd? year month day
  | _ => none

/-- A date in one of the three patterns. -/
def Date.read? (s : String) : Option Date :=
  let cs := s.toList
  readYearFirst? '-' cs <|> readMonthFirst? cs <|> readYearFirst? '/' cs

/-! ## ISO forms -/

/-- The number of exactly `count` ASCII digits at the front of a text, after the digits of
`value`. -/
def readDigits (value : Nat) : (count : Nat) → List Char → Option (Nat × List Char)
  | 0, cs => some (value, cs)
  | n + 1, c :: cs => if c.isDigit then readDigits (10 * value + (c.toNat - 48)) n cs else none
  | _ + 1, [] => none

/-- How many characters the date in front of an ISO form takes; a text of seven has nothing else. -/
def isoDateLength (cs : List Char) : Nat :=
  if cs.length = 7 then 7
  else if cs[4]? = some '-' then
    if cs[5]? = some 'W' && cs[8]? != some '-' then 8
    else if cs[5]? = some 'W' && ((cs[10]?).map Char.isDigit).getD false then 8
    else 10
  else if cs[4]? = some 'W' then
    let digits := ((cs.drop 7).takeWhile Char.isDigit).length
    if digits < 2 then 7 + digits else if digits % 2 = 1 then 7 else 8
  else 8

/-- The week and day of a week date of the given length; without a day it is Monday. -/
def readIsoWeek? (year : Nat) (hyphens : Bool) (hasDay : Bool) (cs : List Char) : Option Date := do
  let (week, rest) ← readDigits 0 2 cs
  if hasDay then
    let rest ← if hyphens then dropHyphen rest else some rest
    let (day, _) ← readDigits 0 1 rest
    Date.ofWeek? year week day
  else Date.ofWeek? year week 1
where
  /-- What follows a hyphen. -/
  dropHyphen : List Char → Option (List Char)
    | '-' :: rest => some rest
    | _ => none

/-- The date of an ISO form, in its first `length` characters. -/
def readIsoDate? (cs : List Char) (length : Nat) : Option Date := do
  let (year, rest) ← readDigits 0 4 cs
  let hyphens := rest.head? == some '-'
  let rest := if hyphens then rest.drop 1 else rest
  match rest with
  | 'W' :: rest => readIsoWeek? year hyphens (7 + (if hyphens then 1 else 0) < length) rest
  | _ =>
    let (month, rest) ← readDigits 0 2 rest
    let rest ← if hyphens then readIsoWeek?.dropHyphen rest else some rest
    let (day, _) ← readDigits 0 2 rest
    Date.ofYmd? year month day

/-- A date in an ISO form, whose length in bytes has to be that of some form. -/
def Date.ofIso? (s : String) : Option Date :=
  if [7, 8, 10].contains s.utf8ByteSize then readIsoDate? s.toList s.utf8ByteSize else none

/-- The parts of a time as read, and whether the reading ended where the text ends. -/
structure ClockReading where
  hour : Nat
  minute : Nat
  second : Nat
  micro : Nat
  complete : Bool

/-- Whether a text ends here: nothing follows, or a null character. -/
def atEnd : List Char → Bool
  | [] => true
  | c :: _ => c == '\x00'

/-- Up to six digits of a fraction of a second, in microseconds, and what follows all its digits. -/
def readFraction (cs : List Char) : Option (Nat × Bool) := do
  let count := min 6 cs.length
  let (n, rest) ← readDigits 0 count cs
  return (n * Nat.pow 10 (6 - count), atEnd (rest.dropWhile Char.isDigit))

/--
Hours, minutes and seconds, each of two digits, with colons throughout or nowhere. `parts` are those
read so far. A mark after any of them starts the fraction of a second; after the seconds a colon
does too, and without colons nothing need mark it. One ASCII character after the last part leaves
the reading incomplete.
-/
def readClock (colons : Bool) (parts : List Nat) : (left : Nat) → List Char → Option ClockReading
  | 0, cs => withFraction parts cs
  | left + 1, cs => do
    let (n, rest) ← readDigits 0 2 cs
    let parts := parts ++ [n]
    let colons := if parts.length = 1 then rest.head? == some ':' else colons
    match rest with
    | [] => ofParts parts 0 true
    | c :: after =>
      if after.isEmpty && c.toNat < 128 then ofParts parts 0 (c == '\x00')
      else if colons && c == ':' then readClock colons parts left after
      else if c == '.' || c == ',' then withFraction parts after
      else if colons then none
      else readClock colons parts left rest
where
  /-- A reading of the given parts. -/
  ofParts (parts : List Nat) (micro : Nat) (complete : Bool) : Option ClockReading :=
    some ⟨parts.getD 0 0, parts.getD 1 0, parts.getD 2 0, micro, complete⟩
  /-- A reading that ends with a fraction. -/
  withFraction (parts : List Nat) (cs : List Char) : Option ClockReading :=
    (readFraction cs).bind fun (micro, complete) => ofParts parts micro complete

/-- The time of the day of a reading. -/
def ClockReading.toClock? (r : ClockReading) : Option Clock :=
  Clock.ofHms? r.hour r.minute r.second r.micro

/-- The offset of a reading; one of no whole second is universal time. -/
def ClockReading.toOffset? (r : ClockReading) (negative : Bool) : Option Offset :=
  let seconds := (r.hour * 60 + r.minute) * 60 + r.second
  if seconds = 0 then some .utc
  else Offset.ofMicros? (Binary64.signed negative (seconds * secondMicros + r.micro))

/-- A time of the day with or without an offset, which starts at the first sign. -/
def readIsoTime? (cs : List Char) : Option (Clock × Option Offset) := do
  let isSign := fun c => c == '+' || c == '-'
  let time ← readClock false [] 3 (cs.takeWhile (!isSign ·))
  let clock ← time.toClock?
  match cs.dropWhile (!isSign ·) with
  | [] => if time.complete then return (clock, none) else none
  | sign :: rest =>
    let offset ← readClock false [] 3 rest
    if offset.complete then return (clock, some (← offset.toOffset? (sign == '-'))) else none

/-- A datetime in an ISO form; without a time it is midnight. -/
def DateTime.ofIso? (s : String) : Option DateTime := do
  let cs := s.toList
  if cs.length < 7 then none
  let length := isoDateLength cs
  let date ← readIsoDate? cs length
  match cs.drop length with
  | [] => return ⟨date, .midnight, none⟩
  | _ :: rest =>
    let (clock, offset) ← readIsoTime? rest
    return ⟨date, clock, offset⟩

/-- A datetime in an ISO form in which every capital Z stands for universal time. -/
def DateTime.readIso? (s : String) : Option DateTime :=
  DateTime.ofIso? (String.ofList (Text.replace ['Z'] "+00:00".toList none s.toList))

end RecordCalc.Calendar
