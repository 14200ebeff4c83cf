/-
  Moments by a pattern, in English. A percent sign opens a directive: flags, a width, a modifier and
  the letter of a part of the date or the time. All else stands for itself, and so does a directive
  without a meaning.
-/
import RecordCalc.Calendar.Moment
import RecordCalc.Text.Case

namespace RecordCalc.Calendar

/-! ## Directives -/

/-- What fills a part up to its width. -/
inductive Fill
  | usual | spaces | nothing | zeros
deriving DecidableEq, Repr

/-- A modifier asks for another calendar or for other digits; English has neither. -/
inductive Modifier
  | era | digits
deriving DecidableEq, Repr

/-- How a directive lays out its part. -/
structure PartLayout where
  fill : Fill := .usual
  capitals : Bool := false
  otherCase : Bool := false
  width : Nat := 0
  modifier : Option Modifier := none
deriving DecidableEq, Repr

/-- A piece of a pattern. -/
inductive PatternPiece
  | char (c : Char)
  /-- A directive: its layout, its letter unless the pattern ends before it, and the characters that
  it is written with, of which only the last counts when that is another percent sign. -/
  | directive (layout : PartLayout) (letter : Option Char) (written : List Char)
deriving DecidableEq, Repr

namespace PartLayout

/-- Adds a flag, none when the character is no flag. -/
def addFlag? (l : PartLayout) (c : Char) : Option PartLayout :=
  if c == '_' then some { l with fill := .spaces }
  else if c == '-' then some { l with fill := .nothing }
  else if c == '0' then some { l with fill := .zeros }
  else if c == '^' then some { l with capitals := true }
  else if c == '#' then some { l with otherCase := true }
  else none

/-- Flags and what follows them. -/
def scanFlags (l : PartLayout) : List Char → PartLayout × List Char
  | [] => (l, [])
  | c :: cs =>
    match l.addFlag? c with
    | some l => l.scanFlags cs
    | none => (l, c :: cs)

/-- A modifier and what follows it. -/
def scanModifier : List Char → Option Modifier × List Char
  | 'E' :: cs => (some .era, cs)
  | 'O' :: cs => (some .digits, cs)
  | cs => (none, cs)

/-- The layout in front of a letter, and what follows it. -/
def scan (cs : List Char) : PartLayout × List Char :=
  let (l, cs) := scanFlags {} cs
  let width := (cs.takeWhile Char.isDigit).foldl (fun n d => 10 * n + (d.toNat - '0'.toNat)) 0
  let (modifier, cs) := scanModifier (cs.dropWhile Char.isDigit)
  ({ l with width := width, modifier := modifier }, cs)

theorem length_scanFlags_le (l : PartLayout) (cs : List Char) :
    (l.scanFlags cs).2.length ≤ cs.length := by
  induction cs generalizing l with
  | nil => simp [scanFlags]
  | cons c cs ih =>
    unfold scanFlags
    split
    · exact Nat.le_trans (ih _) (Nat.le_succ _)
    · exact Nat.le_refl _

theorem length_scanModifier_le (cs : List Char) : (scanModifier cs).2.length ≤ cs.length := by
  unfold scanModifier
  split <;> simp

theorem length_scan_le (cs : List Char) : (scan cs).2.length ≤ cs.length :=
  Nat.le_trans (length_scanModifier_le _)
    (Nat.le_trans (List.dropWhile_suffix _).length_le (length_scanFlags_le _ _))

/-- A text in the letter case that the layout asks for. -/
def cased (l : PartLayout) (cs : List Char) : List Char :=
  if l.capitals then cs.map Text.capital else cs

/-- A text filled up to the width. -/
def filled (l : PartLayout) (cs : List Char) : List Char :=
  List.replicate (l.width - cs.length) (if l.fill = .zeros then '0' else ' ') ++ cs

/-- A number with at least some digits, filled up to the width with zeros behind its sign unless
another filling is asked for. -/
def number (l : PartLayout) (digits : Nat) (n : Int) : List Char :=
  let sign := if n < 0 then ['-'] else []
  let body := Nat.toDigits 10 n.natAbs
  let missing := max digits l.width - (sign.length + body.length)
  match l.fill with
  | .nothing => l.filled (sign ++ body)
  | .spaces => List.replicate missing ' ' ++ sign ++ body
  | .usual | .zeros => sign ++ List.replicate missing '0' ++ body

/-- A number that spaces fill up unless another filling is asked for. -/
def spacedNumber (l : PartLayout) (digits : Nat) (n : Int) : List Char :=
  number (if l.fill = .usual then { l with fill := .spaces } else l) digits n

/-- A name, in capitals where another letter case is asked for. -/
def name (l : PartLayout) (s : String) : List Char :=
  l.filled (if l.otherCase then s.toList.map Char.toUpper else l.cased s.toList)

/-- An abbreviation in capitals, in small letters where another letter case is asked for. -/
def abbreviation (l : PartLayout) (s : String) : List Char :=
  l.filled (if l.otherCase then s.toList.map Char.toLower else l.cased s.toList)

/-- A text of several parts. -/
def group (l : PartLayout) (cs : List Char) : List Char := l.filled (l.cased cs)

end PartLayout

namespace PatternPiece

/-- The pieces of a pattern. -/
def ofChars : List Char → List PatternPiece
  | [] => []
  | c :: cs =>
    if c == '%' then
      match h : PartLayout.scan cs with
      | (l, []) => [directive l none ('%' :: cs)]
      | (l, letter :: rest) =>
        have : rest.length < cs.length + 1 := by
          have := PartLayout.length_scan_le cs
          rw [h] at this
          simp only [List.length_cons] at this
          omega
        let written := if letter == '%' then [] else cs.take (cs.length - rest.length)
        directive l (some letter) ('%' :: written) :: ofChars rest
    else char c :: ofChars cs
termination_by cs => cs.length

/-- The width that a piece asks for. -/
def width : PatternPiece → Nat
  | char _ => 0
  | directive l _ _ => l.width

end PatternPiece

/-! ## Parts -/

/-- The names of the days of the week, Monday first. -/
def dayNames : List String :=
  ["Monday", "Tuesday", "Wednesday", "Thursday", "Friday", "Saturday", "Sunday"]

/-- The names of the months. -/
def monthNames : List String :=
  ["January", "February", "March", "April", "May", "June", "July", "August", "September", "October",
    "November", "December"]

/-- The first three letters of a name. -/
def shortName (s : String) : String := String.ofList (s.toList.take 3)

namespace Moment

/-- The name of the day of the week. -/
def dayName (m : Moment) : String := dayNames.getD m.weekday ""

/-- The name of the month. -/
def monthName (m : Moment) : String := monthNames.getD (m.month - 1) ""

/-- The half of the day. -/
def half (m : Moment) : String := if m.hour < 12 then "AM" else "PM"

/-- The year that the week belongs to, counted in 32 bits with a sign. -/
def weekYear (m : Moment) : Int := Int.bmod (m.year + m.isoWeek.2) (Nat.pow 2 32)

/-- A part that is a single number or word, none when the letter stands for nothing. -/
def simplePart? (m : Moment) (l : PartLayout) : Char → Option (List Char)
  | 'a' => some (l.name (shortName m.dayName))
  | 'A' => some (l.name m.dayName)
  | 'b' | 'h' => some (l.name (shortName m.monthName))
  | 'B' => some (l.name m.monthName)
  | 'C' => some (l.number 1 (Int.fdiv m.year 100))
  | 'd' => some (l.number 2 m.day)
  | 'e' => some (l.spacedNumber 2 m.day)
  | 'g' => some (l.number 2 (Int.fmod m.weekYear 100))
  | 'G' => some (l.number 1 m.weekYear)
  | 'H' => some (l.number 2 m.hour)
  | 'I' => some (l.number 2 m.faceHour)
  | 'j' => some (l.number 3 m.yearDay)
  | 'k' => some (l.spacedNumber 2 m.hour)
  | 'l' => some (l.spacedNumber 2 m.faceHour)
  | 'm' => some (l.number 2 m.month)
  | 'M' => some (l.number 2 m.minute)
  | 'n' => some (l.filled ['\n'])
  | 'p' => some (l.abbreviation m.half)
  | 'P' => some (({ l with otherCase := true } : PartLayout).abbreviation m.half)
  | 's' => some (l.filled (toString m.seconds).toList)
  | 'S' => some (l.number 2 m.second)
  | 't' => some (l.filled ['\t'])
  | 'u' => some (l.number 1 (m.weekday + 1))
  | 'U' => some (l.number 2 (m.weekFrom ((m.weekday + 1) % 7)))
  | 'V' => some (l.number 2 m.isoWeek.1)
  | 'w' => some (l.number 1 ((m.weekday + 1) % 7 : Nat))
  | 'W' => some (l.number 2 (m.weekFrom m.weekday))
  | 'y' => some (l.number 2 (Int.fmod m.year 100))
  | 'Y' => some (l.number 1 m.year)
  | 'z' => some (l.filled ['+'] ++ l.number 4 0)
  | 'Z' => some (l.abbreviation "UTC")
  | '%' => some (l.filled ['%'])
  | _ => none

/-- The pattern that a letter is short for. -/
def longForm? : Char → Option String
  | 'c' => some "%a %b %e %H:%M:%S %Y"
  | 'D' | 'x' => some "%m/%d/%y"
  | 'F' => some "%Y-%m-%d"
  | 'r' => some "%I:%M:%S %p"
  | 'R' => some "%H:%M"
  | 'T' | 'X' => some "%H:%M:%S"
  | _ => none

/-- A pattern of plain directives for simple parts. -/
def simpleParts (m : Moment) : List Char → List Char
  | '%' :: letter :: cs => (m.simplePart? {} letter).getD [] ++ simpleParts m cs
  | c :: cs => c :: simpleParts m cs
  | [] => []

/-- The letters that no modifier may precede. -/
def unmodified : List Char := ['%', 'a', 'A', 'D', 'F']

/-- The letters that the modifier for another calendar may not precede. -/
def withoutEra : List Char :=
  ['b', 'h', 'B', 'd', 'e', 'H', 'I', 'j', 'k', 'l', 'm', 'M', 'S', 'U', 'V', 'g', 'G', 'W', 'w']

/-- The letters that the modifier for other digits may not precede. -/
def withoutDigits : List Char := ['c', 'x', 'X', 'Y']

/-- Whether a modifier may precede a letter. -/
def allows (letter : Char) : Option Modifier → Bool
  | none => true
  | some .era => !unmodified.contains letter && !withoutEra.contains letter
  | some .digits => !unmodified.contains letter && !withoutDigits.contains letter

/-- What a letter stands for, none when it stands for nothing. -/
def part? (m : Moment) (l : PartLayout) (letter : Char) : Option (List Char) :=
  if allows letter l.modifier then
    match longForm? letter with
    | some pattern => some (l.group (m.simpleParts pattern.toList))
    | none => m.simplePart? l letter
  else none

/-- A directive without a meaning, as it is written. Before the short name of a month another letter
case means capitals even so. -/
def unread (l : PartLayout) (letter : Option Char) (written : List Char) : List Char :=
  let isMonth := letter = some 'b' || letter = some 'h'
  ({ l with capitals := l.capitals || (l.otherCase && isMonth) } : PartLayout).group written

/-- What a piece of a pattern stands for. -/
def piece (m : Moment) : PatternPiece → List Char
  | .char c => [c]
  | .directive l letter written => (letter.bind (m.part? l)).getD (unread l letter written)

/-- The bound on the length of a text by a pattern of the given length: the first doubling of 1024
that leaves 256 characters to each character of the pattern. -/
def lengthLimit (length : Nat) : Nat :=
  if length ≤ 4 then 1024 else Nat.pow 2 ((256 * length - 1).log2 + 1)

/-- A moment by a pattern. A text that reaches the bound on its length is left out altogether. -/
def byPattern (m : Moment) (pattern : String) : String :=
  let limit := lengthLimit pattern.length
  let pieces := PatternPiece.ofChars pattern.toList
  if pieces.any (limit ≤ ·.width) then ""
  else
    let text := pieces.flatMap m.piece
    if limit ≤ text.length then "" else String.ofList text

end Moment

end RecordCalc.Calendar
