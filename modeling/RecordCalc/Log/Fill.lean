/-
  Filling message templates. Directives take their arguments in order, or by key from a map; an
  argument list that is too short or too long is a fault, and so is a value that the conversion does
  not take.
-/
import RecordCalc.Log.Directive
import RecordCalc.Log.ErrorInfo
import RecordCalc.Number.Places
import RecordCalc.Value.Shown

namespace RecordCalc.Log

/-! ## Faults -/

/-- The fault of a value of the wrong sort. -/
def sortFault (text : String) : Fault := .declared .sort text

/-- The fault of a malformed template. -/
def templateFault (text : String) : Fault := .declared .value text

/-- The fault of a flawed directive. -/
def DirectiveFlaw.fault : DirectiveFlaw → Fault
  | openKey => templateFault "incomplete format key"
  | hugeWidth => templateFault "width too big"
  | hugePrecision => templateFault "precision too big"
  | cutOff => templateFault "incomplete format"

/-- The fault of a letter that is no conversion, shown as a question mark where it has no glyph. -/
def unsupported (c : Char) (place : Nat) : Fault :=
  let glyph := if 31 ≤ c.toNat && c.toNat < 127 then String.ofList [c] else "?"
  templateFault ("unsupported format character '" ++ glyph ++ "' (0x" ++
    String.ofList (Nat.toDigits 16 c.toNat) ++ ") at index " ++ toString place)

/-! ## Laying out -/

/-- A converted argument: a sign, the mark of its base, and its other characters. -/
structure Converted where
  sign : List Char := []
  mark : List Char := []
  body : List Char

/-- A converted argument in a width: to the left, or to the right after zeros or spaces. -/
def Converted.layOut (c : Converted) (flags : Flags) (zeros : Bool) (width : Nat) :
    Except Fault (List Char) := do
  if Fault.roomLimit < width then throw .outOfMemory
  let missing := width - (c.sign.length + c.mark.length + c.body.length)
  if flags.left then return c.sign ++ c.mark ++ c.body ++ List.replicate missing ' '
  else if zeros then return c.sign ++ c.mark ++ List.replicate missing '0' ++ c.body
  else return List.replicate missing ' ' ++ c.sign ++ c.mark ++ c.body

/-- The sign of a number that is negative or not. -/
def signFor (flags : Flags) (negative : Bool) : List Char :=
  if negative then ['-'] else if flags.plus then ['+'] else if flags.blank then [' '] else []

/-! ## Conversions -/

/-- The integer nearest to zero that a number contains. -/
def wholeOf (letter : Char) : Value → Except Fault Int
  | .bool b => .ok (if b then 1 else 0)
  | .number n => n.trunc
  | .decimal (.finite negative c e) => .ok (Decimal.integer negative c e)
  | .decimal (.infinite _) => .error (.declared .overflow "cannot convert Infinity to integer")
  | .decimal (.notANumber ..) => .error (.declared .value "cannot convert NaN to integer")
  | v =>
    .error (sortFault ("%" ++ String.ofList [letter] ++
      " format: a real number is required, not " ++ v.familyName))

/-- The integer that a value is. -/
def exactOf (letter : Char) : Value → Except Fault Int
  | .bool b => .ok (if b then 1 else 0)
  | .number (.int n) => .ok n
  | v =>
    .error (sortFault ("%" ++ String.ofList [letter] ++
      " format: an integer is required, not " ++ v.familyName))

/-- A value as a floating-point number. -/
def floatOf : Value → Except Fault Float
  | .bool b => .ok (if b then 1 else 0)
  | .number n => n.toFloat
  | .decimal d =>
    match d.toFloat? with
    | some x => .ok x
    | none => .error (.declared .value "cannot convert signaling NaN to float")
  | v => .error (sortFault ("must be real number, not " ++ v.familyName))

/-- The greatest precision of an integer. -/
def integerPrecisionLimit : Nat := Nat.pow 2 31 - 4

/-- An integer with the digits given, and at least as many as the precision asks for; the mark of
its base is written in the alternate form. -/
def convertInteger (flags : Flags) (precision : Option Nat) (n : Int) (mark : String)
    (digits : List Char) : Except Fault Converted :=
  let least := precision.getD 0
  if integerPrecisionLimit < least then .error (.declared .overflow "precision too large")
  else
    .ok
      ⟨signFor flags (n < 0), if flags.alternate then mark.toList else [],
        List.replicate (least - digits.length) '0' ++ digits⟩

/-- A floating-point number in a form; capital letters when `capital`. -/
def convertFloat (flags : Flags) (precision : Option Nat) (form : Binary64.PlacesForm)
    (capital : Bool) (x : Float) : Converted :=
  let (negative, body) := Binary64.writePlaces form (precision.getD 6) flags.alternate x
  { sign := signFor flags negative, body := if capital then body.map Char.toUpper else body }

/-- A text cut to the precision. -/
def convertText (precision : Option Nat) (s : String) : Converted :=
  { body := match precision with | some n => s.toList.take n | none => s.toList }

/-- A text in which characters beyond ASCII are escaped. -/
def escaped (s : String) : String :=
  String.ofList (s.toList.flatMap fun c =>
    if c.toNat < 0x80 then [c]
    else if c.toNat < 0x100 then '\\' :: 'x' :: Text.hexDigits c.toNat 2
    else if c.toNat < 0x10000 then '\\' :: 'u' :: Text.hexDigits c.toNat 4
    else '\\' :: 'U' :: Text.hexDigits c.toNat 8)

/-- The character that a value is or has the code of. -/
def characterOf : Value → Except Fault Char
  | .text s =>
    match s.toList with
    | [c] => .ok c
    | _ => .error (sortFault "%c requires int or char")
  | .number (.int n) =>
    if 0 ≤ n && n < 0x110000 then .ok (Char.ofNat n.toNat)
    else .error (.declared .overflow "%c arg not in range(0x110000)")
  | .bool b => .ok (Char.ofNat (if b then 1 else 0))
  | _ => .error (sortFault "%c requires int or char")

/-- What a directive may write: a value, or an error. -/
inductive Argument
  | value (v : Value)
  | error (e : ErrorInfo)

namespace Argument

/-- The argument as plain text. -/
def plain : Argument → Except Fault String
  | value v => v.plain
  | error e => .ok e.shown

/-- The argument as it is shown. -/
def shown : Argument → Except Fault String
  | value v => v.shown
  | error e => .ok e.shown

/-- The argument as a value; an error counts as an array. -/
def toValue : Argument → Value
  | value v => v
  | error _ => .tuple []

end Argument

/-- The argument of a directive as its conversion writes it. -/
def convert (letter : Char) (place : Nat) (flags : Flags) (precision : Option Nat) (width : Nat)
    (arg : Argument) : Except Fault (List Char) := do
  let v := arg.toValue
  let number := fun (c : Converted) => c.layOut flags flags.zero width
  let text := fun (c : Converted) => c.layOut flags false width
  if letter == 's' then text (convertText precision (← arg.plain))
  else if letter == 'r' then text (convertText precision (← arg.shown))
  else if letter == 'a' then text (convertText precision (escaped (← arg.shown)))
  else if letter == 'c' then text { body := [← characterOf v] }
  else if letter == 'd' || letter == 'i' || letter == 'u' then
    let n ← wholeOf letter v
    let digits ← Number.intText n.natAbs
    number (← convertInteger flags precision n "" digits.toList)
  else if letter == 'o' then
    let n ← exactOf letter v
    number (← convertInteger flags precision n "0o" (Nat.toDigits 8 n.natAbs))
  else if letter == 'x' then
    let n ← exactOf letter v
    number (← convertInteger flags precision n "0x" (Nat.toDigits 16 n.natAbs))
  else if letter == 'X' then
    let n ← exactOf letter v
    number
      (← convertInteger flags precision n "0X" ((Nat.toDigits 16 n.natAbs).map Char.toUpper))
  else if letter == 'e' || letter == 'E' then
    number (convertFloat flags precision .scientific (letter == 'E') (← floatOf v))
  else if letter == 'f' || letter == 'F' then
    number (convertFloat flags precision .positional (letter == 'F') (← floatOf v))
  else if letter == 'g' || letter == 'G' then
    number (convertFloat flags precision .general (letter == 'G') (← floatOf v))
  else throw (unsupported letter place)

/-! ## Arguments -/

/-- What a template is filled with: values to take in order, or a single map or array; attributes
are a map that may hold errors. -/
inductive Arguments
  | listed (vs : List Value)
  | named (entries : List (String × Value))
  | attributes (entries : List (String × Argument))
  | array (vs : List Value)

/-- What keys select from: nothing, the values of a map, or the items of an array, which have no
keys. -/
inductive KeySource
  | nothing
  | entries (entries : List (String × Argument))
  | items

/-- Arguments that are still to be taken, and what keys select from. -/
structure Supply where
  pending : List Argument
  keys : KeySource

namespace Supply

/-- All arguments; a map or an array may itself be taken once. -/
def ofArguments : Arguments → Supply
  | .listed vs => ⟨vs.map .value, .nothing⟩
  | .named entries =>
    ⟨[.value (.map entries)], .entries (entries.map fun e => (e.1, .value e.2))⟩
  | .attributes entries =>
    ⟨[.value (.map (entries.map fun e => (e.1, e.2.toValue)))], .entries entries⟩
  | .array vs => ⟨[.value (.list vs)], .items⟩

/-- Whether keys may stand in the template; arguments need not be used up then. -/
def isKeyed (s : Supply) : Bool :=
  match s.keys with
  | .nothing => false
  | _ => true

/-- The next argument. -/
def take (s : Supply) : Except Fault (Argument × Supply) :=
  match s.pending with
  | arg :: rest => .ok (arg, { s with pending := rest })
  | [] => .error (sortFault "not enough arguments for format string")

/-- Makes the argument of a key the only one to take. -/
def select (s : Supply) (key : String) : Except Fault Supply :=
  match s.keys with
  | .nothing => .error (sortFault "format requires a mapping")
  | .entries entries =>
    match entries.find? (·.1 == key) with
    | some (_, arg) => .ok { s with pending := [arg] }
    | none => .error (.declared .key key)
  | .items => .error (sortFault "list indices must be integers or slices, not str")

/-- Checks that no argument is left. -/
def checkEmpty (s : Supply) : Except Fault Unit :=
  if s.pending.isEmpty then .ok ()
  else .error (sortFault "not all arguments converted during string formatting")

/-- A width or precision from the arguments. -/
def takeExtent (s : Supply) (bits : Nat) (kind : String) : Except Fault (Int × Supply) := do
  let (arg, s) ← s.take
  let n ←
    match arg.toValue with
    | .number (.int n) => .ok n
    | .bool b => .ok (if b then 1 else 0)
    | _ => .error (sortFault "* wants int")
  if n < -(Nat.pow 2 bits : Int) || (Nat.pow 2 bits : Int) ≤ n then
    throw (.declared .overflow ("Python int too large to convert to C " ++ kind))
  return (n, s)

/-- The width of a directive, negative for one to the left. -/
def widthOf (s : Supply) : Option Extent → Except Fault (Int × Supply)
  | none => .ok (0, s)
  | some (.fixed n) => .ok (n, s)
  | some .taken => s.takeExtent 63 "ssize_t"

/-- The precision of a directive; one below zero counts as zero. -/
def precisionOf (s : Supply) : Option Extent → Except Fault (Option Nat × Supply)
  | none => .ok (none, s)
  | some (.fixed n) => .ok (some n, s)
  | some .taken => do
    let (n, s) ← s.takeExtent 31 "int"
    return (some n.toNat, s)

end Supply

/-! ## Templates -/

/-- Selects the argument of the key of a directive; a flaw in the key shows only where keys may
stand. -/
def selectKey (s : Supply) (d : Directive) : Except Fault Supply :=
  match d.conversion, d.key with
  | .error .openKey, _ =>
    if s.isKeyed then .error DirectiveFlaw.openKey.fault
    else .error (sortFault "format requires a mapping")
  | _, some key => s.select key
  | _, none => .ok s

/-- What a directive writes, and the arguments left. -/
def fillDirective (s : Supply) (d : Directive) : Except Fault (List Char × Supply) := do
  let s ← selectKey s d
  let (width, s) ← s.widthOf d.width
  let (precision, s) ← s.precisionOf d.precision
  let flags := if width < 0 then { d.flags with left := true } else d.flags
  match d.conversion with
  | .error flaw => throw flaw.fault
  | .ok (letter, place) =>
    let (arg, s) ← s.take
    return (← convert letter place flags precision width.natAbs arg, s)

/-- What the pieces of a template write. A list of arguments has to be used up. -/
def fillPieces (s : Supply) : List Piece → Except Fault (List Char)
  | [] => do
    if !s.isKeyed then s.checkEmpty
    return []
  | .char c :: rest => do return c :: (← fillPieces s rest)
  | .directive d :: rest => do
    let (text, s) ← fillDirective s d
    return text ++ (← fillPieces s rest)

/-- A template filled with arguments. -/
def fill (template : String) (args : Arguments) : Except Fault String := do
  return String.ofList (← fillPieces (.ofArguments args) (pieces template))

end RecordCalc.Log
