/-
  Reading the value of a setting. Texts are taken for truth values and integers where they denote
  one, and so are numbers without a fraction.
-/
import RecordCalc.Settings.Basic
import RecordCalc.Value.Shown

namespace RecordCalc.Settings

/-! ## Truth values -/

/-- The words for yes, in lower case. -/
def yesWords : List String := ["1", "on", "t", "true", "y", "yes"]

/-- The words for no, in lower case. -/
def noWords : List String := ["0", "off", "f", "false", "n", "no"]

/-- The truth value that a word denotes, in any letter case of the Latin alphabet. -/
def truthOfWord (s : String) : Except Problem Bool :=
  let word := s.toLower
  if yesWords.contains word then .ok true
  else if noWords.contains word then .ok false
  else .error .unreadableTruth

/-- The truth value that an integer denotes. -/
def truthOfInt (n : Int) : Except Problem Bool :=
  if n = 0 then .ok false else if n = 1 then .ok true else .error .unreadableTruth

/-- Integers of at most 64 bits with a sign. -/
def isWord64 (n : Int) : Bool := -(Nat.pow 2 63 : Int) ≤ n && n < (Nat.pow 2 63 : Int)

/-- A floating-point number as an integer. -/
def integerOfFloat (x : Float) : Except Problem Int :=
  match Binary64.isIntegral x, Binary64.trunc? x with
  | _, none => .error .notFinite
  | false, _ => .error .fractional
  | true, some n => if isWord64 n then .ok n else .error .integerTooLong

/-- The truth value that a floating-point number denotes; only integers are considered at all. -/
def truthOfFloat (x : Float) : Except Problem Bool :=
  match integerOfFloat x with
  | .ok n => truthOfInt n
  | .error _ => .error .notTruth

/-- Reads a truth value. -/
def readTruth : Value → Except Problem Bool
  | .bool b => .ok b
  | .text s => truthOfWord s
  | .number (.int n) => if isWord64 n then truthOfInt n else .error .notTruth
  | .number (.float x) => truthOfFloat x
  | .decimal d =>
    match d.toFloat? with
    | some x => truthOfFloat x
    | none => .error .notTruth
  | _ => .error .notTruth

/-! ## Integers -/

/-- Whether a character is white space that may surround a numeral. -/
def isPadding (c : Char) : Bool := Text.isBlank c && !(0x1c ≤ c.toNat && c.toNat ≤ 0x1f)

/-- A text without the white space around it. -/
def unpadded (cs : List Char) : List Char :=
  ((cs.dropWhile isPadding).reverse.dropWhile isPadding).reverse

/-- A plain numeral: an optional minus and digits, of which only a lone one may be a zero in front.
There may be no more characters than digits are read. -/
def plainInteger (cs : List Char) : Except Problem Int :=
  let (negative, body) :=
    match cs with
    | '-' :: rest => (true, rest)
    | _ => (false, cs)
  let digits := body.takeWhile Char.isDigit
  if digits.isEmpty || (digits.head? = some '0' && 1 < digits.length) then
    .error .unreadableInteger
  else if Fault.digitLimit < digits.length + cs.length - body.length then .error .integerTooLong
  else if digits.length < body.length then .error .unreadableInteger
  else .ok (Binary64.signed negative (Text.digitsValue digits))

/-- What follows zeros and underscores in front: another digit, a minus, or the point after a zero
or underscore that stays. When nothing follows, the last of them stays. `last` is the one before. -/
def afterZeros (last : Char) : List Char → Option (List Char)
  | [] => some [last]
  | c :: cs =>
    if c == '0' || c == '_' then afterZeros c cs
    else if c == '.' then some (last :: c :: cs)
    else if c.isDigit || c == '-' then some (c :: cs)
    else none

/-- A numeral without the zeros in front; it has to start with a digit. -/
def withoutZeros : List Char → Option (List Char)
  | [] => none
  | c :: cs => if c == '0' then afterZeros c cs else if c.isDigit then some (c :: cs) else none

/-- A numeral without a point that only zeros follow. -/
def withoutFraction (cs : List Char) : List Char :=
  match cs.dropWhile (· != '.') with
  | _ :: c :: rest => if (c :: rest).all (· == '0') then cs.takeWhile (· != '.') else cs
  | _ => cs

/-- Whether two underscores stand side by side. -/
def hasUnderscorePair : List Char → Bool
  | '_' :: '_' :: _ => true
  | _ :: cs => hasUnderscorePair cs
  | [] => false

/-- A numeral without its underscores, as long as each stands alone between other characters. -/
def withoutUnderscores (cs : List Char) : List Char :=
  if cs.head? = some '_' || cs.getLast? = some '_' || hasUnderscorePair cs then cs
  else cs.filter (· != '_')

/-- The plain form of a written numeral, none where it has none. White space around it, a plus,
zeros in front, a fraction of zeros and joining underscores do not count. -/
def plainForm (cs : List Char) : Option (List Char) :=
  let (sign, body) : List Char × List Char :=
    match unpadded cs with
    | '+' :: rest => ([], rest)
    | '-' :: rest => (['-'], rest)
    | body => ([], body)
  (withoutZeros body).map fun ds => sign ++ withoutUnderscores (withoutFraction ds)

/-- The integer that a text denotes: as it stands, or in its plain form. -/
def integerOfText (s : String) : Except Problem Int :=
  match plainInteger s.toList with
  | .error .unreadableInteger =>
    match (plainForm s.toList).map plainInteger with
    | some (.ok n) => .ok n
    | _ => .error .unreadableInteger
  | r => r

/-- Reads an integer. -/
def readInteger : Value → Except Problem Int
  | .bool b => .ok (if b then 1 else 0)
  | .text s => integerOfText s
  | .number (.int n) => .ok n
  | .number (.float x) => integerOfFloat x
  | .number (.nan _) => integerOfFloat Binary64.nan
  | .decimal (.finite negative c e) =>
    if Decimal.isIntegral c e then .ok (Decimal.integer negative c e) else .error .fractional
  | .decimal _ => .error .notFinite
  | _ => .error .notInteger

/-- Reads a size, which is at least 1. -/
def readSize (v : Value) : Except Problem Int := do
  let n ← readInteger v
  if n < 1 then .error .tooSmall else .ok n

/-! ## Texts and choices -/

/-- Reads a text. -/
def readText : Value → Except Problem String
  | .text s => .ok s
  | _ => .error .notText

/-- Reads the name of a level in any letter case. -/
def readLevel (v : Value) : Except Problem Log.Level :=
  match v.plain with
  | .error f => .error (.refused f.message)
  | .ok s =>
    match Log.Level.selectable.find? (·.name == Text.upper s) with
    | some l => .ok l
    | none => .error (.refused ("Invalid log level: " ++ s))

/-- Reads the name of a regime for missing data in any letter case, blanks around it apart. -/
def readMode : Value → Except Problem NullMode
  | .text s =>
    match NullMode.ofName? (Text.lower (Text.trim s)) with
    | some m => .ok m
    | none => .error .notAChoice
  | _ => .error .notAChoice

end RecordCalc.Settings
