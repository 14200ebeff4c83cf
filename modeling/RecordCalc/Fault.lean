/-
  Faults: what can go wrong inside a conversion or an operator's rule, apart from the failures that
  the formula language itself declares. Each cause has a kind, which tells who may handle it, and a
  message.
-/
import RecordCalc.Text.Quoted

namespace RecordCalc

/-- Families of faults. -/
inductive FaultKind
  /-- A value of a sort that the operation does not take. -/
  | sort
  /-- A value of the right sort that the operation cannot take. -/
  | value
  /-- Arithmetic in general. -/
  | arithmetic
  /-- A result too large for its representation. -/
  | overflow
  | zeroDivision
  | floatingPoint
  /-- A decimal result beyond the greatest exponent. -/
  | decimalOverflow
  /-- A decimal operation without a result. -/
  | decimalInvalid
  /-- A place outside a sequence. -/
  | place
  /-- A key that is not there. -/
  | key
  /-- Any other family, by its name. -/
  | other (name : String)
deriving DecidableEq, Repr

namespace FaultKind

/-- The kinds with fixed names. -/
def all : List FaultKind :=
  [sort, value, arithmetic, overflow, zeroDivision, floatingPoint, decimalOverflow, decimalInvalid,
    place, key]

/-- The name of a kind. -/
def name : FaultKind → String
  | sort => "TypeError"
  | value => "ValueError"
  | arithmetic => "ArithmeticError"
  | overflow => "OverflowError"
  | zeroDivision => "ZeroDivisionError"
  | floatingPoint => "FloatingPointError"
  | decimalOverflow => "Overflow"
  | decimalInvalid => "InvalidOperation"
  | place => "IndexError"
  | key => "KeyError"
  | other name => name

/-- The kind of a name. -/
def ofName (s : String) : FaultKind := (all.find? (·.name == s)).getD (other s)

end FaultKind

/-- Whether the evaluator turns faults of this kind into a failure of the operator. -/
def FaultKind.isOperatorFault : FaultKind → Bool
  | .sort | .value | .arithmetic | .overflow | .zeroDivision | .floatingPoint
  | .decimalOverflow | .decimalInvalid => true
  | .place | .key | .other _ => false

/-- Causes of faults. -/
inductive Fault
  /-- An integer beyond the range of floating-point numbers. -/
  | integerTooLarge
  /-- A quotient of integers beyond the range of floating-point numbers. -/
  | quotientTooLarge
  /-- An infinity where an integer is needed. -/
  | infinityToInteger
  /-- A not-a-number where an integer is needed. -/
  | notANumberToInteger
  /-- A numeral with more digits than are read. -/
  | tooManyDigitsToRead (count : Nat)
  /-- An integer with more digits than are written. -/
  | tooManyDigitsToWrite
  /-- A repetition count beyond the size of any text. -/
  | repetitionTooLarge
  /-- A repetition whose text would be too long. -/
  | repetitionTooLong
  /-- A replacement count beyond the size of any text. -/
  | replacementTooLarge
  /-- A text for which there is no room in memory. -/
  | outOfMemory
  | decimalOverflow
  | decimalInvalid
  /-- An argument list, a tuple when `inTuple`, shorter than its reader expects. -/
  | missingArgument (inTuple : Bool)
  /-- A value that cannot be read item by item. -/
  | notIterable (sort : String)
  /-- A value, as it is shown, that is not one of an enumeration. -/
  | notAMember (shown enumeration : String)
  /-- An identity side other than the two known ones. -/
  | badIdentitySide (side : String)
  /-- A cache without room. -/
  | cacheCapacity (capacity : Int)
  /-- A fault with a text of its own. -/
  | declared (kind : FaultKind) (text : String)
deriving DecidableEq, Repr

namespace Fault

/-- The most digits that an integer may have in a text. -/
def digitLimit : Nat := 4300

/-- The most characters of one text for which there is room in memory. -/
def roomLimit : Nat := Nat.pow 2 36

/-- The kind of a fault. -/
def kind : Fault → FaultKind
  | integerTooLarge | quotientTooLarge | infinityToInteger => .overflow
  | notANumberToInteger | tooManyDigitsToRead _ | tooManyDigitsToWrite => .value
  | repetitionTooLarge | repetitionTooLong | replacementTooLarge => .overflow
  | outOfMemory => .other "MemoryError"
  | decimalOverflow => .decimalOverflow
  | decimalInvalid => .decimalInvalid
  | missingArgument _ => .place
  | notIterable _ => .sort
  | notAMember _ _ | badIdentitySide _ | cacheCapacity _ => .value
  | declared k _ => k

/-- The words of a fault; a missing key is shown in quotes. -/
def message : Fault → String
  | integerTooLarge => "int too large to convert to float"
  | quotientTooLarge => "integer division result too large for a float"
  | infinityToInteger => "cannot convert float infinity to integer"
  | notANumberToInteger => "cannot convert float NaN to integer"
  | tooManyDigitsToRead n =>
    "Exceeds the limit (4300 digits) for integer string conversion: value has " ++ toString n ++
      " digits; use sys.set_int_max_str_digits() to increase the limit"
  | tooManyDigitsToWrite =>
    "Exceeds the limit (4300 digits) for integer string conversion; " ++
      "use sys.set_int_max_str_digits() to increase the limit"
  | repetitionTooLarge => "cannot fit 'int' into an index-sized integer"
  | repetitionTooLong => "repeated string is too long"
  | replacementTooLarge => "Python int too large to convert to C ssize_t"
  | outOfMemory => ""
  | decimalOverflow => "[<class 'decimal.Overflow'>]"
  | decimalInvalid => "[<class 'decimal.InvalidOperation'>]"
  | missingArgument true => "tuple index out of range"
  | missingArgument false => "list index out of range"
  | notIterable sort => "'" ++ sort ++ "' object is not iterable"
  | notAMember shown enumeration => shown ++ " is not a valid " ++ enumeration
  | badIdentitySide side =>
    "identity_side must be 'both' or 'right', got " ++ Text.quoted side
  | cacheCapacity n => "LRU cache capacity must be at least 1, got " ++ toString n
  | declared .key text => Text.quoted text
  | declared _ text => text

end Fault

end RecordCalc
