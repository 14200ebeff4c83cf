/-
  Message templates. A percent sign opens a directive: a key in brackets, flags, a width, a
  precision, a size letter that is passed over, and the letter of the conversion. All but the last
  may be left out.
-/

namespace RecordCalc.Log

/-- A width or a precision: a number, or an asterisk that takes it from the arguments. -/
inductive Extent
  | fixed (n : Nat)
  | taken
deriving DecidableEq, Repr

/-- What is wrong with a directive. -/
inductive DirectiveFlaw
  /-- The bracket of the key is not closed. -/
  | openKey
  | hugeWidth
  | hugePrecision
  /-- The template ends before the conversion. -/
  | cutOff
deriving DecidableEq, Repr

/-- The flags of a directive. -/
structure Flags where
  left : Bool := false
  plus : Bool := false
  blank : Bool := false
  alternate : Bool := false
  zero : Bool := false
deriving DecidableEq, Repr

/-- A directive, as far as it could be read. -/
structure Directive where
  key : Option String := none
  flags : Flags := {}
  width : Option Extent := none
  precision : Option Extent := none
  /-- The letter of the conversion with its place in the template, or what is wrong. -/
  conversion : Except DirectiveFlaw (Char × Nat)

/-- A part of a template. -/
inductive Piece
  | char (c : Char)
  | directive (d : Directive)

/-- Adds a flag, none when the character is no flag. -/
def Flags.add? (f : Flags) (c : Char) : Option Flags :=
  if c == '-' then some { f with left := true }
  else if c == '+' then some { f with plus := true }
  else if c == ' ' then some { f with blank := true }
  else if c == '#' then some { f with alternate := true }
  else if c == '0' then some { f with zero := true }
  else none

/-- Flags and what follows them. -/
def Flags.scan (f : Flags) : List Char → Flags × List Char
  | [] => (f, [])
  | c :: cs =>
    match f.add? c with
    | some f => f.scan cs
    | none => (f, c :: cs)

namespace Directive

/-- The greatest width. -/
def widthLimit : Nat := Nat.pow 2 63 - 1

/-- The greatest precision. -/
def precisionLimit : Nat := Nat.pow 2 31 - 1

/-- The key up to the closing bracket, brackets within it in pairs, and what follows; none when the
bracket is not closed. -/
def scanKey (depth : Nat) : List Char → Option (List Char × List Char)
  | [] => none
  | c :: cs =>
    if c == ')' && depth == 0 then some ([], cs)
    else
      let depth := if c == '(' then depth + 1 else if c == ')' then depth - 1 else depth
      (scanKey depth cs).map fun (key, rest) => (c :: key, rest)

/-- The number that a run of digits denotes. -/
def number (ds : List Char) : Nat := ds.foldl (fun n d => 10 * n + (d.toNat - '0'.toNat)) 0

/-- A width or the like and what follows it; none when it is beyond the limit. -/
def scanExtent (limit : Nat) : List Char → Option (Option Extent × List Char)
  | '*' :: cs => some (some .taken, cs)
  | cs =>
    match cs.takeWhile Char.isDigit with
    | [] => some (none, cs)
    | ds =>
      if limit < number ds then none
      else some (some (.fixed (number ds)), cs.dropWhile Char.isDigit)

/-- The letter of a conversion after an optional size letter, with its place, and what follows. -/
def scanConversion (length : Nat) (cs : List Char) :
    Except DirectiveFlaw (Char × Nat) × List Char :=
  let isSize := fun c : Char => c == 'h' || c == 'l' || c == 'L'
  let cs :=
    match cs with
    | c :: rest => if isSize c then rest else c :: rest
    | [] => []
  match cs with
  | c :: rest => (.ok (c, length - cs.length), rest)
  | [] => (.error .cutOff, [])

/-- A directive after its percent sign and what follows it, for a template of the given length. -/
def scan (length : Nat) (cs : List Char) : Directive × List Char :=
  let keyed : Option (Option String × List Char) :=
    match cs with
    | '(' :: rest => (scanKey 0 rest).map fun (key, rest) => (some (String.ofList key), rest)
    | _ => some (none, cs)
  match keyed with
  | none => ({ conversion := .error .openKey }, [])
  | some (key, cs) =>
    let (flags, cs) := Flags.scan {} cs
    match scanExtent widthLimit cs with
    | none => ({ key := key, flags := flags, conversion := .error .hugeWidth }, [])
    | some (width, cs) =>
      let precise : Option (Option Extent × List Char) :=
        match cs with
        | '.' :: rest =>
          (scanExtent precisionLimit rest).map fun (p, rest) => (some (p.getD (.fixed 0)), rest)
        | _ => some (none, cs)
      match precise with
      | none =>
        ({ key := key, flags := flags, width := width, conversion := .error .hugePrecision }, [])
      | some (precision, cs) =>
        let (conversion, rest) := scanConversion length cs
        (⟨key, flags, width, precision, conversion⟩, rest)

end Directive

/-- The pieces of the rest of a template of the given length. A percent sign written twice stands
for itself. -/
def piecesFrom (length : Nat) : List Char → List Piece
  | [] => []
  | '%' :: '%' :: cs => .char '%' :: piecesFrom length cs
  | '%' :: cs =>
    let (d, rest) := Directive.scan length cs
    if rest.length ≤ cs.length then .directive d :: piecesFrom length rest else [.directive d]
  | c :: cs => .char c :: piecesFrom length cs
termination_by cs => cs.length

/-- The pieces of a template. -/
def pieces (template : String) : List Piece := piecesFrom template.length template.toList

end RecordCalc.Log
