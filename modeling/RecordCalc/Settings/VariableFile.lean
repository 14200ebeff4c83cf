/-
  Files of variables: one assignment NAME=value a line, with comments, optional quotes around names
  and values, and references to other variables in values. A line that is none of this is passed
  over.
-/
import RecordCalc.Text.Blank

namespace RecordCalc.Settings

/-- An assignment of a file; a name may stand without a value. -/
structure Assignment where
  name : String
  value : Option String
deriving DecidableEq, Repr

namespace VariableFile

/-! ## Characters -/

/-- Whether a character ends a line. -/
def isBreak (c : Char) : Bool := c == '\n' || c == '\r'

/-- Whether a character is a blank within a line. -/
def isGap (c : Char) : Bool := Text.isBlank c && !isBreak c

/-- Drops the blanks of this line in front. -/
def skipGap (cs : List Char) : List Char := cs.dropWhile isGap

/-- What follows the line, its end included. -/
def skipLine (cs : List Char) : List Char :=
  match cs.dropWhile (!isBreak ·) with
  | '\r' :: rest | '\n' :: rest => rest
  | rest => rest

/-- Every end of a line as one line feed. -/
def withLineFeeds : List Char → List Char
  | '\r' :: '\n' :: cs => '\n' :: withLineFeeds cs
  | '\r' :: cs => '\n' :: withLineFeeds cs
  | c :: cs => c :: withLineFeeds cs
  | [] => []

/-! ## Parts of a line

A part is read off the front of the text. When it is not there the error is what had been read up to
that point, from which the rest of the line is passed over.
-/

/-- A part and what follows it, or the place where reading stopped. -/
abbrev Part (α : Type) := Except (List Char) (α × List Char)

/-- The characters up to the closing quote and what follows it. A backslash takes the character
after it along. -/
def untilQuote (quote : Char) : List Char → Option (List Char × List Char)
  | [] => none
  | ['\\'] => none
  | '\\' :: c :: cs =>
    (untilQuote quote cs).map fun (body, after) => ('\\' :: c :: body, after)
  | c :: cs =>
    if c == quote then some ([], cs)
    else (untilQuote quote cs).map fun (body, after) => (c :: body, after)

/-- The word export and the blanks after it are no part of a name. -/
def skipExport (cs : List Char) : List Char :=
  match "export".toList.isPrefixOf cs, cs.drop 6 with
  | true, c :: rest => if isGap c then skipGap rest else cs
  | _, _ => cs

/-- The name of an assignment, none where a comment starts. -/
def readName (cs : List Char) : Part (Option String) :=
  match cs with
  | '#' :: _ => .ok (none, cs)
  | '\'' :: rest =>
    match rest.takeWhile (· != '\''), rest.dropWhile (· != '\'') with
    | c :: name, _ :: after => .ok (some (String.ofList (c :: name)), after)
    | _, _ => .error cs
  | _ =>
    let belongs := fun c : Char => c != '=' && c != '#' && !Text.isBlank c
    match cs.takeWhile belongs with
    | [] => .error cs
    | name => .ok (some (String.ofList name), cs.dropWhile belongs)

/-- The escapes of a text in single quotes. -/
def plainEscapes : List (Char × Char) := [('\\', '\\'), ('\'', '\'')]

/-- The escapes of a text in double quotes. -/
def richEscapes : List (Char × Char) :=
  [('\\', '\\'), ('\'', '\''), ('"', '"'), ('a', '\x07'), ('b', '\x08'), ('f', '\x0c'), ('n', '\n'),
    ('r', '\r'), ('t', '\t'), ('v', '\x0b')]

/-- A text with its escapes resolved; a backslash before any other character stays. -/
def resolveEscapes (escapes : List (Char × Char)) : List Char → List Char
  | '\\' :: c :: cs =>
    match escapes.find? (·.1 == c) with
    | some (_, image) => image :: resolveEscapes escapes cs
    | none => '\\' :: resolveEscapes escapes (c :: cs)
  | c :: cs => c :: resolveEscapes escapes cs
  | [] => []
termination_by cs => cs.length

/-- A value without quotes: blanks before a number sign start a comment. -/
def bareValue (cs : List Char) : List Char := Text.trimChars (go cs)
where
  /-- The characters before the comment. -/
  go : List Char → List Char
    | [] => []
    | c :: rest =>
      if Text.isBlank c && (rest.dropWhile Text.isBlank).head? == some '#' then []
      else c :: go rest

/-- The value after an equals sign; blanks may precede it. -/
def readValue (cs : List Char) : Part String :=
  let inQuotes := fun (quote : Char) (escapes : List (Char × Char)) (rest : List Char) =>
    match untilQuote quote rest with
    | some (body, after) => .ok (String.ofList (resolveEscapes escapes body), after)
    | none => .error cs
  match skipGap cs with
  | '\'' :: rest => inQuotes '\'' plainEscapes rest
  | '"' :: rest => inQuotes '"' richEscapes rest
  | _ => .ok (String.ofList (bareValue (cs.takeWhile (!isBreak ·))), cs.dropWhile (!isBreak ·))

/-- What follows the line after its last part: there may be a comment and nothing else. -/
def endLine (cs : List Char) : Part Unit :=
  let cs :=
    match skipGap cs with
    | '#' :: rest => rest.dropWhile (!isBreak ·)
    | _ => cs
  match skipGap cs with
  | [] => .ok ((), [])
  | '\n' :: rest => .ok ((), rest)
  | '\r' :: rest => .ok ((), rest)
  | rest => .error rest

/-- A line with a name, a value after an equals sign, and an end; the blanks in front are gone. -/
def readLine (cs : List Char) : Except (List Char) (Option Assignment × List Char) := do
  let (name, cs) ← readName (skipExport cs)
  let cs := skipGap cs
  let (value, cs) ←
    match cs with
    | '=' :: rest => do
      let (value, rest) ← readValue rest
      pure (some value, rest)
    | _ => pure (none, cs)
  let ((), cs) ← endLine cs
  return (name.map (⟨·, value⟩), cs)

/-- The assignments of a text, in order. -/
def readLines (cs : List Char) : List Assignment :=
  match cs.dropWhile Text.isBlank with
  | [] => []
  | c :: line =>
    let (found, rest) :=
      match readLine (c :: line) with
      | .ok (found, rest) => (found, rest)
      | .error stop => (none, skipLine stop)
    if rest.length < cs.length then found.toList ++ readLines rest else found.toList
termination_by cs.length

/-! ## References -/

/-- The value of a variable: among those assigned so far, else in the environment. A variable
without a value counts as empty, and so does an unknown one. -/
def valueOf (assigned : List Assignment) (environment : List (String × String)) (name : String) :
    Option String :=
  match assigned.find? (·.name == name) with
  | some a => some (a.value.getD "")
  | none => (environment.find? (·.1 == name)).map (·.2)

/-- A reference at the front of a text, after its opening brace: the name, the value for an unknown
name, and what follows the closing brace. -/
def readReference (cs : List Char) : Option (String × Option String × List Char) :=
  let inName := fun c : Char => c != '\x7d' && c != ':'
  let name := String.ofList (cs.takeWhile inName)
  match cs.dropWhile inName with
  | '\x7d' :: rest => some (name, none, rest)
  | ':' :: '-' :: rest =>
    match rest.dropWhile (· != '\x7d') with
    | _ :: after => some (name, some (String.ofList (rest.takeWhile (· != '\x7d'))), after)
    | [] => none
  | _ => none

/-- A text with its references resolved. -/
def expand (look : String → Option String) : List Char → List Char
  | '$' :: '\x7b' :: rest =>
    match readReference rest with
    | some (name, default, after) =>
      let value := ((look name).getD (default.getD "")).toList
      if after.length < rest.length then value ++ expand look after else value
    | none => '$' :: expand look ('\x7b' :: rest)
  | c :: rest => c :: expand look rest
  | [] => []
termination_by cs => cs.length

/-- Assigns a value to a name, in place when the name has one. -/
def assign (assigned : List Assignment) (a : Assignment) : List Assignment :=
  if assigned.any (·.name == a.name) then
    assigned.map fun b => if b.name == a.name then a else b
  else assigned ++ [a]

/-- The characters of a file without the byte order mark in front. -/
def withoutMark (cs : List Char) : List Char :=
  match cs with
  | '\ufeff' :: rest => rest
  | _ => cs

/-- The variables of a file, each with its last value, references resolved from what stands
before. -/
def read (environment : List (String × String)) (file : String) : List Assignment :=
  (readLines (withLineFeeds (withoutMark file.toList))).foldl
    (fun assigned a =>
      let expanded := a.value.map fun v =>
        String.ofList (expand (valueOf assigned environment) v.toList)
      assign assigned ⟨a.name, expanded⟩) []

end VariableFile

end RecordCalc.Settings
