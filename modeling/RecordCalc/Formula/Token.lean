/-
  Tokens of formulas: numerals, texts in quotes, references to fields in braces, names and symbols,
  with blanks between them. `tokens` cuts a text into tokens up to the first character that starts
  none.
-/
import RecordCalc.Failure
import RecordCalc.Number.Numeral

namespace RecordCalc.Formula

/-- Symbols. -/
inductive Symbol
  | plus | minus | star | slash | percent | caret | ampersand
  | equal
  /-- An inequality, written with an exclamation mark or with angle brackets. -/
  | notEqual (angled : Bool)
  | less | greater | lessEqual | greaterEqual
  | bang | opening | closing | comma
deriving DecidableEq, Repr

/-- The characters of a symbol. -/
def Symbol.chars : Symbol → List Char
  | plus => ['+']
  | minus => ['-']
  | star => ['*']
  | slash => ['/']
  | percent => ['%']
  | caret => ['^']
  | ampersand => ['&']
  | equal => ['=']
  | notEqual false => ['!', '=']
  | notEqual true => ['<', '>']
  | less => ['<']
  | greater => ['>']
  | lessEqual => ['<', '=']
  | greaterEqual => ['>', '=']
  | bang => ['!']
  | opening => ['(']
  | closing => [')']
  | comma => [',']

/-- Tokens. -/
inductive Token
  | numeral (n : Numeral)
  /-- A text as it stands between its quotes. -/
  | text (quote : Char) (body : List Char)
  /-- The text between the braces of a reference. -/
  | field (body : List Char)
  | name (letters : List Char)
  | symbol (s : Symbol)
deriving DecidableEq, Repr

/-- The characters of a token. -/
def Token.chars : Token → List Char
  | numeral n => n.toChars
  | text quote body => quote :: body ++ [quote]
  | field body => '{' :: body ++ ['}']
  | name letters => letters
  | symbol s => s.chars

/-- Blanks between tokens: space, tab, form feed, carriage return and line feed. -/
def isGap (c : Char) : Bool := c == ' ' || c == '\t' || c == '\x0c' || c == '\r' || c == '\n'

/-- Whether a name may start with a character. -/
def startsName (c : Char) : Bool := c.isAlpha || c == '_'

/-- Whether a character may stand in a name. -/
def inName (c : Char) : Bool := c.isAlphanum || c == '_'

/-- The text up to the closing quote; a backslash takes the character after it along. -/
def scanBody (quote : Char) : List Char → Option (List Char)
  | [] => none
  | '\\' :: c :: rest => (scanBody quote rest).map ('\\' :: c :: ·)
  | c :: rest =>
    if c == quote then some []
    else if c == '\\' then none
    else (scanBody quote rest).map (c :: ·)

/-- The text up to the closing brace, which comes before any opening one. -/
def scanField : List Char → Option (List Char)
  | [] => none
  | c :: rest =>
    if c == '}' then some [] else if c == '{' then none else (scanField rest).map (c :: ·)

/-- The symbol at the front of a text, the longer of two. -/
def scanSymbol : List Char → Option Symbol
  | '!' :: '=' :: _ => some (.notEqual false)
  | '<' :: '>' :: _ => some (.notEqual true)
  | '<' :: '=' :: _ => some .lessEqual
  | '>' :: '=' :: _ => some .greaterEqual
  | '+' :: _ => some .plus
  | '-' :: _ => some .minus
  | '*' :: _ => some .star
  | '/' :: _ => some .slash
  | '%' :: _ => some .percent
  | '^' :: _ => some .caret
  | '&' :: _ => some .ampersand
  | '=' :: _ => some .equal
  | '<' :: _ => some .less
  | '>' :: _ => some .greater
  | '!' :: _ => some .bang
  | '(' :: _ => some .opening
  | ')' :: _ => some .closing
  | ',' :: _ => some .comma
  | _ => none

/-- The token at the front of a text. -/
def scanToken (cs : List Char) : Option Token :=
  match cs with
  | [] => none
  | c :: rest =>
    if c == '"' || c == '\'' then (scanBody c rest).map (.text c)
    else if c == '{' then (scanField rest).map .field
    else if startsName c then some (.name (cs.takeWhile inName))
    else
      match Numeral.scan? cs with
      | some (n, _) => some (.numeral n)
      | none => (scanSymbol cs).map .symbol

/-- A token and the place of its first character. -/
structure Located where
  token : Token
  position : Nat
deriving DecidableEq, Repr

/-- The tokens of a text, and the place and character where no token starts, if there is one. -/
structure Tokens where
  located : List Located
  stop : Option (Nat × Char)
deriving DecidableEq, Repr

/-- The tokens of a text whose first character has the given place; `skip` characters of the token
before are still to be passed over. -/
def tokensFrom (position : Nat) : (skip : Nat) → List Char → Tokens
  | _, [] => ⟨[], none⟩
  | skip + 1, _ :: cs => tokensFrom (position + 1) skip cs
  | 0, c :: cs =>
    if isGap c then tokensFrom (position + 1) 0 cs
    else
      match scanToken (c :: cs) with
      | none => ⟨[], some (position, c)⟩
      | some token =>
        let rest := tokensFrom (position + 1) (token.chars.length - 1) cs
        ⟨⟨token, position⟩ :: rest.located, rest.stop⟩

/-- The tokens of a text. -/
def tokens (cs : List Char) : Tokens := tokensFrom 0 0 cs

/-- The syntax error of a character that starts no token. -/
def stopError (position : Nat) (c : Char) : SyntaxError :=
  if c == '"' || c == '\'' then ⟨.unterminatedText, position⟩
  else if c == '{' then ⟨.unterminatedField, position⟩
  else ⟨.unexpectedCharacter c, position⟩

end RecordCalc.Formula
