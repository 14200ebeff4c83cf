/-
  Upper and lower case of a text by the full Unicode mappings: one letter may become several, and a
  capital sigma at the end of a word becomes a final sigma.
-/
import RecordCalc.Text.CaseTable

namespace RecordCalc.Text

/-- Whether a code point lies in one of the ranges. -/
def inRanges (ranges : Array (Nat × Nat)) (c : Char) : Bool :=
  ranges.any fun r => r.1 ≤ c.toNat && c.toNat ≤ r.2

/-- The one-letter image of a character under a table of spans, itself when no span holds it. -/
def mapBySpans (spans : Array CaseSpan) (c : Char) : Char :=
  match spans.findSome? (·.map? c.toNat) with
  | some n => Char.ofNat n
  | none => c

/-- Upper case of one character. -/
def upperChar (c : Char) : List Char :=
  match upperSequences.find? (·.1 == c.toNat) with
  | some (_, ns) => ns.map Char.ofNat
  | none => [mapBySpans upperSpans c]

/-- The one-letter capitals of the letters with an iota below. -/
def iotaSpans : Array CaseSpan := #[
   ⟨0x1f80, 0x1f87, 1, 8⟩, ⟨0x1f90, 0x1f97, 1, 8⟩, ⟨0x1fa0, 0x1fa7, 1, 8⟩, ⟨0x1fb3, 0x1fb3, 1, 9⟩,
   ⟨0x1fc3, 0x1fc3, 1, 9⟩, ⟨0x1ff3, 0x1ff3, 1, 9⟩]

/-- The capital of a letter where that is one letter, else the letter itself. -/
def capital (c : Char) : Char :=
  if (upperSequences.find? (·.1 == c.toNat)).isSome then mapBySpans iotaSpans c
  else mapBySpans upperSpans c

/-- Upper case of a text, letter by letter. -/
def upper (s : String) : String := String.ofList (s.toList.flatMap upperChar)

/-- Whether the nearest character that is not case-ignorable is a cased letter. -/
def nextIsCased (cs : List Char) : Bool :=
  match cs.dropWhile (inRanges caseIgnorableRanges) with
  | [] => false
  | c :: _ => inRanges casedRanges c

/-- The capital sigma. -/
def capitalSigma : Char := 'Σ'

/-- Lower case of one character that is not a capital sigma; a dotted capital I keeps its dot. -/
def lowerChar (c : Char) : List Char :=
  if c == 'İ' then ['i', '\u0307'] else [mapBySpans lowerSpans c]

/-- Lower case, with the characters already read in reverse order before the rest. -/
def lowerFrom (before : List Char) : List Char → List Char
  | [] => []
  | c :: rest =>
    let image :=
      if c == capitalSigma then
        [if nextIsCased before && !nextIsCased rest then 'ς' else 'σ']
      else lowerChar c
    image ++ lowerFrom (c :: before) rest

/-- Lower case of a text. -/
def lower (s : String) : String := String.ofList (lowerFrom [] s.toList)

end RecordCalc.Text
