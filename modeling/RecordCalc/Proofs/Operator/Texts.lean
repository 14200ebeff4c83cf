import RecordCalc.Operator.Texts
import RecordCalc.Proofs.Outcomes

/-
  What the functions of texts come to when they are given texts and integers: the characters are cut
  and searched as lists.
-/

namespace RecordCalc.Texts

variable {cs : List Char} {s : String}

theorem charsOf_text (s : String) : charsOf (.text s) = .ok s.toList := rfl

theorem toInteger_int (n default : Int) : (Value.int n).toInteger default = n := rfl

theorem ofChars_toList (s : String) : ofChars s.toList = .text s := by
  rw [ofChars, String.ofList_toList]

theorem ofChars_eq_text_iff : ofChars cs = .text s ↔ cs = s.toList := by
  refine ⟨fun h => ?_, fun h => h ▸ ofChars_toList s⟩
  rw [← Value.text.inj h, String.toList_ofList]

theorem length_text (s : String) : length (.text s) = .ok (.int s.length) := by
  rw [← String.length_toList]
  rfl

theorem left_text (s : String) (n : Int) :
    left (.text s) (.int n) = .ok (ofChars (s.toList.take n.toNat)) := by
  unfold left
  rw [toInteger_int, charsOf_text]
  dsimp only
  split
  next => rfl
  next hn =>
    have hzero : n.toNat = 0 := by omega
    rw [hzero, List.take_zero]
    rfl

theorem right_text (s : String) (n : Int) :
    right (.text s) (.int n) = .ok (ofChars (Text.takeRight s.toList n.toNat)) := by
  unfold right
  rw [toInteger_int, charsOf_text]
  dsimp only
  split
  next => rfl
  next hn =>
    have hzero : n.toNat = 0 := by omega
    rw [hzero, Text.takeRight, Nat.sub_zero, List.drop_length]
    rfl

theorem middle_text (s : String) (i n : Int) :
    middle (.text s) (.int i) (.int n) =
      .ok (ofChars (Text.slice s.toList (i - 1).toNat n.toNat)) := by
  have hplace : (max 1 i - 1).toNat = (i - 1).toNat := by omega
  have hcount : (max 0 n).toNat = n.toNat := by omega
  unfold middle
  rw [toInteger_int, toInteger_int, charsOf_text]
  dsimp only
  rw [hplace, hcount]
  rfl

theorem find_text (x s : String) (k : Int) :
    find (.text x) (.text s) (.int k) =
      .ok (.int (match Text.find? x.toList s.toList (max 1 k - 1).toNat with
        | some place => place + 1
        | none => 0)) := rfl

theorem concat_pair (s t : String) : concat [.text s, .text t] = .ok (.text (s ++ t)) := by
  have hjoin : Text.join "" [s, t] = s ++ t := by simp [Text.join]
  have htexts : [Value.text s, Value.text t].mapM (·.toText) = Except.ok [s, t] := by
    simp only [List.mapM_cons, List.mapM_nil, Value.toText]
    rfl
  rw [concat, htexts]
  exact congrArg (fun u => Except.ok (Value.text u)) hjoin

theorem concat_ofChars (as bs : List Char) :
    concat [ofChars as, ofChars bs] = .ok (ofChars (as ++ bs)) := by
  unfold ofChars
  rw [concat_pair, String.ofList_append]

end RecordCalc.Texts
