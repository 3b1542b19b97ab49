import Mathlib.Data.List.TakeWhile
import MetricDesk.Text.Case

/-! Lower case word by word. Main statement: `lowerFrom_spaces`, texts with spaces between them are
brought into lower case one by one, since a sigma is final or not by the letters of its word. -/
namespace MetricDesk.Text

/-- No letter is met beyond a space. -/
theorem meetsCased_append_space (cs rest : List Char) :
    meetsCased (cs ++ ' ' :: rest) = meetsCased cs := by
  have stops : isIgnorable ' ' = false := by decide
  have caseless : isCased ' ' = false := by decide
  unfold meetsCased
  rw [List.dropWhile_append]
  cases left : cs.dropWhile isIgnorable with
  | nil => simp [stops, caseless]
  | cons c left => simp

/-- What stands in front of a space does not matter behind it. -/
theorem lowerFrom_append_space (near far cs : List Char) :
    lowerFrom (near ++ ' ' :: far) cs = lowerFrom near cs := by
  induction cs generalizing near with
  | nil => rfl
  | cons c cs ih =>
    have behind := ih (c :: near)
    rw [List.cons_append] at behind
    rw [lowerFrom, lowerFrom, meetsCased_append_space, behind]

theorem lowerFrom_space (before cs rest : List Char) :
    lowerFrom before (cs ++ ' ' :: rest) = lowerFrom before cs ++ ' ' :: lowerFrom [] rest := by
  induction cs generalizing before with
  | nil =>
    have space : lowerChar ' ' = ' ' := by decide
    have alone := lowerFrom_append_space [] before rest
    rw [List.nil_append] at alone
    rw [List.nil_append, lowerFrom, lowerFrom, alone, if_neg (by decide), if_neg (by decide), space]
    rfl
  | cons c cs ih =>
    rw [List.cons_append, lowerFrom, lowerFrom, meetsCased_append_space, ih, ← List.append_assoc]

/-- Texts are brought into lower case one by one if there are spaces between them. -/
theorem lowerFrom_spaces {cs rest : List Char} {n : Nat} (apart : n = 0 → cs = [] ∨ rest = []) :
    lowerFrom [] (cs ++ (List.replicate n ' ' ++ rest)) =
      lowerFrom [] cs ++ (List.replicate n ' ' ++ lowerFrom [] rest) := by
  induction n generalizing cs with
  | zero =>
    rcases apart rfl with rfl | rfl
    · rfl
    · simp [lowerFrom]
  | succ n ih =>
    have spaces : List.replicate (n + 1) ' ' ++ rest = ' ' :: (List.replicate n ' ' ++ rest) := rfl
    have others : lowerFrom [] ([] ++ (List.replicate n ' ' ++ rest)) = _ := ih fun _ => .inl rfl
    rw [List.nil_append, lowerFrom, List.nil_append] at others
    rw [spaces, lowerFrom_space, others]
    rfl

end MetricDesk.Text
