import Mathlib.Data.List.TakeWhile
import MetricDesk.Cache.Key

/-! The words of a question, by which its plan is kept. Main statements: `runs_iff`, a text is cut
into runs of the characters that questions differ by in one way only; and `normalized_words`, a
normalized question is its words with single spaces between them, so that two questions have one key
exactly if they have the same words. -/
namespace MetricDesk

namespace Text

/-- The text between white space at both ends. -/
theorem trimmed_between {front body back : List Char} (before : ∀ c ∈ front, isBlank c = true)
    (behind : ∀ c ∈ back, isBlank c = true) (first : ∀ c ∈ body.head?, isBlank c = false)
    (last : ∀ c ∈ body.getLast?, isBlank c = false) : trimmed (front ++ (body ++ back)) = body := by
  have stops {cs : List Char} (first : ∀ c ∈ cs.head?, isBlank c = false) :
      cs.dropWhile isBlank = cs := by
    cases cs with
    | nil => rfl
    | cons c cs => exact List.dropWhile_cons_of_neg (by simp [first c rfl])
  rw [trimmed, List.dropWhile_append_of_pos before]
  cases body with
  | nil =>
    rw [List.nil_append, List.dropWhile_eq_nil_iff.mpr behind]
    rfl
  | cons c body =>
    have kept : (c :: body ++ back).dropWhile isBlank = c :: body ++ back := stops first
    rw [kept, List.reverse_append,
      List.dropWhile_append_of_pos fun c mem => behind c (List.mem_reverse.mp mem),
      stops (by rwa [List.head?_reverse]), List.reverse_reverse]

end Text

namespace Key

open Text

/-! ### Characters -/

theorem code_of_counts {c : Char} (h : counts c = true) :
    48 ≤ c.toNat ∧ c.toNat ≤ 57 ∨ 97 ≤ c.toNat ∧ c.toNat ≤ 122 := by
  simp only [counts, Char.isDigit, Bool.or_eq_true, Bool.and_eq_true, decide_eq_true_eq,
    Char.le_def, UInt32.le_iff_toNat_le] at h
  exact h.symm

theorem isBlank_of_counts {c : Char} (h : counts c = true) : isBlank c = false := by
  have all : ∀ n < 123, 48 ≤ n ∧ n ≤ 57 ∨ 97 ≤ n ∧ n ≤ 122 → covers blankRanges n = false := by
    decide
  have code := code_of_counts h
  exact all c.toNat (by omega) code

/-- What counts is in lower case, and so is a space. -/
theorem lowerChar_eq {c : Char} (h : counts c = true ∨ c = ' ') : lowerChar c = c := by
  rcases h with counted | rfl
  · have code := code_of_counts counted
    have ascii : c.toNat < 128 := by omega
    rw [lowerChar, if_pos ascii]
    unfold Char.toLower
    split
    · next capital =>
      have le : c.toNat ≤ 90 := UInt32.le_iff_toNat_le.mp capital.2
      have ge : 65 ≤ c.toNat := UInt32.le_iff_toNat_le.mp capital.1
      omega
    · rfl
  · decide

theorem lowerFrom_eq (before : List Char) {cs : List Char}
    (small : ∀ c ∈ cs, counts c = true ∨ c = ' ') : lowerFrom before cs = cs := by
  induction cs generalizing before with
  | nil => rfl
  | cons c cs ih =>
    obtain ⟨here, others⟩ := List.forall_mem_cons.mp small
    have sigma : c ≠ 'Σ' := by
      rintro rfl
      revert here
      decide
    have dotted : c ≠ 'İ' := by
      rintro rfl
      revert here
      decide
    rw [lowerFrom, if_neg sigma, if_neg dotted, lowerChar_eq here, ih _ others]
    rfl

/-! ### Runs -/

/-- The runs of characters that count, in order, none of which could be longer: what stands around
them does not count. -/
inductive Runs : List Char → List (List Char) → Prop where
  | blank {gap : List Char} (apart : ∀ c ∈ gap, counts c = false) : Runs gap []
  | run {gap word rest : List Char} {words : List (List Char)} (apart : ∀ c ∈ gap, counts c = false)
      (some : word ≠ []) (counted : ∀ c ∈ word, counts c = true)
      (ends : ∀ c ∈ rest.head?, counts c = false) (others : Runs rest words) :
      Runs (gap ++ (word ++ rest)) (word :: words)

/-- The parts between characters that do not count, as far as there is something between them. -/
def runs (cs : List Char) : List (List Char) :=
  (cs.splitOnP (!counts ·)).filter (!·.isEmpty)

theorem runs_nil : runs [] = [] := rfl

theorem runs_append_cons {c : Char} (apart : counts c = false) (front back : List Char) :
    runs (front ++ c :: back) = runs front ++ runs back := by
  rw [runs, List.splitOnP_append_cons _ _ (by simp [apart]), List.filter_append]
  rfl

theorem runs_cons {c : Char} (apart : counts c = false) (cs : List Char) :
    runs (c :: cs) = runs cs :=
  runs_append_cons apart [] cs

theorem runs_gap {gap : List Char} (apart : ∀ c ∈ gap, counts c = false) (cs : List Char) :
    runs (gap ++ cs) = runs cs := by
  induction gap with
  | nil => rfl
  | cons c gap ih =>
    obtain ⟨here, others⟩ := List.forall_mem_cons.mp apart
    rw [List.cons_append, runs_cons here, ih others]

theorem runs_word {word : List Char} (some : word ≠ []) (counted : ∀ c ∈ word, counts c = true) :
    runs word = [word] := by
  rw [runs, List.splitOnP_eq_singleton fun c mem => by simp [counted c mem]]
  simp [some]

theorem Runs.eq_runs {cs : List Char} {words : List (List Char)} (h : Runs cs words) :
    words = runs cs := by
  induction h with
  | @blank gap apart =>
    have nothing := runs_gap apart []
    rw [List.append_nil] at nothing
    rw [nothing, runs_nil]
  | @run gap word rest words apart some counted ends others ih =>
    rw [runs_gap apart]
    cases rest with
    | nil => rw [List.append_nil, runs_word some counted, ih, runs_nil]
    | cons c rest =>
      have here := ends c rfl
      rw [runs_append_cons here, runs_word some counted, ih, runs_cons here]
      rfl

/-- The first run begins where something counts, and goes as far as everything does. -/
theorem first_run (cs : List Char) : (∀ c ∈ cs, counts c = false) ∨
    ∃ gap word rest, gap ++ (word ++ rest) = cs ∧ (∀ c ∈ gap, counts c = false) ∧ word ≠ [] ∧
      (∀ c ∈ word, counts c = true) ∧ ∀ c ∈ rest.head?, counts c = false := by
  have gap : ∀ c ∈ cs.takeWhile (!counts ·), counts c = false := fun c mem => by
    simpa using List.mem_takeWhile_imp mem
  have cut : cs.takeWhile (!counts ·) ++ cs.dropWhile (!counts ·) = cs :=
    List.takeWhile_append_dropWhile
  cases tail : cs.dropWhile (!counts ·) with
  | nil =>
    rw [tail, List.append_nil] at cut
    exact Or.inl (cut ▸ gap)
  | cons first others =>
    have counted : counts first = true := by
      have stops := List.head?_dropWhile_not (!counts ·) cs
      rw [tail] at stops
      simpa using stops
    have letters : ∀ c ∈ first :: others.takeWhile counts, counts c = true :=
      List.forall_mem_cons.mpr ⟨counted, fun c mem => List.mem_takeWhile_imp mem⟩
    have ends : ∀ c ∈ (others.dropWhile counts).head?, counts c = false := by
      intro c mem
      have stops := List.head?_dropWhile_not counts others
      rwa [mem] at stops
    refine Or.inr ⟨_, _, _, ?_, gap, List.cons_ne_nil first _, letters, ends⟩
    rw [List.cons_append, List.takeWhile_append_dropWhile, ← tail, cut]

/-- Every text has runs: the first one, and those of what follows it. -/
theorem exists_runs (cs : List Char) : ∃ words, Runs cs words := by
  rcases first_run cs with apart | ⟨gap, word, rest, whole, apart, some, counted, ends⟩
  · exact ⟨[], .blank apart⟩
  · have shorter : rest.length < cs.length := by
      have longer := List.length_pos_iff.mpr some
      rw [← whole, List.length_append, List.length_append]
      omega
    obtain ⟨words, others⟩ := exists_runs rest
    exact ⟨word :: words, whole ▸ .run apart some counted ends others⟩
termination_by cs.length

/-- A text is cut into runs in one way. -/
theorem runs_iff {cs : List Char} {words : List (List Char)} : Runs cs words ↔ words = runs cs := by
  constructor
  · exact Runs.eq_runs
  · rintro rfl
    obtain ⟨words, h⟩ := exists_runs cs
    exact h.eq_runs ▸ h

/-! ### Collapsing -/

theorem collapsed_gap {gap : List Char} (apart : ∀ c ∈ gap, counts c = false) (cs : List Char) :
    collapsed true (gap ++ cs) = collapsed true cs := by
  induction gap with
  | nil => rfl
  | cons c gap ih =>
    obtain ⟨here, others⟩ := List.forall_mem_cons.mp apart
    rw [List.cons_append, collapsed, if_neg (by simp [here]), if_pos rfl, ih others]

theorem collapsed_word {word : List Char} (some : word ≠ [])
    (counted : ∀ c ∈ word, counts c = true) (inGap : Bool) (cs : List Char) :
    collapsed inGap (word ++ cs) = word ++ collapsed false cs := by
  induction word generalizing inGap with
  | nil => exact absurd rfl some
  | cons c word ih =>
    obtain ⟨here, others⟩ := List.forall_mem_cons.mp counted
    rw [List.cons_append, collapsed, if_pos here, List.cons_append]
    cases word with
    | nil => rfl
    | cons d word => rw [ih (by simp) others]

/-- Where no gap has been written yet there is a space for one that follows. -/
theorem collapsed_false (cs : List Char) : ∃ front, (∀ c ∈ front, c = ' ') ∧
    collapsed false cs = front ++ collapsed true cs := by
  cases cs with
  | nil => exact ⟨[], nofun, rfl⟩
  | cons c cs =>
    by_cases counted : counts c = true
    · exact ⟨[], nofun, by rw [collapsed, collapsed, if_pos counted, if_pos counted]; rfl⟩
    · refine ⟨[' '], by simp, ?_⟩
      rw [collapsed, collapsed, if_neg counted, if_neg counted]
      rfl

/-- Words with single spaces between them. -/
def joined (words : List (List Char)) : List Char := [' '].intercalate words

theorem joined_cons {word : List Char} {words : List (List Char)} (some : words ≠ []) :
    joined (word :: words) = word ++ ' ' :: joined words := by
  cases words with
  | nil => exact absurd rfl some
  | cons next words => rw [joined, List.intercalate_cons_cons, List.append_assoc]; rfl

/-- Behind the words there is a space at most. -/
theorem Runs.collapsed_eq {cs : List Char} {words : List (List Char)} (h : Runs cs words) :
    ∃ back, (∀ c ∈ back, c = ' ') ∧ (words = [] → back = []) ∧
      collapsed true cs = joined words ++ back := by
  induction h with
  | @blank gap apart =>
    refine ⟨[], nofun, fun _ => rfl, ?_⟩
    have nothing := collapsed_gap apart []
    rwa [List.append_nil] at nothing
  | @run gap word rest words apart some counted ends others ih =>
    obtain ⟨back, spaces, only, collapses⟩ := ih
    rw [collapsed_gap apart, collapsed_word some counted]
    cases rest with
    | nil =>
      have none : words = [] := others.eq_runs
      refine ⟨[], nofun, nofun, ?_⟩
      rw [none, joined, List.intercalate_singleton]
      rfl
    | cons c rest =>
      have here : ¬ counts c = true := by simp [ends c rfl]
      have space : collapsed false (c :: rest) = ' ' :: (joined words ++ back) := by
        rw [← collapses, collapsed, if_neg here, collapsed, if_neg here]
        rfl
      rw [space]
      by_cases none : words = []
      · refine ⟨[' '], by simp, nofun, ?_⟩
        rw [only none, none, joined, joined, List.intercalate_singleton]
        rfl
      · refine ⟨back, spaces, nofun, ?_⟩
        rw [joined_cons none, List.append_assoc, List.cons_append]

/-! ### Words with single spaces -/

/-- Words of characters that count, none of them empty. -/
def Counted (words : List (List Char)) : Prop :=
  ∀ word ∈ words, word ≠ [] ∧ ∀ c ∈ word, counts c = true

theorem Runs.counted {cs : List Char} {words : List (List Char)} (h : Runs cs words) :
    Counted words := by
  induction h with
  | blank => exact nofun
  | run apart some counted ends others ih => exact List.forall_mem_cons.mpr ⟨⟨some, counted⟩, ih⟩

theorem runs_joined {words : List (List Char)} (h : Counted words) :
    runs (joined words) = words := by
  induction words with
  | nil => rfl
  | cons word words ih =>
    obtain ⟨⟨some, counted⟩, others⟩ := List.forall_mem_cons.mp h
    by_cases none : words = []
    · rw [none, joined, List.intercalate_singleton, runs_word some counted]
    · rw [joined_cons none, runs_append_cons (by decide), runs_word some counted, ih others]
      rfl

theorem mem_joined {words : List (List Char)} (h : Counted words) :
    ∀ c ∈ joined words, counts c = true ∨ c = ' ' := by
  induction words with
  | nil => exact nofun
  | cons word words ih =>
    obtain ⟨⟨some, counted⟩, others⟩ := List.forall_mem_cons.mp h
    intro c mem
    by_cases none : words = []
    · rw [none, joined, List.intercalate_singleton] at mem
      exact Or.inl (counted c mem)
    · rw [joined_cons none, List.mem_append, List.mem_cons] at mem
      rcases mem with here | space | behind
      · exact Or.inl (counted c here)
      · exact Or.inr space
      · exact ih others c behind

/-- They begin and end with something that counts. -/
theorem ends_joined {words : List (List Char)} (h : Counted words) :
    (∀ c ∈ (joined words).head?, counts c = true) ∧
      ∀ c ∈ (joined words).getLast?, counts c = true := by
  induction words with
  | nil => exact ⟨nofun, nofun⟩
  | cons word words ih =>
    obtain ⟨⟨some, counted⟩, others⟩ := List.forall_mem_cons.mp h
    by_cases none : words = []
    · rw [none, joined, List.intercalate_singleton]
      exact ⟨fun c mem => counted c (List.mem_of_mem_head? mem),
        fun c mem => counted c (List.mem_of_mem_getLast? mem)⟩
    · obtain ⟨-, last⟩ := ih others
      have behind : joined words ≠ [] := fun empty =>
        none (by rw [← runs_joined others, empty, runs_nil])
      rw [joined_cons none]
      constructor
      · intro c mem
        rw [List.head?_append, Option.or_of_isSome (by simpa using some)] at mem
        exact counted c (List.mem_of_mem_head? mem)
      · rwa [List.append_cons, List.getLast?_append,
          Option.or_of_isSome (by simpa using behind)]

/-! ### Questions -/

/-- The text that is digested for the key of a question's plan. -/
def planText (question : String) : String := "ai|plan|" ++ normalized question

theorem planText_injective {a b : String} (h : planText a = planText b) :
    normalized a = normalized b := by
  have chars := congrArg String.toList h
  simp only [planText, String.toList_append] at chars
  exact String.toList_injective (List.append_cancel_left chars)

/-- The runs of letters and digits of a question in lower case. -/
def words (question : String) : List (List Char) := runs (lower question).toList

theorem counted_words (question : String) : Counted (words question) :=
  (runs_iff.mpr rfl).counted

theorem toList_normalized (question : String) :
    (normalized question).toList = joined (words question) := by
  have counted := counted_words question
  have runs : Runs (lower question).toList (words question) := runs_iff.mpr rfl
  obtain ⟨back, behind, -, collapses⟩ := runs.collapsed_eq
  obtain ⟨front, before, spaced⟩ := collapsed_false (lower question).toList
  have blank {cs : List Char} (spaces : ∀ c ∈ cs, c = ' ') : ∀ c ∈ cs, isBlank c = true :=
    fun c mem => spaces c mem ▸ by decide
  obtain ⟨first, last⟩ := ends_joined counted
  rw [normalized, String.toList_ofList, spaced, collapses]
  exact trimmed_between (blank before) (blank behind)
    (fun c mem => isBlank_of_counts (first c mem)) fun c mem => isBlank_of_counts (last c mem)

/-- What is normalized has the same words. -/
theorem words_normalized (question : String) : words (normalized question) = words question := by
  have counted := counted_words question
  rw [words, lower, toList_normalized, lowerFrom_eq [] (mem_joined counted), String.toList_ofList,
    runs_joined counted]

/-- A normalized question consists of its words, which are the longest runs of letters and digits of
the question in lower case, with single spaces between them. It is normalized itself, and two
questions have one text for the keys of their plans exactly if they have the same words. -/
theorem normalized_words (a b : String) :
    (∀ found, Runs (lower a).toList found ↔ found = words a) ∧
      normalized a = " ".intercalate ((words a).map String.ofList) ∧
      (normalized a).toList.head? ≠ some ' ' ∧ (normalized a).toList.getLast? ≠ some ' ' ∧
      normalized (normalized a) = normalized a ∧
      (∀ digest : Digest, plan digest a = digest (planText a)) ∧
      (planText a = planText b ↔ words a = words b) := by
  have letters : (fun word : List Char => (String.ofList word).toList) = id := by
    funext word
    exact String.toList_ofList
  have same {p q : String} (equal : words p = words q) : normalized p = normalized q := by
    apply String.toList_injective
    rw [toList_normalized, toList_normalized, equal]
  have space : ¬ counts ' ' = true := by decide
  obtain ⟨first, last⟩ := ends_joined (counted_words a)
  refine ⟨fun _ => runs_iff, ?_, ?_, ?_, same (words_normalized a), fun _ => rfl, ?_, ?_⟩
  · apply String.toList_injective
    rw [toList_normalized, String.toList_intercalate, List.map_map, Function.comp_def, letters,
      List.map_id]
    rfl
  · rw [toList_normalized]
    exact fun here => space (first ' ' here)
  · rw [toList_normalized]
    exact fun here => space (last ' ' here)
  · intro equal
    rw [← words_normalized a, planText_injective equal, words_normalized]
  · intro equal
    rw [planText, same equal, planText]

/-- The sign of a kelvin is a letter in lower case, and a capital with a dot is one and the dot. -/
example : normalized "— 21K İx! " = "21k i x" := by decide +kernel

end Key
end MetricDesk
