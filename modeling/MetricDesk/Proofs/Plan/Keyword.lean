import Mathlib.Data.List.Infix
import MetricDesk.Proofs.Plan.Sentence

/-! Keywords in questions. Main statements: `Keyword.anyStands_iff`, a keyword is found exactly
where it stands in a text as a whole; and `Draft.keywords_heard`, what a draft takes from the
keywords of its question. Weekly wording counts inside of longer words too. -/
namespace MetricDesk

/-! ### What a search finds -/

namespace Text

variable {α : Type} {pattern : Option Char → List Char → Option α} {before : Option Char}
  {cs : List Char}

theorem after?_eq_some_iff {word cs rest : List Char} :
    after? word cs = some rest ↔ cs = word ++ rest := by
  unfold after?
  by_cases leads : word.isPrefixOf cs = true
  · obtain ⟨tail, rfl⟩ := List.isPrefixOf_iff_prefix.mp leads
    rw [if_pos leads, List.drop_left, Option.some.injEq, List.append_cancel_left_eq]
  · rw [if_neg leads]
    refine iff_of_false nofun ?_
    rintro rfl
    exact leads (List.isPrefixOf_iff_prefix.mpr (List.prefix_append word rest))

/-- The character in front of a place, one character further on. -/
theorem getLast?_cons_or (c : Char) (front : List Char) (before : Option Char) :
    (c :: front).getLast?.or before = front.getLast?.or (some c) := by
  rw [List.getLast?_cons]
  cases front.getLast? <;> rfl

/-- What is found is found at some place, by the character in front of it and the rest behind. -/
theorem exists_of_search {a : α} (found : search pattern before cs = some a) :
    ∃ front rest, cs = front ++ rest ∧ pattern (front.getLast?.or before) rest = some a := by
  induction cs generalizing before with
  | nil => exact ⟨[], [], rfl, found⟩
  | cons c cs ih =>
    rw [search] at found
    cases here : pattern before (c :: cs) with
    | some b =>
      rw [here] at found
      exact ⟨[], c :: cs, rfl, here.trans found⟩
    | none =>
      rw [here] at found
      obtain ⟨front, rest, rfl, there⟩ := ih found
      exact ⟨c :: front, rest, rfl, by rwa [getLast?_cons_or]⟩

/-- Something is found if there is a place for it. -/
theorem isSome_search {front rest : List Char}
    (there : (pattern (front.getLast?.or before) rest).isSome = true) :
    (search pattern before (front ++ rest)).isSome = true := by
  induction front generalizing before with
  | nil =>
    cases rest with
    | nil => exact there
    | cons c rest =>
      obtain ⟨a, found⟩ := Option.isSome_iff_exists.mp there
      rw [List.nil_append, search, show pattern before (c :: rest) = some a from found]
      rfl
  | cons c front ih =>
    rw [getLast?_cons_or] at there
    rw [List.cons_append, search]
    cases pattern before (c :: (front ++ rest)) with
    | some a => rfl
    | none => exact ih there

/-- A text is found in another exactly where it stands in it. -/
theorem occurs_iff_infix {part : List Char} : occurs part cs = true ↔ part <:+: cs := by
  constructor
  · intro found
    obtain ⟨a, found⟩ := Option.isSome_iff_exists.mp found
    obtain ⟨front, rest, rfl, here⟩ := exists_of_search found
    obtain rfl := after?_eq_some_iff.mp here
    exact ⟨front, a, List.append_assoc front part a⟩
  · rintro ⟨front, back, rfl⟩
    rw [List.append_assoc]
    apply isSome_search
    rw [after?_eq_some_iff.mpr rfl]
    rfl

end Text

/-! ### Whole keywords -/

namespace Keyword
open Text

/-- One of the letters from a to z or of the digits from 0 to 9. -/
def Touches (c : Char) : Prop := ('a' ≤ c ∧ c ≤ 'z') ∨ ('0' ≤ c ∧ c ≤ '9')

/-- The keyword stands in the text, with neither a letter nor a digit in front of it or behind. -/
def Whole (q keyword : List Char) : Prop :=
  ∃ front back, q = front ++ keyword ++ back ∧ (∀ c ∈ front.getLast?, ¬ Touches c) ∧
    ∀ c ∈ back.head?, ¬ Touches c

/-- One of the keywords stands in the text as a whole. -/
def SomeWhole (q : List Char) (keywords : List String) : Prop :=
  ∃ k ∈ keywords, Whole q k.toList

theorem continues_iff {c : Char} : continues c = true ↔ Touches c := by
  have digit : c.isDigit = true ↔ '0' ≤ c ∧ c ≤ '9' := by
    rw [Char.isDigit, Bool.and_eq_true, decide_eq_true_eq, decide_eq_true_eq]
    rfl
  rw [continues, Bool.or_eq_true, digit, Bool.and_eq_true, decide_eq_true_eq, decide_eq_true_eq]
  rfl

/-- Behind no letter and no digit a keyword stands in front of what follows it, if neither a letter
nor a digit comes first there. -/
theorem isSome_standsAt_iff {keyword cs : List Char} {before : Option Char} :
    (standsAt keyword before cs).isSome = true ↔ (∀ c ∈ before, ¬ Touches c) ∧
      ∃ back, cs = keyword ++ back ∧ ∀ c ∈ back.head?, ¬ Touches c := by
  have free : before.any continues = true ↔ ¬ ∀ c ∈ before, ¬ Touches c := by
    cases before <;> simp [continues_iff]
  unfold standsAt
  by_cases touched : before.any continues = true
  · rw [if_pos touched]
    exact iff_of_false Bool.false_ne_true fun stands => free.mp touched stands.1
  · rw [if_neg touched]
    rw [free, not_not] at touched
    simp only [and_iff_right touched, ← after?_eq_some_iff]
    cases after? keyword cs with
    | none => simp
    | some back =>
      cases back with
      | nil => simp
      | cons c back => by_cases goes : continues c = true <;> simp [goes, ← continues_iff]

/-- A keyword is found exactly where it stands as a whole. -/
theorem stands_iff {q : List Char} {keyword : String} :
    stands q keyword = true ↔ Whole q keyword.toList := by
  constructor
  · intro found
    obtain ⟨a, found⟩ := Option.isSome_iff_exists.mp found
    obtain ⟨front, rest, rfl, here⟩ := exists_of_search found
    rw [Option.or_none] at here
    have stands := Option.isSome_iff_exists.mpr ⟨a, here⟩
    obtain ⟨free, back, rfl, last⟩ := isSome_standsAt_iff.mp stands
    exact ⟨front, back, (List.append_assoc front keyword.toList back).symm, free, last⟩
  · rintro ⟨front, back, rfl, free, last⟩
    rw [List.append_assoc]
    apply isSome_search
    rw [Option.or_none]
    exact isSome_standsAt_iff.mpr ⟨free, back, rfl, last⟩

theorem anyStands_iff {q : List Char} {keywords : List String} :
    anyStands q keywords = true ↔ SomeWhole q keywords := by
  rw [anyStands, List.any_eq_true]
  exact exists_congr fun k => and_congr_right fun _ => stands_iff

theorem Whole.infix {q keyword : List Char} (whole : Whole q keyword) : keyword <:+: q := by
  obtain ⟨front, back, rfl, -⟩ := whole
  exact ⟨front, back, rfl⟩

end Keyword

/-! ### Numbers of days that are not read -/

namespace Phrase

/-- The digits of a counted phrase stand in the text. -/
theorem Counted.digits?_run {p : Counted} {cs ds : List Char} (found : p.digits? cs = some ds) :
    ds <:+: cs ∧ ∀ c ∈ ds, Text.isDigit c = true := by
  rw [digits?_eq] at found
  obtain ⟨behind, led, follows⟩ := Option.bind_eq_some_iff.mp found
  obtain ⟨rest, blanks, counted⟩ := Option.bind_eq_some_iff.mp follows
  obtain rfl := Text.after?_eq_some_iff.mp led
  have suffix : rest <:+ behind := by
    cases behind with
    | nil => cases blanks
    | cons c cs =>
      rw [Text.afterBlanks?] at blanks
      split at blanks
      · cases blanks
        exact (List.dropWhile_suffix _).trans (List.suffix_cons c cs)
      · cases blanks
  have digits : ds = rest.takeWhile Text.isDigit := by
    unfold number? at counted
    split at counted
    · cases counted
    · obtain ⟨unit, -, closed⟩ := Option.bind_eq_some_iff.mp counted
      obtain ⟨-, -, same⟩ := Option.map_eq_some_iff.mp closed
      exact same.symm
  subst digits
  refine ⟨?_, fun c mem => List.mem_takeWhile_imp mem⟩
  exact (List.takeWhile_prefix _).isInfix.trans
    (suffix.trans (List.suffix_append _ behind)).isInfix

/-- Finding the days fails only for a number in the text with more digits than are read. -/
theorem days_error_run {q : List Char} {failure : Failure} (h : days q = .error failure) :
    ∃ ds, ds <:+: q ∧ (∀ c ∈ ds, Text.isDigit c = true) ∧ Json.maxDigits < ds.length ∧
      failure = .tooManyDigits ds.length := by
  unfold days at h
  split at h
  · next p digits found =>
    split at h
    · next long =>
      obtain ⟨p', -, counted⟩ := List.exists_of_findSome?_eq_some found
      obtain ⟨ds, searched, same⟩ := Option.map_eq_some_iff.mp counted
      obtain ⟨rfl, rfl⟩ := Prod.mk.inj same
      obtain ⟨front, rest, rfl, here⟩ := Text.exists_of_search searched
      obtain ⟨inside, digits⟩ := Counted.digits?_run here
      exact ⟨ds, inside.trans (List.suffix_append front rest).isInfix, digits, long,
        (Except.error.inj h).symm⟩
    · cases h
  · split at h <;> cases h

end Phrase

/-! ### What a draft takes from keywords -/

namespace Draft
open Keyword

/-- A draft compares, goes deep and has a breakdown exactly where a keyword for it stands in the
question as a whole. It is weekly wherever weekly wording occurs, inside of a longer word too, which
comes to the same only if some of it stands as a whole or none occurs. There is no draft only for a
number of days with more digits than are read. -/
theorem keywords_heard (question : String) :
    (∃ p, of question = .ok p ∧
      (∀ b, b ∈ p.breakdowns ↔ SomeWhole (wording question) (Keyword.breakdown b)) ∧
      (p.comparison = .previousPeriod ↔ SomeWhole (wording question) Keyword.comparison) ∧
      (p.mode = .deep ↔ SomeWhole (wording question) Keyword.deep) ∧
      (p.granularity = .week ↔ ∃ k ∈ Keyword.weekly, k.toList <:+: wording question) ∧
      ((p.granularity = .week ↔ SomeWhole (wording question) Keyword.weekly) ↔
        ((∃ k ∈ Keyword.weekly, k.toList <:+: wording question) →
          SomeWhole (wording question) Keyword.weekly))) ∨
    ∃ ds, ds <:+: wording question ∧ (∀ c ∈ ds, Text.isDigit c = true) ∧ 4300 < ds.length ∧
      of question = .error (.tooManyDigits ds.length) := by
  rw [of_eq_ofWords, ofWords]
  generalize wording question = q
  cases days : Phrase.days q with
  | error failure =>
    obtain ⟨ds, inside, digits, long, rfl⟩ := Phrase.days_error_run days
    exact Or.inr ⟨ds, inside, digits, long, rfl⟩
  | ok n =>
    have weekly : granularity q = .week ↔ ∃ k ∈ Keyword.weekly, k.toList <:+: q := by
      simp only [granularity, ← Text.occurs_iff_infix, ← List.any_eq_true]
      split <;> simp_all
    have compares : comparison q = .previousPeriod ↔ SomeWhole q Keyword.comparison := by
      rw [comparison, ← anyStands_iff]
      split <;> simp_all
    have deep : mode q = .deep ↔ SomeWhole q Keyword.deep := by
      rw [mode, ← anyStands_iff]
      split <;> simp_all
    refine Or.inl ⟨_, rfl, fun b => ?_, compares, deep, weekly, ?_⟩
    · have listed : b ∈ Breakdown.all := by cases b <;> decide
      simp only [breakdowns, List.mem_filter, listed, true_and, anyStands_iff]
    · have inside : SomeWhole q Keyword.weekly → ∃ k ∈ Keyword.weekly, k.toList <:+: q := by
        rintro ⟨k, mem, whole⟩
        exact ⟨k, mem, whole.infix⟩
      simp only [weekly]
      exact ⟨fun same => same.mp, fun whole => ⟨whole, inside⟩⟩

/-- By weekday is by week. -/
theorem keywords_heard_weekday : ∃ p, of "Revenue by weekday" = .ok p ∧ p.granularity = .week ∧
    ¬ SomeWhole (wording "Revenue by weekday") Keyword.weekly := by
  have apart : ¬ SomeWhole (wording "Revenue by weekday") Keyword.weekly := by
    rw [← anyStands_iff]
    decide +kernel
  have inside : "by week".toList <:+: wording "Revenue by weekday" := by
    rw [← Text.occurs_iff_infix]
    decide +kernel
  rcases keywords_heard "Revenue by weekday" with
    ⟨p, made, -, -, -, weekly, -⟩ | ⟨ds, -, -, -, failed⟩
  · exact ⟨p, made, weekly.mpr ⟨"by week", by decide, inside⟩, apart⟩
  · have read : (of "Revenue by weekday").isOk = true := by decide +kernel
    rw [failed] at read
    cases read

end Draft
end MetricDesk
