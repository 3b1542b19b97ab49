import MetricDesk.Cache.Key
import MetricDesk.Proofs.Plan.Outcome
import MetricDesk.Proofs.Plan.Phrase

/-! Questions that are sentences: words with single spaces between them, and marks at the end. Main
statement: `checked_of_sentence`, sentences of the same words are planned alike, but for the title
of the game, which each spells in its own way. -/
namespace MetricDesk

namespace Text

/-- Marks that end a sentence. -/
def marks : List Char := ['?', '!', '.', ',', ';', ':']

/-- Nothing but marks. -/
def IsEnding (cs : List Char) : Prop := ∀ c ∈ cs, c ∈ marks

theorem isEnding_of_cons {c : Char} {cs : List Char} (h : IsEnding (c :: cs)) :
    c ∈ marks ∧ IsEnding cs :=
  List.forall_mem_cons.mp h

/-- A mark is no white space, no digit, and goes on with no word. -/
theorem apart_of_mark {c : Char} (mark : c ∈ marks) : isBlank c = false ∧ isDigit c = false ∧
    isWordChar c = false ∧ Keyword.continues c = false := by
  have all : (marks.all fun c => !isBlank c && !isDigit c && !isWordChar c &&
      !Keyword.continues c) = true := by decide
  simpa [and_assoc] using List.all_eq_true.mp all c mark

/-- Without marks. -/
def IsPlain (word : List Char) : Prop := ∀ c ∈ word, c ∉ marks

-- Over the word, since characters are finitely many too and would be tried one by one.
instance decidableIsPlain (word : List Char) : Decidable (IsPlain word) :=
  List.decidableBAll (· ∉ marks) word

variable {α : Type} {cs ending : List Char}

theorem after?_ending {word : List Char} (plain : IsPlain word) (final : IsEnding ending) :
    after? word (cs ++ ending) = (after? word cs).map (· ++ ending) :=
  after?_append (fun c mem there => plain c there (final c (List.mem_of_mem_head? mem))) cs

/-! ### Patterns -/

/-- A pattern that finds nothing in nothing, and the same with an ending behind the text. -/
structure Deaf (pattern : Option Char → List Char → Option α) : Prop where
  nothing : ∀ before, pattern before [] = none
  same : ∀ {ending}, IsEnding ending → ∀ before cs,
    pattern before (cs ++ ending) = pattern before cs

theorem Deaf.search_ending {pattern : Option Char → List Char → Option α} (deaf : Deaf pattern)
    (final : IsEnding ending) (before : Option Char) :
    search pattern before (cs ++ ending) = search pattern before cs := by
  -- Within the ending a pattern stands where the text is over.
  have quiet : ∀ {rest : List Char} (before : Option Char), IsEnding rest →
      search pattern before rest = none := by
    intro rest
    induction rest with
    | nil => exact fun before _ => deaf.nothing before
    | cons e rest ih =>
      intro before final
      have here : pattern before (e :: rest) = none :=
        (deaf.same final before []).trans (deaf.nothing before)
      rw [search, here]
      exact ih _ (isEnding_of_cons final).2
  induction cs generalizing before with
  | nil => rw [List.nil_append, quiet before final, search, deaf.nothing]
  | cons c cs ih =>
    have here := deaf.same final before (c :: cs)
    rw [List.cons_append] at here ⊢
    rw [search, here, ih, search]

theorem search_map {β : Type} (pattern : Option Char → List Char → Option α) (f : α → β)
    (before : Option Char) :
    search (fun before rest => (pattern before rest).map f) before cs =
      (search pattern before cs).map f := by
  induction cs generalizing before with
  | nil => rfl
  | cons c cs ih =>
    rw [search, search, ih]
    cases pattern before (c :: cs) <;> rfl

theorem occurs_ending {part : List Char} (some : part ≠ []) (plain : IsPlain part)
    (final : IsEnding ending) : occurs part (cs ++ ending) = occurs part cs := by
  have deaf : Deaf fun _ rest => (after? part rest).map fun _ => () := by
    refine ⟨fun before => ?_, fun final before cs => ?_⟩
    · cases part with
      | nil => exact absurd rfl some
      | cons c part => rfl
    · rw [after?_ending plain final, Option.map_map, Function.comp_def]
  have found (cs : List Char) : occurs part cs =
      (search (fun _ rest => (after? part rest).map fun _ => ()) none cs).isSome := by
    rw [search_map (fun _ rest => after? part rest), Option.isSome_map]
    rfl
  rw [found, found, deaf.search_ending final]

end Text

namespace Keyword
open Text

/-- Keywords that are something, without marks. -/
def ArePlain (keywords : List String) : Prop :=
  ∀ k ∈ keywords, k.toList ≠ [] ∧ IsPlain k.toList

instance decidableArePlain (keywords : List String) : Decidable (ArePlain keywords) :=
  List.decidableBAll (fun k : String => k.toList ≠ [] ∧ IsPlain k.toList) keywords

theorem deaf_standsAt {keyword : List Char} (some : keyword ≠ []) (plain : IsPlain keyword) :
    Deaf (standsAt keyword) := by
  constructor
  · intro before
    cases keyword with
    | nil => exact absurd rfl some
    | cons c keyword => simp [standsAt, after?]
  · intro ending final before cs
    simp only [standsAt, after?_ending plain final]
    cases after? keyword cs with
    | none => rfl
    | some rest =>
      cases rest with
      | cons c rest => rfl
      | nil =>
        cases ending with
        | nil => rfl
        | cons e ending =>
          simp [(apart_of_mark (isEnding_of_cons final).1).2.2.2]

variable {q ending : List Char}

theorem anyStands_ending {keywords : List String} (plain : ArePlain keywords)
    (final : IsEnding ending) : anyStands (q ++ ending) keywords = anyStands q keywords := by
  unfold anyStands
  rw [Bool.eq_iff_iff, List.any_eq_true, List.any_eq_true]
  refine exists_congr fun k => and_congr_right fun mem => ?_
  obtain ⟨some, word⟩ := plain k mem
  rw [stands, stands, (deaf_standsAt some word).search_ending final]

end Keyword

namespace Phrase
open Text

/-- The end of a sentence is a gap. -/
theorem gap_of_ending {ending : List Char} (final : IsEnding ending) : Gap goesOn ending := by
  have stops : (marks.all fun c => !goesOn c) = true := by decide
  cases ending with
  | nil => exact ⟨by rintro c ⟨⟩, by rintro c ⟨⟩⟩
  | cons e rest =>
    have mark := (isEnding_of_cons final).1
    obtain ⟨text, digit, word, -⟩ := apart_of_mark mark
    refine ⟨by rintro _ ⟨⟩; exact ⟨digit, word⟩, ?_⟩
    rw [List.dropWhile_cons_of_neg (by simp [text])]
    rintro _ ⟨⟩
    simpa using List.all_eq_true.mp stops e mark

theorem deaf_of_parted {α : Type} {pattern : Option Char → List Char → Option α}
    (parted : Parted goesOn pattern) : Deaf pattern where
  nothing := parted.nothing
  same := fun final => parted.gap (gap_of_ending final)

theorem days_ending {q ending : List Char} (final : IsEnding ending) :
    days (q ++ ending) = days q :=
  days_congr (fun _ mem => (deaf_of_parted (parted_of_counted mem)).search_ending final none)
    fun _ mem => (deaf_of_parted (parted_of_fixed mem)).search_ending final none

end Phrase

namespace Draft
open Text Keyword

variable {q ending : List Char}

theorem metric_ending (final : IsEnding ending) : metric (q ++ ending) = metric q := by
  have plain : ∀ entry ∈ metrics, ArePlain entry.2 := by decide
  unfold metric
  rw [List.find?_congr fun entry mem => anyStands_ending (plain entry mem) final]

theorem breakdowns_ending (final : IsEnding ending) : breakdowns (q ++ ending) = breakdowns q := by
  have plain : ∀ b ∈ Breakdown.all, ArePlain (breakdown b) := by decide
  exact List.filter_congr fun b mem => anyStands_ending (plain b mem) final

theorem granularity_ending (final : IsEnding ending) :
    granularity (q ++ ending) = granularity q := by
  have plain : ArePlain weekly := by decide
  have same : (weekly.any fun k => occurs k.toList (q ++ ending)) =
      weekly.any fun k => occurs k.toList q := by
    rw [Bool.eq_iff_iff, List.any_eq_true, List.any_eq_true]
    refine exists_congr fun k => and_congr_right fun mem => ?_
    obtain ⟨some, word⟩ := plain k mem
    rw [occurs_ending some word final]
  rw [granularity, same]
  rfl

theorem comparison_ending (final : IsEnding ending) : comparison (q ++ ending) = comparison q := by
  have plain : ArePlain Keyword.comparison := by decide
  rw [comparison, anyStands_ending plain final]
  rfl

theorem analysis_ending (final : IsEnding ending) : analysis (q ++ ending) = analysis q := by
  have plain : ArePlain topContributors := by decide
  rw [analysis, breakdowns_ending final, anyStands_ending plain final]
  rfl

theorem mode_ending (final : IsEnding ending) : mode (q ++ ending) = mode q := by
  have plain : ArePlain deep := by decide
  rw [mode, anyStands_ending plain final]
  rfl

/-- A sentence, in lower case and without white space around it: its words with single spaces
between them, and marks behind them. -/
def Sentence (question : String) : Prop :=
  ∃ ending, IsEnding ending ∧ wording question = (Key.normalized question).toList ++ ending

/-- The draft of a question with these words and this title. -/
def ofWords (title : String) (q : List Char) : Except Failure Plan :=
  (Phrase.days q).map fun days => {
    game := title
    metric := metric q
    granularity := granularity q
    days
    breakdowns := breakdowns q
    comparison := comparison q
    analysis := analysis q
    filters := []
    mode := mode q }

theorem of_eq_ofWords (question : String) :
    of question = ofWords (Title.of question) (wording question) := by
  simp only [of, ofWords]
  cases Phrase.days (wording question) <;> rfl

theorem ofWords_ending (title : String) (final : IsEnding ending) :
    ofWords title (q ++ ending) = ofWords title q := by
  simp only [ofWords, Phrase.days_ending final, metric_ending final, granularity_ending final,
    breakdowns_ending final, comparison_ending final, analysis_ending final, mode_ending final]

theorem Sentence.of_eq {question : String} (h : Sentence question) :
    of question = ofWords (Title.of question) (Key.normalized question).toList := by
  obtain ⟨ending, final, words⟩ := h
  rw [of_eq_ofWords, words, ofWords_ending _ final]

end Draft

namespace Text

theorem mem_dropWhile_blank {c : Char} {cs : List Char} (mem : c ∈ cs) (text : isBlank c = false) :
    c ∈ cs.dropWhile isBlank := by
  induction cs with
  | nil => cases mem
  | cons d cs ih =>
    rw [List.dropWhile_cons]
    split
    · next blank =>
      rcases List.mem_cons.mp mem with rfl | mem
      · rw [text] at blank
        cases blank
      · exact ih mem
    · exact mem

/-- What is trimmed keeps every character that is no white space. -/
theorem mem_trimmed {c : Char} {cs : List Char} (mem : c ∈ cs) (text : isBlank c = false) :
    c ∈ trimmed cs := by
  rw [trimmed, List.mem_reverse]
  exact mem_dropWhile_blank (List.mem_reverse.mpr (mem_dropWhile_blank mem text)) text

end Text

/-- Every question has a title with words in it. -/
theorem Title.words_of (question : String) : Words (.str (Title.of question)) := by
  have all : Words (.str "all") := ⟨"all", rfl, 'a', by decide, by decide⟩
  unfold Title.of
  split
  · next title _ =>
    simp only
    split
    · exact all
    · next some =>
      rw [List.isEmpty_iff, Text.trimmed_eq_nil] at some
      simp only [not_forall, Bool.not_eq_true] at some
      obtain ⟨c, mem, text⟩ := some
      refine ⟨_, rfl, c, ?_, text⟩
      rw [String.toList_ofList]
      exact Text.mem_trimmed mem text
  · exact all

namespace Draft

theorem ofWords_title {title other : String} {q : List Char} {draft : Plan}
    (made : ofWords title q = .ok draft) : ofWords other q = .ok { draft with game := other } := by
  unfold ofWords at made ⊢
  cases days : Phrase.days q with
  | error failure => rw [days] at made; cases made
  | ok n =>
    rw [days] at made
    obtain rfl := Except.ok.inj made
    rfl

/-- Sentences of the same words make the same plan, each with a title of its own. -/
theorem checked_of_sentence {asked question : String} {p : Plan} (one : Sentence asked)
    (other : Sentence question) (same : Key.normalized asked = Key.normalized question)
    (made : checked asked = .ok p) :
    checked question = .ok { p with game := Title.of question } := by
  obtain ⟨draft, drafted, passed⟩ := exists_of_bind made
  have valid := Plan.valid_of_validate passed
  obtain ⟨-, read⟩ := Plan.of_validate passed
  rw [Plan.ofValue?_toValue] at read
  obtain rfl := Option.some.inj read
  rw [one.of_eq, same] at drafted
  have own : of question = .ok { draft with game := Title.of question } := by
    rw [other.of_eq, ofWords_title drafted]
  rw [checked, own]
  exact Plan.validate_toValue
    { valid with game := Clause.isFilled_iff.mpr (Title.words_of question) }

end Draft
end MetricDesk
