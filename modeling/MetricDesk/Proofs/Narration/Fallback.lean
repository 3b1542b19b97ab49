import MetricDesk.Proofs.Analysis.Summary
import MetricDesk.Proofs.Narration.Amount
import MetricDesk.Proofs.Narration.Verdict

/-! The numerals of the fallback sentence. Main statement: `sentence_grounded_iff`, the sentence of
an executed plan is grounded in the result iff the result supports the numerals in the metric's
name. -/
namespace MetricDesk
namespace Numeral

/-! ### Numerals among other text -/

/-- No numeral begins in the text. -/
def Inert (cs : List Char) : Prop := ∀ c ∈ cs, c ≠ '-' ∧ Text.isDigit c = false

instance (cs : List Char) : Decidable (Inert cs) := List.decidableBAll _ cs

/-- No numeral goes on into the text. -/
structure Stops (rest : List Char) : Prop where
  digit : ∀ c ∈ rest.head?, Text.isDigit c = false
  point : ∀ more, rest = '.' :: more → ∀ c ∈ more.head?, Text.isDigit c = false

theorem run_eq_nil {rest : List Char} (stops : ∀ c ∈ rest.head?, Text.isDigit c = false) :
    run rest = [] := by
  cases rest with
  | nil => rfl
  | cons c cs => exact List.takeWhile_cons_of_neg (by simp [stops c rfl])

theorem scan_nil : scan [] = [] := by
  rw [scan]
  rfl

theorem scan_inert {cs : List Char} (inert : Inert cs) (rest : List Char) :
    scan (cs ++ rest) = scan rest := by
  induction cs with
  | nil => rfl
  | cons c cs ih =>
    obtain ⟨⟨minus, digit⟩, more⟩ := List.forall_mem_cons.mp inert
    have none : front? (c :: (cs ++ rest)) = none := by
      have sign : signOf (c :: (cs ++ rest)) = (false, c :: (cs ++ rest)) := by
        unfold signOf
        split
        · next same => exact absurd (List.cons.inj same).1 minus
        · rfl
      have empty : run (c :: (cs ++ rest)) = [] := run_eq_nil (by rintro d ⟨⟩; exact digit)
      simp only [front?, sign, empty, List.isEmpty_nil, if_true]
    rw [← ih more, List.cons_append, scan]
    split
    · next found => rw [none] at found; cases found
    · rfl

/-- A numeral that ends where the text goes on is taken whole. -/
theorem scan_numeral {n : Numeral} (formed : n.WellFormed) {rest : List Char} (stops : Stops rest) :
    scan (n.chars ++ rest) = n :: scan rest := by
  have front : front? (n.chars ++ rest) = some (n, rest) := by
    have empty := run_eq_nil stops.digit
    have kept : afterRun rest = rest := by
      have split := run_afterRun rest
      rwa [empty] at split
    have whole : fractionOf rest = ([], rest) := by
      unfold fractionOf
      split
      · next more => rw [run_eq_nil (stops.point more rfl)]; rfl
      · rfl
    rw [front?_chars formed, empty, kept, whole]
    split
    · next part =>
      rw [List.isEmpty_iff] at part
      obtain ⟨negative, whole, fraction⟩ := n
      simp_all
    · simp
  rw [scan]
  split
  · next m more found =>
    rw [front] at found
    cases found
    rfl
  · next found => rw [front] at found; cases found

end Numeral

/-- The numerals in a metric's name. -/
def Metric.numerals : Metric → List Numeral
  | .d1Retention => [⟨false, ['1'], []⟩]
  | .d7Retention => [⟨false, ['7'], []⟩]
  | _ => []

namespace Fallback
open Numeral
open Leaves (Fits Measures)

/-! ### The numerals of the sentence -/

/-- A numeral that stands for one of some doubles. -/
def StandsFor (xs : List Double) (n : Numeral) : Prop :=
  n.WellFormed ∧ ∃ x ∈ xs, n.value.cents = x.cents

theorem scan_name (m : Metric) (rest : List Char) :
    scan (m.name.toList ++ rest) = m.numerals ++ scan rest := by
  have digit (c : Char) (plain : c.isDigit = true) :
      scan (['d'] ++ ((⟨false, [c], []⟩ : Numeral).chars ++ ("_retention".toList ++ rest))) =
        ⟨false, [c], []⟩ :: scan rest := by
    have formed : (⟨false, [c], []⟩ : Numeral).WellFormed :=
      { whole := by simpa using isDigit_of_plain plain
        some := by simp
        fraction := by simp }
    rw [scan_inert (by decide), scan_numeral formed, scan_inert (by decide)]
    exact ⟨by rintro d ⟨⟩; decide, by rintro more ⟨⟩⟩
  cases m with
  | d1Retention => exact digit '1' rfl
  | d7Retention => exact digit '7' rfl
  | _ => exact scan_inert (by decide) rest

theorem scan_amount {x : Double} (rounded : x.IsRounded) (finite : x.isFinite = true)
    {rest : List Char} (stops : Stops rest) :
    ∃ n, StandsFor [x] n ∧ scan ((amount x).toList ++ rest) = n :: scan rest := by
  obtain ⟨_, same⟩ := rounded
  obtain ⟨n, formed, chars, cents⟩ := numeral_amount same finite
  exact ⟨n, ⟨formed, x, List.mem_singleton_self x, cents⟩, by rw [chars, scan_numeral formed stops]⟩

theorem scan_signed {x : Double} (rounded : x.IsRounded) (finite : x.isFinite = true)
    {rest : List Char} (stops : Stops rest) :
    ∃ n, StandsFor [x] n ∧ scan ((signed x).toList ++ rest) = n :: scan rest := by
  unfold signed
  split
  · rw [String.toList_append, List.append_assoc, scan_inert (by decide)]
    exact scan_amount rounded finite stops
  · exact scan_amount rounded finite stops

theorem StandsFor.mono {xs ys : List Double} {n : Numeral} (more : ∀ x ∈ xs, x ∈ ys)
    (h : StandsFor xs n) : StandsFor ys n := by
  obtain ⟨formed, x, mem, same⟩ := h
  exact ⟨formed, x, more x mem, same⟩

/-- What a sentence may go on with behind its point. -/
def Spaced (rest : List Char) : Prop := ∀ c ∈ rest.head?, c = ' '

theorem stops_point {rest : List Char} (spaced : Spaced rest) : Stops (".".toList ++ rest) where
  digit := by
    rintro c ⟨⟩
    decide
  point := by
    rintro more ⟨⟩ c first
    rw [spaced c first]
    decide

theorem stops_of_ne_point {c : Char} (digit : Text.isDigit c = false) (point : c ≠ '.')
    (rest : List Char) : Stops (c :: rest) where
  digit := by
    rintro d ⟨⟩
    exact digit
  point := by
    rintro more ⟨⟩
    exact absurd rfl point

/-- The numerals of a comparison stand for numbers of the summary. -/
theorem scan_comparison {s : Summary} (rounded : ∀ x ∈ s.numbers, x.IsRounded)
    (finite : ∀ x ∈ s.numbers, x.isFinite = true) {ending : List Char} (spaced : Spaced ending) :
    ∃ ns, (∀ n ∈ ns, StandsFor s.numbers n) ∧
      scan ((comparison s).toList ++ ending) = ns ++ scan ending := by
  obtain ⟨value, previous, change, percent⟩ := s
  cases previous with
  | none => exact ⟨[], by simp, rfl⟩
  | some before =>
    cases change with
    | none => exact ⟨[], by simp, rfl⟩
    | some change =>
      have changed : change ∈ Summary.numbers ⟨value, some before, some change, percent⟩ := by
        simp [Summary.numbers]
      have roundedChange := rounded change changed
      have finiteChange := finite change changed
      simp only [comparison, String.toList_append, List.append_assoc]
      rw [scan_inert (by decide)]
      cases percent with
      | none =>
        obtain ⟨n, stands, scanned⟩ :=
          scan_signed roundedChange finiteChange (stops_point spaced)
        refine ⟨[n], ?_, ?_⟩
        · rintro m (_ | ⟨_, ⟨⟩⟩)
          exact stands.mono (by simpa using changed)
        · rw [scanned, scan_inert (by decide)]
          rfl
      | some percent =>
        have counted : percent ∈
            Summary.numbers ⟨value, some before, some change, some percent⟩ := by
          simp [Summary.numbers]
        have roundedPercent := rounded percent counted
        have stopsPercent : Stops ("%).".toList ++ ending) :=
          stops_of_ne_point (by decide) (by decide) _
        obtain ⟨n, standsPercent, scannedPercent⟩ :=
          scan_amount roundedPercent (finite percent counted) stopsPercent
        have stopsChange :
            Stops (" (".toList ++ ((amount percent).toList ++ ("%).".toList ++ ending))) :=
          stops_of_ne_point (by decide) (by decide) _
        obtain ⟨m, standsChange, scannedChange⟩ :=
          scan_signed roundedChange finiteChange stopsChange
        refine ⟨[m, n], ?_, ?_⟩
        · rintro k (_ | ⟨_, (_ | ⟨_, ⟨⟩⟩)⟩)
          · exact standsChange.mono (by simpa using changed)
          · exact standsPercent.mono (by simpa using counted)
        · simp only [String.toList_append, List.append_assoc]
          rw [scannedChange, scan_inert (by decide), scannedPercent,
            scan_inert (by decide)]
          rfl

/-- The numerals of the sentence are those of the metric's name, and others that stand for numbers
of the summary. -/
theorem scan_sentence {r : Result}
    (rounded : ∀ x ∈ r.summary.numbers, x.IsRounded)
    (finite : ∀ x ∈ r.summary.numbers, x.isFinite = true) :
    ∃ ns, (∀ n ∈ ns, StandsFor r.summary.numbers n) ∧
      scan (sentence r).toList = r.plan.metric.numerals ++ ns := by
  have value : r.summary.value ∈ r.summary.numbers := List.mem_cons_self
  have roundedValue := rounded _ value
  generalize ended :
    (if r.attribution.isEmpty then " Attribution is inconclusive." else "") = ending
  have closed : Spaced ending.toList ∧ scan ending.toList = [] := by
    have silent {cs : List Char} (inert : Inert cs) : scan cs = [] := by
      have all := scan_inert inert []
      rwa [List.append_nil, scan_nil] at all
    rw [← ended]
    split
    · refine ⟨?_, silent (by decide)⟩
      rintro c ⟨⟩
      rfl
    · exact ⟨by rintro c ⟨⟩, silent (by decide)⟩
  have spaced : Spaced ((comparison r.summary).toList ++ ending.toList) := by
    unfold comparison
    split
    · rw [String.toList_append, String.toList_append, List.append_assoc, List.append_assoc]
      rintro c ⟨⟩
      rfl
    · exact closed.1
  obtain ⟨n, standsValue, scannedValue⟩ :=
    scan_amount roundedValue (finite _ value) (stops_point spaced)
  obtain ⟨ns, stands, scanned⟩ := scan_comparison rounded finite closed.1
  refine ⟨n :: ns, ?_, ?_⟩
  · rintro m (_ | ⟨_, mem⟩)
    · exact standsValue.mono (by simpa using value)
    · exact stands m mem
  · simp only [sentence, ended, String.toList_append, List.append_assoc]
    rw [scan_inert (by decide), scan_name, scan_inert (by decide)]
    rw [scannedValue, scan_inert (by decide), scanned, closed.2, List.append_nil]

/-! ### The verdict on the sentence -/

theorem measures_of_mem_numbers {r : Result} {x : Double} (mem : x ∈ r.summary.numbers)
    (finite : x.isFinite = true) : Measures r.toValue x := by
  have leaf : Leaves.Leaf r.summary.toValue (.dbl x) := by
    have field (key : String) {o : Option Double} (here : o = some x)
        (listed : (key, Value.ofDouble? o) ∈ [("value", .dbl r.summary.value),
          ("previous", .ofDouble? r.summary.previous), ("change", .ofDouble? r.summary.change),
          ("changePct", .ofDouble? r.summary.changePercent)]) :
        Leaves.Leaf r.summary.toValue (.dbl x) := by
      rw [here] at listed
      exact .field listed (.here _)
    rcases List.mem_cons.mp mem with rfl | mem
    · exact field "value" (o := some r.summary.value) rfl List.mem_cons_self
    · obtain ⟨o, listed, here⟩ := List.mem_filterMap.mp mem
      simp only [id_eq, List.mem_cons, List.not_mem_nil, or_false] at here listed
      rcases listed with rfl | rfl | rfl
      · exact field "previous" here (by simp)
      · exact field "change" here (by simp)
      · exact field "changePct" here (by simp)
  refine ⟨.dbl x, ?_, ?_, rfl⟩
  · exact .field (k := "summary") (v := r.summary.toValue) (by simp [Result.toFields]) leaf
  · cases x with
    | nan => cases finite
    | infinite => cases finite
    | finite => rfl

theorem supported_of_standsFor {r : Result} {n : Numeral}
    (finite : ∀ x ∈ r.summary.numbers, x.isFinite = true) (stands : StandsFor r.summary.numbers n) :
    Supported r.toValue n.chars := by
  obtain ⟨formed, x, mem, same⟩ := stands
  rw [Grounding.supported_iff formed]
  exact ⟨x, measures_of_mem_numbers mem (finite x mem),
    (Double.cents_eq_iff (finite x mem)).mp same⟩

/-- The result has no whole number out of range, and has the numerals of its metric's name. -/
def Covered (r : Result) : Prop :=
  Fits r.toValue ∧ ∀ n ∈ r.plan.metric.numerals, Supported r.toValue n.chars

/-- Of the sentence's numerals only those in the metric's name may be without support. -/
theorem offending_sentence {r : Result} (rounded : ∀ x ∈ r.summary.numbers, x.IsRounded)
    (finite : ∀ x ∈ r.summary.numbers, x.isFinite = true) :
    Grounding.offending r.toValue ((scan (sentence r).toList).map chars) = [] ↔
      ∀ n ∈ r.plan.metric.numerals, Supported r.toValue n.chars := by
  obtain ⟨ns, stands, scanned⟩ := scan_sentence rounded finite
  rw [scanned, Grounding.offending_eq_nil, List.forall_mem_map, List.forall_mem_append]
  exact and_iff_left fun n mem => supported_of_standsFor finite (stands n mem)

/-- The sentence of an executed plan passes the check of its own result iff no whole number is out
of range and the numerals in the metric's name are supported; a narrator without a model then tells
it as grounded. -/
theorem sentence_grounded_iff {source : Source} {question tenant : String} {plan : Plan}
    {today : Date} {r : Result}
    (done : Execution.execute source question tenant plan today = .done r)
    (finite : ∀ x ∈ r.summary.numbers, x.isFinite = true) :
    (Grounding.verify r.toValue (sentence r) = .ok (sentence r) ↔ Covered r) ∧
      ∀ {σ : Type} (n : Narrator σ) (maxTokens : Value) (s : σ), n.mode = .rules →
        (n.narrate r maxTokens s = (.ok ⟨sentence r, true, []⟩, s) ↔ Covered r) := by
  have grounded := offending_sentence (Execution.rounded_of_execute done) finite
  constructor
  · by_cases fits : Fits r.toValue
    · rw [Grounding.verify_eq fits, Covered, ← grounded]
      split
      · next none => exact iff_of_true rfl ⟨fits, none⟩
      · next some => exact iff_of_false (by rintro ⟨⟩) fun both => some both.2
    · rw [Grounding.verify_error fits]
      exact iff_of_false (by rintro ⟨⟩) fun both => fits both.1
  · intro σ n maxTokens s mode
    have told : n.narrate r maxTokens s = (Narration.ofText r (sentence r), s) := by
      have draft : n.draft r maxTokens s = (.ok (sentence r), s) := by
        rw [Narrator.draft, mode]
        rfl
      rw [Narrator.narrate_apply, draft]
    rw [told]
    by_cases fits : Fits r.toValue
    · rw [Grounding.ofText_eq fits, Covered, ← grounded]
      simp only
      split
      · next none => exact iff_of_true rfl ⟨fits, none⟩
      · next some => exact iff_of_false (by rintro ⟨⟩) fun both => some both.2
    · rw [Grounding.ofText_error fits]
      exact iff_of_false (by rintro ⟨⟩) fun both => fits both.1

/-- The retention of a fortnight, without comparison. -/
def fortnight : Plan := ⟨"game-1", .d1Retention, .day, 14, [], .none, [], [], .short⟩

/-- From an empty warehouse comes the sentence that the retention is 0, and its result has no 1. -/
theorem sentence_fortnight : ∃ r,
    Execution.execute (fun _ => .rows []) "d1 retention" "game-1" fortnight
        ⟨739341, by decide, by decide⟩ = .done r ∧
      (∀ x ∈ r.summary.numbers, x.isFinite = true) ∧
      (Grounding.verify r.toValue (sentence r) = .ok (sentence r) ↔ Covered r) ∧ ¬ Covered r := by
  have checked : (Execution.execute (fun _ => .rows []) "d1 retention" "game-1" fortnight
      ⟨739341, by decide, by decide⟩).done?.any (fun r => r.summary.numbers.all (·.isFinite) &&
        !(Grounding.verify r.toValue (sentence r)).isOk) = true := by decide +kernel
  obtain ⟨r, found, both⟩ := (Option.any_eq_true _ _).mp checked
  have done := Outcome.eq_done found
  rw [Bool.and_eq_true, List.all_eq_true] at both
  obtain ⟨finite, failed⟩ := both
  have verdict := (sentence_grounded_iff done finite).1
  refine ⟨r, done, finite, verdict, fun covered => ?_⟩
  rw [verdict.mpr covered] at failed
  cases failed

end Fallback
end MetricDesk
