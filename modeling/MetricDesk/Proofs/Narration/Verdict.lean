import MetricDesk.Narration.Basic
import MetricDesk.Proofs.Narration.Leaves
import MetricDesk.Proofs.Narration.Numerals
import MetricDesk.Proofs.Number.Hundredths

/-! What becomes of a model's text. Main statement: `narrate_model`, the text is told as it stands
if the result supports all of its numerals, and otherwise the fallback sentence is told along with
the numerals it does not support. -/
namespace MetricDesk
open Leaves (Fits Measures)

/-- A numeral of a text agrees to two decimal places with a finite number of a value. -/
def Supported (v : Value) (t : List Char) : Prop :=
  ∃ x y, Reading.double? (String.ofList t) = some x ∧ Measures v y ∧ Double.AgreeInHundredths x y

namespace Grounding

theorem isFinite_of_inHundredths {x : Double} {k : Int} (h : x.InHundredths k) :
    x.isFinite = true := by
  obtain ⟨q, value, -⟩ := h
  cases x with
  | nan => cases value
  | infinite => cases value
  | finite => rfl

theorem mem_allowed {v : Value} (fits : Fits v) :
    ∃ known, allowed v = .ok known ∧
      ∀ x : Double, x.cents ∈ known ↔ ∃ y, Measures v y ∧ Double.AgreeInHundredths x y := by
  obtain ⟨ys, found, all⟩ := Leaves.mem_of fits
  refine ⟨(ys.filter (·.isFinite)).map (·.cents), by rw [allowed, found]; rfl, fun x => ?_⟩
  rw [List.mem_map]
  constructor
  · rintro ⟨y, mem, same⟩
    obtain ⟨mem, finite⟩ := List.mem_filter.mp mem
    exact ⟨y, (all y).mp mem, (Double.cents_eq_iff finite).mp same.symm⟩
  · rintro ⟨y, measured, agree⟩
    have finite : y.isFinite = true := by
      obtain ⟨k, -, there⟩ := agree
      exact isFinite_of_inHundredths there
    exact ⟨y, List.mem_filter.mpr ⟨(all y).mpr measured, finite⟩,
      ((Double.cents_eq_iff finite).mpr agree).symm⟩

theorem supported_iff {v : Value} {n : Numeral} (formed : n.WellFormed) :
    Supported v n.chars ↔ ∃ y, Measures v y ∧ Double.AgreeInHundredths n.value y := by
  have read := Numeral.double?_text formed
  unfold Supported
  constructor
  · rintro ⟨x, y, readX, found⟩
    obtain rfl := Option.some.inj (readX.symm.trans read)
    exact ⟨y, found⟩
  · rintro ⟨y, found⟩
    exact ⟨n.value, y, read, found⟩

open Classical in
/-- The numerals that are not supported, in order. -/
noncomputable def offending (v : Value) (ts : List (List Char)) : List String :=
  (ts.filter fun t => decide (¬ Supported v t)).map String.ofList

theorem offending_eq_nil {v : Value} {ts : List (List Char)} :
    offending v ts = [] ↔ ∀ t ∈ ts, Supported v t := by
  simp [offending]

theorem unsupported_eq {v : Value} {known : List String}
    (all : ∀ x : Double, x.cents ∈ known ↔ ∃ y, Measures v y ∧ Double.AgreeInHundredths x y)
    (text : String) :
    unsupported known text = offending v ((Numeral.scan text.toList).map Numeral.chars) := by
  rw [unsupported, offending, List.filter_map, List.map_map]
  congr 1
  apply List.filter_congr
  intro n mem
  have known := (all n.value).trans (supported_iff (Numeral.wellFormed_of_mem_scan mem)).symm
  by_cases supported : Supported v n.chars <;> simp [supported, known]

theorem verify_eq {v : Value} (fits : Fits v) (text : String) :
    verify v text =
      if offending v ((Numeral.scan text.toList).map Numeral.chars) = [] then .ok text
      else .error
        (.ungrounded (offending v ((Numeral.scan text.toList).map Numeral.chars))) := by
  obtain ⟨known, found, all⟩ := mem_allowed fits
  unfold verify
  rw [found]
  change (if (unsupported known text).isEmpty then _ else _) = _
  rw [unsupported_eq all]
  simp only [List.isEmpty_iff]
  rfl

theorem verify_error {v : Value} (fitsNot : ¬ Fits v) (text : String) :
    verify v text = .error (.arithmetic .intTooLarge) := by
  rw [verify, allowed, Leaves.of_error fitsNot]
  rfl

theorem ofText_error {r : Result} (fitsNot : ¬ Fits r.toValue) (text : String) :
    Narration.ofText r text = .error (.arithmetic .intTooLarge) := by
  rw [Narration.ofText, allowed, Leaves.of_error fitsNot]
  rfl

theorem ofText_eq {r : Result} (fits : Fits r.toValue) (text : String) :
    Narration.ofText r text =
      let missing := offending r.toValue ((Numeral.scan text.toList).map Numeral.chars)
      .ok (if missing = [] then ⟨text, true, []⟩ else ⟨Fallback.sentence r, false, missing⟩) := by
  obtain ⟨known, found, all⟩ := mem_allowed fits
  have missing := unsupported_eq all text
  unfold Narration.ofText
  rw [found]
  change (if (unsupported known text).isEmpty then _ else _) = _
  rw [missing]
  simp only [List.isEmpty_iff]
  split <;> rfl

end Grounding

theorem Narrator.narrate_apply {σ : Type} (n : Narrator σ) (r : Result) (maxTokens : Value)
    (s : σ) :
    n.narrate r maxTokens s = match n.draft r maxTokens s with
      | (.ok text, s') => (Narration.ofText r text, s')
      | (.error failure, s') => (.error failure, s') := by
  change (match n.draft r maxTokens s with
    | (found, s') => ExceptT.bindCont (m := StateM σ)
        (fun text => liftM (Narration.ofText r text)) found s') = _
  cases n.draft r maxTokens s with
  | mk found s' => cases found <;> rfl

theorem narrate_model {σ : Type} {n : Narrator σ} {model : Model σ} {r : Result}
    {maxTokens : Value} {text : String} {s s' : σ} (mode : n.mode = .model)
    (present : n.model = some model) (fits : Fits r.toValue)
    (said : model.text (Prompt.narration r)
      (if maxTokens.isEmpty then n.tokensFor r else maxTokens) s = (.ok text, s')) :
    ∃ ts, (∀ us, Numeral.Tokens text.toList us ↔ us = ts) ∧
      ((∀ t ∈ ts, Supported r.toValue t) → n.narrate r maxTokens s = (.ok ⟨text, true, []⟩, s')) ∧
      ((∃ t ∈ ts, ¬ Supported r.toValue t) → n.narrate r maxTokens s =
        (.ok ⟨Fallback.sentence r, false, Grounding.offending r.toValue ts⟩, s')) := by
  have tokens := Numeral.tokens_scan text.toList
  have told : n.narrate r maxTokens s = (Narration.ofText r text, s') := by
    have draft : n.draft r maxTokens s = (.ok text, s') := by
      rw [Narrator.draft, mode, present]
      exact said
    rw [Narrator.narrate_apply, draft]
  refine ⟨(Numeral.scan text.toList).map Numeral.chars, fun us => ?_, fun all => ?_, fun some => ?_⟩
  · constructor
    · exact fun other => Numeral.tokens_unique other tokens
    · rintro rfl
      exact tokens
  · rw [told, Grounding.ofText_eq fits]
    simp only [Grounding.offending_eq_nil.mpr all, if_true]
  · have missing : Grounding.offending r.toValue
        ((Numeral.scan text.toList).map Numeral.chars) ≠ [] := by
      obtain ⟨t, mem, unsupported⟩ := some
      exact fun none => unsupported (Grounding.offending_eq_nil.mp none t mem)
    rw [told, Grounding.ofText_eq fits]
    simp only [missing, if_false]

/-- A narrator whose model always says the same. -/
def Narrator.repeating (text : String) : Narrator Unit where
  mode := .model
  model := some
    { provider := "model", enabled := true
      json := fun _ _ => pure text, text := fun _ _ => pure text }
  shortTokens := .int 180
  deepTokens := .int 600

/-- A revenue of 100.125 of one day, which is 100.12 to two places. -/
def dailyRevenue : Result where
  question := "revenue today"
  tenant := "game-1"
  plan := ⟨"game-1", .revenue, .day, 1, [], .none, [], [], .short⟩
  summary := ⟨.ofRatio false 801 8, none, none, none⟩
  series := []
  table := []
  attribution := []
  confidence := .low

/-- The model's day and amount are supported, its tenths and its loss are not. -/
theorem narrate_dailyRevenue :
    ∃ ts, (∀ us, Numeral.Tokens "Day 1: 100.12, not 100.1 or -1.".toList us ↔ us = ts) ∧
      ((∀ t ∈ ts, Supported dailyRevenue.toValue t) →
        (Narrator.repeating "Day 1: 100.12, not 100.1 or -1.").narrate dailyRevenue .null () =
          (.ok ⟨"Day 1: 100.12, not 100.1 or -1.", true, []⟩, ())) ∧
      ((∃ t ∈ ts, ¬ Supported dailyRevenue.toValue t) →
        (Narrator.repeating "Day 1: 100.12, not 100.1 or -1.").narrate dailyRevenue .null () =
          (.ok ⟨Fallback.sentence dailyRevenue, false,
            Grounding.offending dailyRevenue.toValue ts⟩, ())) :=
  narrate_model rfl rfl (Leaves.fits_of_isOk (by decide +kernel)) rfl

end MetricDesk
