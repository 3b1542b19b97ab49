import MetricDesk.Proofs.Plan.Sentence

/-! What the check finds in drafts. Main statement: `Draft.found_of_window`, a draft is a plan
unless its window is too long or its metric is revenue per user, which has no breakdowns. -/
namespace MetricDesk

/-- A window has at least a day. -/
theorem Phrase.days_pos {q : List Char} {n : Nat} (h : days q = .ok n) : 0 < n := by
  unfold days at h
  split at h
  · split at h
    · cases h
    · cases h
      exact Nat.lt_of_lt_of_le Nat.one_pos (Nat.le_max_right _ _)
  · split at h
    · next p found =>
      cases h
      have all : ∀ p ∈ fixed, 0 < p.days := by decide
      exact all p (List.mem_of_find?_eq_some found)
    · cases h
      decide

theorem Violation.message_groupUnsupported (b : Breakdown) :
    (groupUnsupported b .arpdau).message =
      "Breakdown '" ++ b.name ++ "' is not supported for metric 'arpdau'. Supported: none" := by
  cases b <;> decide

namespace Plan

/-- Every metric has every breakdown, but for revenue per user, which has none. -/
theorem supportViolations_eq (metric : Metric) (breakdowns : List Breakdown) :
    supportViolations metric breakdowns =
      if metric = .arpdau then breakdowns.map (.groupUnsupported · .arpdau) else [] := by
  by_cases perUser : metric = .arpdau
  · rw [if_pos perUser, perUser, supportViolations]
    congr 1
    exact List.filter_eq_self.mpr fun _ _ => rfl
  · rw [if_neg perUser, supportViolations_eq_nil]
    intro b _
    cases metric with
    | arpdau => exact absurd rfl perUser
    | _ => cases b <;> decide

/-- What is found decides how a candidate that can be read ends. -/
theorem validate_of_found {p : Plan} {found : List Violation}
    (h : violations p.toValue = .ok found) :
    validate p.toValue = if found.isEmpty then .ok p else .error (.schema found) := by
  cases found with
  | nil => rw [validate_of_clear h, ofValue?_toValue]; rfl
  | cons v vs =>
    rw [validate, h]
    rfl

end Plan

namespace Draft

variable {question : String} {n : Nat}

/-- A draft is sound if its window has a double. -/
theorem exists_sound (read : Phrase.days (wording question) = .ok n) (bounded : n < Double.beyond) :
    ∃ p, of question = .ok p ∧ p.days = n ∧ p.Sound := by
  rw [of_eq_ofWords, ofWords, read]
  refine ⟨_, rfl, rfl, ?_⟩
  exact
    { game := Clause.isFilled_iff.mpr (Title.words_of question)
      positive := Phrase.days_pos read
      bounded
      filters := by rintro f ⟨⟩ }

/-- A draft whose window has a double is found to have a window beyond ten years, if it has, and to
ask for breakdowns of revenue per user, each one that it asks for; there is nothing else. With
neither it becomes a plan as it is. -/
theorem found_of_window (read : Phrase.days (wording question) = .ok n)
    (bounded : n < Double.beyond) :
    ∃ p found, of question = .ok p ∧ Plan.violations p.toValue = .ok found ∧
      p.days = n ∧ 1 ≤ n ∧ Words (.str p.game) ∧
      (found = [] ↔ n ≤ 3650 ∧ ¬ (p.metric = .arpdau ∧ p.breakdowns ≠ [])) ∧
      found.map Violation.message =
        (if 3650 < n then ["time_range.n must be at most 3650 days."] else []) ++
        (if p.metric = .arpdau then p.breakdowns.map fun b => "Breakdown '" ++ b.name ++
          "' is not supported for metric 'arpdau'. Supported: none" else []) ∧
      Plan.validate p.toValue = if found.isEmpty then .ok p else .error (.schema found) := by
  obtain ⟨p, made, rfl, sound⟩ := exists_sound read bounded
  have found := Plan.violations_of_sound sound
  rw [Plan.supportViolations_eq] at found
  refine ⟨p, _, made, found, rfl, sound.positive, Clause.isFilled_iff.mp sound.game, ?_, ?_,
    Plan.validate_of_found found⟩
  · rw [List.append_eq_nil_iff, Plan.windowViolations_eq_nil]
    refine and_congr_right fun _ => ?_
    split
    · next perUser => simp [perUser]
    · next other => simp [other]
  · rw [List.map_append]
    refine congrArg₂ (· ++ ·) ?_ ?_
    · by_cases long : 3650 < p.days
      · rw [if_pos long, Plan.windowViolations, if_pos (by exact long)]
        decide +kernel
      · rw [if_neg long, Plan.windowViolations, if_neg (by exact long)]
        rfl
    · split
      · rw [List.map_map]
        exact List.map_congr_left fun b _ => Violation.message_groupUnsupported b
      · rfl

/-- Fourteen years of revenue per user, by country and by platform: too long, and twice too fine. -/
theorem found_of_perUser :
    Phrase.days (wording "ARPDAU by country and platform, past 5000 days") = .ok 5000 ∧
      5000 < Double.beyond ∧
      ∃ p found, of "ARPDAU by country and platform, past 5000 days" = .ok p ∧
        Plan.violations p.toValue = .ok found ∧ found ≠ [] ∧ found.map Violation.message =
          ["time_range.n must be at most 3650 days.",
            "Breakdown 'country' is not supported for metric 'arpdau'. Supported: none",
            "Breakdown 'platform' is not supported for metric 'arpdau'. Supported: none"] := by
  have read : (Phrase.days (wording "ARPDAU by country and platform, past 5000 days")).toOption =
      some 5000 := by decide +kernel
  have asked : (of "ARPDAU by country and platform, past 5000 days").toOption.map
      (fun p => (p.metric, p.breakdowns)) = some (.arpdau, [.country, .platform]) := by
    decide +kernel
  have days :
      Phrase.days (wording "ARPDAU by country and platform, past 5000 days") = .ok 5000 := by
    generalize Phrase.days _ = n at read
    cases n with
    | error => cases read
    | ok n => rw [Option.some.inj read]
  have bounded : 5000 < Double.beyond := by decide +kernel
  obtain ⟨p, found, made, checked, -, -, -, empty, messages, -⟩ := found_of_window days bounded
  rw [made] at asked
  obtain ⟨metric, breakdowns⟩ := Prod.mk.inj (Option.some.inj asked)
  rw [metric, breakdowns] at empty messages
  refine ⟨days, bounded, p, found, made, checked, ?_, messages⟩
  rw [Ne, empty]
  omega

end Draft
end MetricDesk
