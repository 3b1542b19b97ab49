import MetricDesk.Evaluation.Command
import MetricDesk.Proofs.Failure
import MetricDesk.Proofs.Number.Hundredths

/-! What an evaluation says of a planner. Main statement: `evaluation_judged`, a question that asks
for a plan passes if it got the expected one; a question that asks for rejection passes, and is
counted as rejected, if the service failed in any way of its own, also where no plan was ever looked
at. -/
namespace MetricDesk

/-- A golden question, and how planning it ended. -/
structure Trial where
  golden : Golden
  outcome : Except Failure Plan

namespace Golden

def asks (g : Golden) : Bool := !g.rejection.isEmpty

/-- A value that is the number: a whole number, a double of that value, or a truth value. -/
inductive Counts (n : Nat) : Value → Prop where
  | whole : Counts n (.num (.int n))
  | double {x : Double} (value : x.rational? = some (n : ℚ)) : Counts n (.num (.dbl x))
  | truth {b : Bool} (value : b.toNat = n) : Counts n (.bool b)

/-- A plan is the one that is expected. -/
structure Expects (g : Golden) (p : Plan) : Prop where
  metric : g.metric = .str p.metric.name
  breakdowns : ∃ expected, members g.breakdowns = .ok expected ∧
    ∀ v, v ∈ expected ↔ ∃ b ∈ p.breakdowns, v = .str b.name
  comparison : g.comparison = .str p.comparison.name
  window : ∀ v ∈ g.days, Counts p.days v

end Golden

namespace Trial

/-- No plan came of it. -/
def failed (t : Trial) : Bool := !t.outcome.isOk

/-- A plan was made and the check of plans turned it down, or the reply was no JSON. -/
def refused (t : Trial) : Bool :=
  match t.outcome with
  | .ok _ => false
  | .error f => f.kind == .schemaValidation || f.kind == .planParse

/-- The service failed in another way, and no plan came to the check. -/
def stranded (t : Trial) : Bool := t.failed && !t.refused

/-- There is a plan and its breakdowns can be compared, or the failure is one that the service
answers. -/
def Ended (t : Trial) : Prop :=
  match t.outcome with
  | .ok _ => Succeeds (Golden.members t.golden.breakdowns)
  | .error f => f.kind.isOwn = true

end Trial

/-- What a score says of a trial. A question that asks for rejection passes with any failure, which
is right unless it was stranded. -/
structure Scored (t : Trial) (score : Score) : Prop where
  question : score.question = t.golden.question
  asked : t.golden.asks = true → score.passed = t.failed ∧ score.rejected = t.failed
  exact : t.golden.asks = true →
    ((score.passed = true ↔ t.refused = true) ↔ t.stranded = false)
  planned : t.golden.asks = false →
    (score.passed = true ↔ ∃ p, t.outcome = .ok p ∧ t.golden.Expects p)

/-- The trials of golden questions, one after another. -/
def Planner.trials (p : Planner σ) (day : String) : List Golden → σ → List Trial
  | [], _ => []
  | g :: gs, s => ⟨g, (p.plan g.question day s).1⟩ :: p.trials day gs (p.plan g.question day s).2

/-! ### What is expected -/

namespace Golden

theorem isText_iff {s : String} {v : Value} : isText s v = true ↔ v = .str s := by
  cases v with
  | str t =>
    rw [isText, beq_iff_eq, Value.str.injEq]
    exact eq_comm
  | _ => simp [isText]

theorem sameSet_iff {names : List String} {expected : List Value} :
    sameSet names expected = true ↔ ∀ v, v ∈ expected ↔ ∃ name ∈ names, v = .str name := by
  simp only [sameSet, Bool.and_eq_true, List.all_eq_true, List.any_eq_true, isText_iff]
  constructor
  · rintro ⟨named, all⟩ v
    constructor
    · exact named v
    · rintro ⟨name, mem, rfl⟩
      obtain ⟨w, found, rfl⟩ := all name mem
      exact found
  · intro same
    exact ⟨fun v => (same v).mp, fun name mem => ⟨_, (same _).mpr ⟨name, mem, rfl⟩, rfl⟩⟩

theorem counts_double {n : Nat} {x : Double} :
    Number.same (.int n) (.dbl x) = true ↔ x.rational? = some (n : ℚ) := by
  cases x with
  | nan => simp [Number.same, Number.compare?, Number.compareInt, Double.rational?]
  | infinite s =>
    cases s <;> simp [Number.same, Number.compare?, Number.compareInt, Double.rational?]
  | finite s m e h =>
    have pos : (0 : ℚ) < (Double.quotient m e).2 := by exact_mod_cast Double.quotient_pos m e
    simp only [Number.same, Number.compare?, Number.compareInt, beq_iff_eq, Option.some.injEq,
      compare_eq_iff_eq, Double.rational?, ← Double.quotient_size]
    cases s
    · simp only [Bool.false_eq_true, if_false, div_eq_iff pos.ne', eq_comm]
      norm_cast
    · simp only [if_true, ← neg_div, div_eq_iff pos.ne', eq_comm]
      norm_cast

theorem isCount_iff {n : Nat} {v : Value} : isCount n v = true ↔ Counts n v := by
  cases v with
  | num m =>
    cases m with
    | int k =>
      simp only [isCount, countOf?, Number.same, Number.compare?, beq_iff_eq, Option.some.injEq,
        compare_eq_iff_eq]
      constructor
      · rintro rfl
        exact .whole
      · rintro ⟨⟩
        rfl
    | dbl x =>
      rw [isCount, countOf?, counts_double]
      constructor
      · exact .double
      · rintro (_ | value)
        exact value
  | bool b =>
    simp only [isCount, countOf?, Number.same, Number.compare?, beq_iff_eq, Option.some.injEq,
      compare_eq_iff_eq]
    constructor
    · intro same
      exact .truth (by exact_mod_cast same.symm)
    · rintro (_ | _ | value)
      exact_mod_cast value.symm
  | _ =>
    constructor
    · rintro ⟨⟩
    · rintro ⟨⟩

theorem all_check {g : Golden} {p : Plan} {found : Checks} (h : g.check p = .ok found) :
    found.all = true ↔ g.Expects p := by
  obtain ⟨expected, read, h⟩ := exists_of_bind h
  cases h
  have groups (v : Value) : (∃ name ∈ p.groups, v = .str name) ↔
      ∃ b ∈ p.breakdowns, v = .str b.name := by
    simp [Plan.groups]
  have window : g.days.all (isCount p.days) = true ↔ ∀ v ∈ g.days, Counts p.days v := by
    simp only [Option.all_eq_true, isCount_iff, Option.mem_def]
  simp only [Checks.all, Bool.and_eq_true, isText_iff, sameSet_iff, groups, window]
  constructor
  · rintro ⟨⟨⟨metric, breakdowns⟩, comparison⟩, window⟩
    exact ⟨metric, ⟨expected, read, breakdowns⟩, comparison, window⟩
  · rintro ⟨metric, ⟨also, again, breakdowns⟩, comparison, window⟩
    cases read.symm.trans again
    exact ⟨⟨⟨metric, breakdowns⟩, comparison⟩, window⟩

end Golden

/-! ### The score of a trial -/

namespace Trial
variable {t : Trial} {score : Score}

/-- A trial ended if it can be scored. -/
theorem ended_iff : t.Ended ↔ Succeeds (Score.ofPlanning t.golden t.outcome) := by
  obtain ⟨g, outcome⟩ := t
  cases outcome with
  | ok p =>
    constructor
    · exact fun read => (read.bind fun _ _ => .ok _).bind fun _ _ => .ok _
    · rintro ⟨score, h⟩
      obtain ⟨found, checked, -⟩ := exists_of_bind h
      obtain ⟨expected, read, -⟩ := exists_of_bind checked
      exact ⟨expected, read⟩
  | error f =>
    constructor
    · exact fun own => ⟨Score.ofFailure g f, if_pos own⟩
    · rintro ⟨score, h⟩
      by_contra foreign
      cases (if_neg foreign).symm.trans h

theorem failed_of_refused (h : t.refused = true) : t.failed = true := by
  obtain ⟨g, outcome⟩ := t
  cases outcome with
  | ok p => cases h
  | error f => rfl

theorem passed_of_success {b : Bool} (h : score.success = .bool b) : score.passed = b := by
  rw [Score.passed, h, Value.isEmpty, Bool.not_not]

theorem passed_iff_refused (passed : score.passed = t.failed) :
    (score.passed = true ↔ t.refused = true) ↔ t.stranded = false := by
  rw [passed, stranded]
  cases refused : t.refused
  · simp
  · simp [failed_of_refused refused]

theorem scored_plan {g : Golden} {p : Plan} (h : Score.ofPlan g p = .ok score) :
    Scored ⟨g, .ok p⟩ score := by
  obtain ⟨found, checked, made⟩ := exists_of_bind h
  cases made
  have passed (score : Score) (h : score.success = .bool (g.rejection.isEmpty && found.all)) :=
    passed_of_success h
  have asked (asks : g.asks = true) : g.rejection.isEmpty = false := by
    simpa [Golden.asks] using asks
  refine ⟨rfl, fun asks => ?_, fun asks => passed_iff_refused ?_, fun asks => ?_⟩
  · rw [passed _ rfl, asked asks]
    exact ⟨rfl, rfl⟩
  · rw [passed _ rfl, asked asks]
    rfl
  · have empty : g.rejection.isEmpty = true := by simpa [Golden.asks] using asks
    rw [passed _ rfl, empty, Bool.true_and, Golden.all_check checked]
    exact ⟨fun as => ⟨p, rfl, as⟩, fun ⟨_, same, as⟩ => Except.ok.inj same ▸ as⟩

theorem scored_failure (g : Golden) (f : Failure) :
    Scored ⟨g, .error f⟩ (Score.ofFailure g f) := by
  refine ⟨rfl, fun asks => ⟨asks, rfl⟩, fun asks => passed_iff_refused asks, fun asks => ?_⟩
  constructor
  · intro passed
    cases asks.symm.trans passed
  · rintro ⟨p, none, -⟩
    cases none

theorem scored (h : Score.ofPlanning t.golden t.outcome = .ok score) : Scored t score := by
  obtain ⟨g, outcome⟩ := t
  cases outcome with
  | ok p => exact scored_plan h
  | error f =>
    rw [Score.ofPlanning] at h
    split at h
    · cases h
      exact scored_failure g f
    · cases h

end Trial

/-! ### The trials of an evaluation -/

namespace Planner
variable {σ : Type} (p : Planner σ) (day : String)

theorem trials_golden (gs : List Golden) (s : σ) : (p.trials day gs s).map Trial.golden = gs := by
  induction gs generalizing s with
  | nil => rfl
  | cons g gs ih => rw [trials, List.map_cons, ih]

theorem score_apply (entry : Value) (s : σ) :
    p.score day entry s = match Golden.ofEntry p.firstOperation entry with
      | .ok g => (Score.ofPlanning g (p.plan g.question day s).1, (p.plan g.question day s).2)
      | .error f => (.error f, s) := by
  rw [score, Dialogue.bind_apply]
  cases Golden.ofEntry p.firstOperation entry <;> rfl

theorem evaluate_cons (entry : Value) (entries : List Value) (s : σ) (scores : List Score) :
    (p.evaluate day (entry :: entries) s).1 = .ok scores ↔
      ∃ g score others, Golden.ofEntry p.firstOperation entry = .ok g ∧
        Score.ofPlanning g (p.plan g.question day s).1 = .ok score ∧
        (p.evaluate day entries (p.plan g.question day s).2).1 = .ok others ∧
        scores = score :: others := by
  rw [evaluate, List.mapM_cons, Dialogue.bind_apply, score_apply]
  cases read : Golden.ofEntry p.firstOperation entry with
  | error f => simp
  | ok g =>
    simp only [Except.ok.injEq, exists_eq_left', exists_and_left]
    cases made : Score.ofPlanning g (p.plan g.question day s).1 with
    | error f => simp
    | ok score =>
      simp only [Except.ok.injEq, exists_eq_left', Dialogue.bind_apply, evaluate]
      cases entries.mapM (p.score day) (p.plan g.question day s).2 with
      | mk rest s' =>
        cases rest with
        | error f => simp
        | ok others =>
          simp only [Except.ok.injEq, exists_eq_left']
          exact ⟨fun h => (Except.ok.inj h).symm, fun h => congrArg Except.ok h.symm⟩

/-- An evaluation comes to something where all entries can be read and all trials scored. -/
theorem evaluate_eq_ok_iff (entries : List Value) (s : σ) (scores : List Score) :
    (p.evaluate day entries s).1 = .ok scores ↔
      ∃ gs, entries.mapM (Golden.ofEntry p.firstOperation) = .ok gs ∧
        (p.trials day gs s).mapM (fun t => Score.ofPlanning t.golden t.outcome) = .ok scores := by
  induction entries generalizing s scores with
  | nil =>
    constructor
    · exact fun h => ⟨[], rfl, h⟩
    · rintro ⟨gs, read, h⟩
      cases read
      exact h
  | cons entry entries ih =>
    simp only [evaluate_cons, ih, mapM_cons_eq_ok]
    constructor
    · rintro ⟨g, score, others, read, made, ⟨gs, more, rest⟩, rfl⟩
      exact ⟨g :: gs, ⟨g, gs, read, more, rfl⟩,
        mapM_cons_eq_ok.mpr ⟨score, others, made, rest, rfl⟩⟩
    · rintro ⟨_, ⟨g, gs, read, more, rfl⟩, h⟩
      obtain ⟨score, others, made, rest, rfl⟩ := mapM_cons_eq_ok.mp h
      exact ⟨g, score, others, read, made, ⟨gs, more, rest⟩, rfl⟩

end Planner

/-! ### The counts -/

/-- What an evaluation says of its trials. Where the question asks for rejection, each of the
service's own failures counts, and so what is counted are the plans that were turned down and,
beside them, the questions for which there never was one. -/
structure Judged (trials : List Trial) (asks : List Bool) (scores : List Score) : Prop where
  each : List.Forall₂ Scored trials scores
  total : (Tally.of scores asks).rejected.total = trials.countP (·.golden.asks)
  hits : (Tally.of scores asks).rejected.hits =
    trials.countP (fun t => t.golden.asks && t.refused) +
      trials.countP fun t => t.golden.asks && t.stranded

namespace Trial

theorem countP_failed (trials : List Trial) :
    trials.countP (fun t => t.golden.asks && t.failed) =
      trials.countP (fun t => t.golden.asks && t.refused) +
        trials.countP fun t => t.golden.asks && t.stranded := by
  induction trials with
  | nil => rfl
  | cons t trials ih =>
    simp only [List.countP_cons, ih]
    cases asks : t.golden.asks
    · simp
    · cases refused : t.refused
      · simp [stranded, refused]
        omega
      · simp [stranded, refused, failed_of_refused refused]
        omega

theorem rejected_of {trials : List Trial} {scores : List Score}
    (each : List.Forall₂ Scored trials scores) :
    (Tally.of scores (trials.map (·.golden.asks))).rejected =
      ⟨trials.countP fun t => t.golden.asks && t.failed, trials.countP (·.golden.asks)⟩ := by
  induction each with
  | nil => rfl
  | @cons t score trials scores first others ih =>
    simp only [Tally.of, Tally.asking, Share.of, Share.mk.injEq] at ih ⊢
    cases asks : t.golden.asks
    · simpa [asks] using ih
    · simpa [asks, List.countP_cons, (first.asked asks).2] using ih

end Trial

theorem Golden.asks_ofEntry {operation : String} {entry : Value} {g : Golden}
    (h : ofEntry operation entry = .ok g) : g.asks = entryAsks entry := by
  unfold ofEntry at h
  split at h
  · split at h <;> cases h
    rfl
  · cases h

namespace Planner
variable {σ : Type} (p : Planner σ) (day : String)

/-- An evaluation comes to something iff every entry is a golden question and every trial ended, and
then it says of each trial what it should, but for the questions that ask for rejection: with them
it does not tell a plan that was turned down from any other failure. -/
theorem evaluation_judged (entries : List Value) (s : σ) :
    ((∃ scores, (p.evaluate day entries s).1 = .ok scores) ↔
      ∃ gs, entries.mapM (Golden.ofEntry p.firstOperation) = .ok gs ∧
        ∀ t ∈ p.trials day gs s, t.Ended) ∧
    ∀ gs scores, entries.mapM (Golden.ofEntry p.firstOperation) = .ok gs →
      (p.evaluate day entries s).1 = .ok scores →
      Judged (p.trials day gs s) (entries.map Golden.entryAsks) scores := by
  constructor
  · simp only [evaluate_eq_ok_iff]
    constructor
    · rintro ⟨scores, gs, read, made⟩
      exact ⟨gs, read, fun t mem => Trial.ended_iff.mpr (Succeeds.of_mapM ⟨scores, made⟩ t mem)⟩
    · rintro ⟨gs, read, ended⟩
      obtain ⟨scores, made⟩ := Succeeds.mapM fun t mem => Trial.ended_iff.mp (ended t mem)
      exact ⟨scores, gs, read, made⟩
  · intro gs scores read done
    obtain ⟨_, again, made⟩ := (p.evaluate_eq_ok_iff day entries s scores).mp done
    cases read.symm.trans again
    have each := (mapM_eq_ok_iff.mp made).imp fun t score => Trial.scored
    have asks : entries.map Golden.entryAsks = (p.trials day gs s).map (·.golden.asks) := by
      have same : gs.map Golden.asks = entries.map Golden.entryAsks :=
        map_of_mapM read fun _ _ => Golden.asks_ofEntry
      have told := congrArg (List.map Golden.asks) (p.trials_golden day gs s)
      rw [List.map_map] at told
      rw [← same, ← told]
      rfl
    rw [asks]
    have counted := Trial.rejected_of each
    refine ⟨each, by rw [counted], ?_⟩
    rw [counted]
    exact Trial.countP_failed _

/-- A library that is installed and never asked. -/
def idle : Client.Library := ⟨true, fun _ _ => .ok []⟩

/-- A planner whose client has no key. -/
def keyless : Planner Client.State where
  mode := .model
  model := some ((⟨some .openai, Settings.default⟩ : Client).model idle)
  maxTokens := .int Settings.default.plannerTokens

/-- Without a key nothing is planned, and a question that asks for rejection passes all the same and
is counted as rejected. -/
theorem keyless_judged :
    let question := "What was ARPDAU by country last week?"
    let outcome := (keyless.plan question "2025-04-01" .initial).1
    Command.planner Settings.default idle "openai" = .ok keyless ∧
      outcome = .error (.disabled (.key "OPENAI_API_KEY")) ∧
      ∃ score,
        (keyless.evaluate "2025-04-01" [Golden.rejecting question] .initial).1 = .ok [score] ∧
        score.passed = true ∧ score.rejected = true ∧
        (Tally.of [score] [true]).rejected.hits = 1 := by
  intro question outcome
  have stranded : outcome = .error (.disabled (.key "OPENAI_API_KEY")) := rfl
  let g := Golden.about question [("question", .str question), ("expect_rejected", .bool true)]
  have read : [Golden.rejecting question].mapM (Golden.ofEntry keyless.firstOperation) =
      .ok [g] := rfl
  have trials : keyless.trials "2025-04-01" [g] .initial = [⟨g, outcome⟩] := rfl
  obtain ⟨complete, judged⟩ :=
    evaluation_judged keyless "2025-04-01" [Golden.rejecting question] .initial
  obtain ⟨scores, done⟩ := complete.mpr ⟨[g], read, by simp [trials, stranded, Trial.Ended]; rfl⟩
  have judged := judged [g] scores read done
  rw [trials, stranded] at judged
  obtain ⟨score, rest, scored, none, rfl⟩ := List.forall₂_cons_left_iff.mp judged.each
  cases none
  obtain ⟨passed, rejected⟩ := scored.asked rfl
  exact ⟨rfl, stranded, score, done, passed, rejected, judged.hits⟩

end Planner
end MetricDesk
