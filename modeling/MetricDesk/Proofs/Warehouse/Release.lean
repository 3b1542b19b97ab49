import Mathlib.Data.List.Basic
import MetricDesk.Proofs.Failure
import MetricDesk.Warehouse.Read

/-! What becomes of a connection. Main statement: `connections_ended`, whatever step of a read fails,
what was begun is rolled back and nothing is asked before writing is ruled out; the connection is
given back exactly if its transaction was begun and the rollback succeeded. -/
namespace MetricDesk.Warehouse

/-- What the caller of a connection may do with it. -/
inductive Act.Asked : Act → Prop
  | execute (text : String) (arguments : Option Fields) : Asked (.execute text arguments)
  | fetch : Asked .fetch

namespace Connection

variable {α β : Type} {db : Database}

/-- An act of a history succeeded. -/
def Did (db : Database) (history : List Act) (a : Act) : Prop :=
  ∃ before after, history = before ++ a :: after ∧ Succeeds (db before a)

/-- The statement that rules out writing. -/
def makeReadOnly : Act := .execute readOnlyText none

/-- What is done before a caller is let in. -/
def opening : List Act := [.connect, .begin, makeReadOnly]

/-- Work of a caller, which ends as it likes, also by a failure of its own, and has only asked. -/
def Asks (work : Work α) : Prop :=
  ∀ history, ∃ asked, (work history).2 = history ++ asked ∧ ∀ a ∈ asked, a.Asked

/-- What is so of a connection that its user is done with. -/
structure Ended (db : Database) (history : List Act) : Prop where
  /-- One connection was asked for. -/
  taken : history.countP (· matches .connect) = 1
  /-- The rollback was tried once if a transaction was begun, and not otherwise. -/
  rolledBack : history.countP (· matches .rollback) ≤ 1 ∧
    (.rollback ∈ history ↔ Did db history .begin)
  /-- It is given back, once, if a transaction was begun and rolled back, and not otherwise. -/
  closed : history.countP (· matches .close) ≤ 1 ∧
    (.close ∈ history ↔ Did db history .begin ∧ Did db history .rollback)
  /-- Nothing was asked before writing was ruled out. -/
  guarded : ∀ before a after, history = before ++ a :: after → a.Asked →
    before = [.connect, .begin] ∧ a = makeReadOnly ∨ Did db before makeReadOnly

/-! ### The course of a transaction -/

/-- The histories of a connection, by how far its transaction comes. -/
inductive Course (db : Database) : List Act → Prop
  | refused : Course db [.connect]
  | unbegun (failed : ¬ Succeeds (db [.connect] .begin)) : Course db [.connect, .begin]
  | begun (asked ending : List Act) (only : ∀ a ∈ asked, a.Asked)
      (begun : Succeeds (db [.connect] .begin))
      (safe : asked ≠ [] → Succeeds (db [.connect, .begin] makeReadOnly))
      (undone : Succeeds (db (opening ++ asked) .rollback) ∧ ending = [.close] ∨
        ¬ Succeeds (db (opening ++ asked) .rollback) ∧ ending = []) :
      Course db (opening ++ asked ++ .rollback :: ending)

/-- The history of an act with work behind it. -/
theorem act_bind_history (a : Act) (next : Grid → Work α) (history : List Act) :
    ((act db a >>= next) history).2 = match db history a with
      | .ok grid => (next grid (history ++ [a])).2
      | .error _ => history ++ [a] := by
  rw [Dialogue.bind_apply]
  unfold act
  cases db history a <;> rfl

theorem andAlways_history (work : Work α) (after : Work Unit) (history : List Act) :
    (andAlways work after history).2 = (after (work history).2).2 := by
  unfold andAlways
  match work history with
  | (found, left) =>
    match done : after left with
    | (.ok (), _) | (.error _, _) => simp only [done]

theorem finish_history (db : Database) (history : List Act) :
    ∃ ending, (finish db history).2 = history ++ .rollback :: ending ∧
      (Succeeds (db history .rollback) ∧ ending = [.close] ∨
        ¬ Succeeds (db history .rollback) ∧ ending = []) := by
  unfold finish
  rw [act_bind_history]
  cases undone : db history .rollback with
  | error failure => exact ⟨[], rfl, Or.inr ⟨nofun, rfl⟩⟩
  | ok grid =>
    refine ⟨[.close], ?_, Or.inl ⟨.ok grid, rfl⟩⟩
    simp only [act_bind_history]
    cases db (history ++ [.rollback]) .close <;> exact List.append_assoc _ _ _

theorem asks_act (db : Database) {a : Act} (asked : a.Asked) : Asks (act db a) := fun _ =>
  ⟨[a], rfl, List.forall_mem_singleton.mpr asked⟩

theorem asks_liftM (found : Except Failure α) : Asks (liftM found : Work α) := fun _ =>
  ⟨[], by cases found <;> exact (List.append_nil _).symm, nofun⟩

theorem Asks.bind {work : Work α} {next : α → Work β} (first : Asks work)
    (second : ∀ found, Asks (next found)) : Asks (work >>= next) := by
  intro history
  obtain ⟨asked, added, only⟩ := first history
  rw [Dialogue.bind_apply]
  match done : work history with
  | (.error failure, left) =>
    rw [done] at added
    exact ⟨asked, added, only⟩
  | (.ok found, left) =>
    rw [done] at added
    obtain ⟨more, behind, also⟩ := second found left
    refine ⟨asked ++ more, by rw [behind, ← List.append_assoc, ← added], ?_⟩
    exact List.forall_mem_append.mpr ⟨only, also⟩

/-- A caller is let in only when writing is ruled out. -/
theorem guarded_history (db : Database) {work : Work α} (asks : Asks work) (history : List Act) :
    ∃ asked, (∀ a ∈ asked, a.Asked) ∧ (asked ≠ [] → Succeeds (db history makeReadOnly)) ∧
      ((act db makeReadOnly >>= fun _ => work) history).2 = history ++ makeReadOnly :: asked := by
  rw [act_bind_history]
  cases safe : db history makeReadOnly with
  | error failure => exact ⟨[], nofun, nofun, rfl⟩
  | ok grid =>
    obtain ⟨asked, added, only⟩ := asks (history ++ [makeReadOnly])
    exact ⟨asked, only, fun _ => .ok grid, by simp [added]⟩

/-- A transaction takes one of the courses. -/
theorem course_readOnly (db : Database) {work : Work α} (asks : Asks work) :
    Course db (readOnly db work []).2 := by
  unfold readOnly
  rw [act_bind_history]
  cases db [] .connect with
  | error failure => exact .refused
  | ok grid =>
  simp only [act_bind_history, List.nil_append]
  cases begun : db [.connect] .begin with
  | error failure => exact .unbegun (by simp [Succeeds, begun])
  | ok grid =>
  obtain ⟨asked, only, safe, added⟩ := guarded_history db asks [.connect, .begin]
  obtain ⟨ending, finished, undone⟩ := finish_history db (opening ++ asked)
  simp only [List.cons_append, List.nil_append, andAlways_history]
  change Course db (finish db ((act db makeReadOnly >>= fun _ => work) [.connect, .begin]).2).2
  rw [added]
  change Course db (finish db (opening ++ asked)).2
  rw [finished]
  exact .begun asked ending only ⟨grid, begun⟩ safe undone

/-! ### What a history shows -/

/-- An act that stands at one place only of a history succeeded if it did there. -/
theorem did_iff (before : List Act) (a : Act) (after : List Act) (first : a ∉ before)
    (last : a ∉ after) : Did db (before ++ a :: after) a ↔ Succeeds (db before a) := by
  constructor
  · rintro ⟨front, behind, parts, succeeded⟩
    obtain ⟨rfl, -, -⟩ := (List.append_cons_inj_of_notMem first last).mp parts
    exact succeeded
  · exact fun succeeded => ⟨before, after, rfl, succeeded⟩

theorem not_did {history : List Act} {a : Act} (never : a ∉ history) : ¬ Did db history a := by
  rintro ⟨before, after, rfl, -⟩
  exact never (by simp)

theorem countP_asked {asked : List Act} (only : ∀ a ∈ asked, a.Asked) {p : Act → Bool}
    (never : ∀ a : Act, a.Asked → p a = false) : asked.countP p = 0 :=
  List.countP_eq_zero.mpr fun a mem => by simp [never a (only a mem)]

theorem guarded_of_unasked {history : List Act} (unasked : ∀ a ∈ history, ¬ a.Asked)
    (before : List Act) (a : Act) (after : List Act) (parts : history = before ++ a :: after)
    (asks : a.Asked) :
    before = [.connect, .begin] ∧ a = makeReadOnly ∨ Did db before makeReadOnly :=
  absurd asks (unasked a (by simp [parts]))

/-- Nothing is asked early if the rest of a history asks only where writing is ruled out. -/
theorem guarded_of_safe {asked ending : List Act} (done : ∀ a ∈ ending, ¬ a.Asked)
    (safe : asked ≠ [] → Succeeds (db [.connect, .begin] makeReadOnly))
    (before : List Act) (a : Act) (after : List Act)
    (parts : opening ++ asked ++ ending = before ++ a :: after)
    (asks : a.Asked) :
    before = [.connect, .begin] ∧ a = makeReadOnly ∨ Did db before makeReadOnly := by
  match before, parts with
  | [], parts | [_], parts =>
    cases parts
    cases asks
  | [_, _], parts =>
    cases parts
    exact Or.inl ⟨rfl, rfl⟩
  | _ :: _ :: _ :: before, parts =>
    simp only [opening, List.cons_append, List.nil_append, List.cons.injEq] at parts
    obtain ⟨rfl, rfl, rfl, parts⟩ := parts
    refine Or.inr ⟨[.connect, .begin], before, rfl, safe ?_⟩
    rintro rfl
    rw [List.nil_append] at parts
    exact done a (by simp [parts]) asks

theorem ended_of_course {history : List Act} (course : Course db history) : Ended db history := by
  cases course with
  | refused =>
    have idle : ¬ Did db [.connect] .begin := not_did (by simp)
    refine ⟨rfl, ⟨by decide, by simp [idle]⟩, ⟨by decide, by simp [idle]⟩, ?_⟩
    exact guarded_of_unasked (by rintro a mem ⟨⟩ <;> simp at mem)
  | unbegun failed =>
    have idle : ¬ Did db [.connect, .begin] .begin :=
      (did_iff [.connect] .begin [] (by simp) (by simp)).not.mpr failed
    refine ⟨rfl, ⟨by decide, by simp [idle]⟩, ⟨by decide, by simp [idle]⟩, ?_⟩
    exact guarded_of_unasked (by rintro a mem ⟨⟩ <;> simp at mem)
  | begun asked ending only begun safe undone =>
    have own {a : Act} (own : ¬ a.Asked) : a ∉ asked := fun mem => own (only a mem)
    have ends : ending = [.close] ∨ ending = [] := undone.imp And.right And.right
    have count (p : Act → Bool) (never : ∀ a : Act, a.Asked → p a = false) :
        (opening ++ asked ++ .rollback :: ending).countP p =
          opening.countP p + (Act.rollback :: ending).countP p := by
      rw [List.countP_append, List.countP_append, countP_asked only never, Nat.add_zero]
    have started : Did db (opening ++ asked ++ .rollback :: ending) .begin :=
      ⟨[.connect], _, rfl, begun⟩
    have given : Did db (opening ++ asked ++ .rollback :: ending) .rollback ↔
        ending = [.close] := by
      rw [did_iff]
      · rcases undone with ⟨done, rfl⟩ | ⟨failed, rfl⟩
        · exact iff_of_true done rfl
        · exact iff_of_false failed nofun
      · simp [opening, makeReadOnly, own (a := .rollback) nofun]
      · rcases ends with rfl | rfl <;> simp
    have unasked : ∀ a ∈ Act.rollback :: ending, ¬ a.Asked := by
      rcases ends with rfl | rfl <;> rintro a mem ⟨⟩ <;> simp at mem
    refine ⟨?_, ⟨?_, iff_of_true (by simp) started⟩, ⟨?_, ?_⟩, guarded_of_safe unasked safe⟩
    · rw [count _ (by rintro a ⟨⟩ <;> rfl)]
      rcases ends with rfl | rfl <;> rfl
    · rw [count _ (by rintro a ⟨⟩ <;> rfl)]
      rcases ends with rfl | rfl <;> decide
    · rw [count _ (by rintro a ⟨⟩ <;> rfl)]
      rcases ends with rfl | rfl <;> decide
    · rw [given, and_iff_right started]
      rcases ends with rfl | rfl <;> simp [opening, makeReadOnly, own (a := .close) nofun]

end Connection

open Connection

/-- A read asks for the limit of time, its statement and its rows. -/
theorem ended_read (db : Database) (usual : Int) (text : String) (arguments : Fields)
    (limit : Value) : Ended db (read db usual text arguments limit []).2 := by
  apply ended_of_course
  apply course_readOnly
  apply (asks_liftM _).bind
  intro n
  apply (asks_act db (.execute _ _)).bind
  intro limited
  apply (asks_act db (.execute _ _)).bind
  intro answered
  apply (asks_act db .fetch).bind
  intro fetched
  exact asks_liftM _

theorem ended_ping (db : Database) : Ended db (ping db []).2 := by
  have ended := ended_of_course (course_readOnly db (asks_act db (.execute "SELECT 1" none)))
  unfold ping
  match done : readOnly db (act db (.execute "SELECT 1" none)) [] with
  | (.ok _, history) =>
    rw [done] at ended
    exact ended
  | (.error failure, history) =>
    rw [done] at ended
    dsimp only
    split <;> exact ended

/-- Whoever uses a connection, and at whatever step that fails, in the end it is as `Ended` says. -/
theorem connections_ended (db : Database) :
    (∀ {α : Type} (work : Work α), Asks work → Ended db (readOnly db work []).2) ∧
      (∀ (usual : Int) (text : String) (arguments : Fields) (limit : Value),
        Ended db (read db usual text arguments limit []).2) ∧
      Ended db (ping db []).2 :=
  ⟨fun _ asks => ended_of_course (course_readOnly db asks), ended_read db, ended_ping db⟩

/-- A database that fails at some acts, and has no rows. -/
def failsAt (p : Act → Bool) : Database := fun _ a =>
  if p a then .error (.reported .statement "boom") else .ok ⟨[], []⟩

/-- A connection was there and is not given back, where the transaction does not begin and where the
rollback fails. -/
theorem connection_leaked :
    let unbegun := failsAt (· matches .begin)
    let unrolled := failsAt (· matches .rollback)
    let history (db : Database) := (readOnly db (act db (.execute "SELECT 1" none)) []).2
    (Did unbegun (history unbegun) .connect ∧ .close ∉ history unbegun) ∧
      Did unrolled (history unrolled) .connect ∧ .rollback ∈ history unrolled ∧
        .close ∉ history unrolled := by
  intro unbegun unrolled history
  have ended (db : Database) : Ended db (history db) :=
    (connections_ended db).1 _ (asks_act db (.execute "SELECT 1" none))
  have begun : Did unrolled (history unrolled) .begin := ⟨[.connect], _, rfl, .ok _⟩
  refine ⟨⟨⟨[], _, rfl, .ok _⟩, ?_⟩, ⟨[], _, rfl, .ok _⟩,
    (ended unrolled).rolledBack.2.mpr begun, ?_⟩
  · intro closed
    obtain ⟨⟨before, after, -, grid, found⟩, -⟩ := (ended unbegun).closed.2.mp closed
    cases found
  · intro closed
    obtain ⟨-, before, after, -, grid, found⟩ := (ended unrolled).closed.2.mp closed
    cases found

end MetricDesk.Warehouse
