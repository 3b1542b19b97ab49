import Mathlib.Data.List.Forall2
import MetricDesk.Model

/-! Work that may fail, seen from where it did not. Main statements: `exists_of_bind`, each part
came to something; and `exists_of_mapM` and `map_of_mapM`, what was collected was made of the items,
in their order. The other way round, work comes to something if each part of it does:
`Succeeds.bind` and what follows it. Two works agree if each part of them does: `Agree.bind`. -/
namespace MetricDesk

variable {ε α β : Type}

theorem exists_of_bind {work : Except ε α} {next : α → Except ε β} {b : β}
    (h : (work >>= next) = .ok b) : ∃ a, work = .ok a ∧ next a = .ok b := by
  cases work with
  | error failure => cases h
  | ok a => exact ⟨a, rfl, h⟩

theorem error_of_bind {work : Except ε α} {next : α → Except ε β} {failure : ε}
    (h : (work >>= next) = .error failure) :
    work = .error failure ∨ ∃ a, work = .ok a ∧ next a = .error failure := by
  cases work with
  | error failure' =>
    cases h
    exact Or.inl rfl
  | ok a => exact Or.inr ⟨a, rfl, h⟩

/-- Work after work in a dialogue goes on in the state that the first leaves. -/
theorem Dialogue.bind_apply {σ : Type} (work : Dialogue σ α) (next : α → Dialogue σ β) (s : σ) :
    (work >>= next) s = match work s with
      | (.ok a, s') => next a s'
      | (.error failure, s') => (.error failure, s') := by
  change (match work s with
    | (a, s') => ExceptT.bindCont next a s') = _
  cases work s with
  | mk found s' => cases found <;> rfl

theorem map_error_iff {work : Except ε α} {f : α → β} {failure : ε} :
    work.map f = .error failure ↔ work = .error failure := by
  cases work <;> simp [Except.map]

theorem exists_of_mapM {f : α → Except ε β} {xs : List α} {ys : List β} (h : xs.mapM f = .ok ys) :
    ∀ y ∈ ys, ∃ x ∈ xs, f x = .ok y := by
  induction xs generalizing ys with
  | nil =>
    rw [List.mapM_nil] at h
    cases h
    rintro y ⟨⟩
  | cons x xs ih =>
    rw [List.mapM_cons] at h
    obtain ⟨first, made, h⟩ := exists_of_bind h
    obtain ⟨others, rest, h⟩ := exists_of_bind h
    cases h
    intro y mem
    rcases List.mem_cons.mp mem with rfl | mem
    · exact ⟨x, List.mem_cons_self, made⟩
    · obtain ⟨x', mem', made'⟩ := ih rest y mem
      exact ⟨x', List.mem_cons_of_mem _ mem', made'⟩

theorem mapM_cons_eq_ok {f : α → Except ε β} {x : α} {xs : List α} {zs : List β} :
    (x :: xs).mapM f = .ok zs ↔ ∃ y ys, f x = .ok y ∧ xs.mapM f = .ok ys ∧ zs = y :: ys := by
  rw [List.mapM_cons]
  constructor
  · intro h
    obtain ⟨y, first, h⟩ := exists_of_bind h
    obtain ⟨ys, others, h⟩ := exists_of_bind h
    cases h
    exact ⟨y, ys, first, others, rfl⟩
  · rintro ⟨y, ys, first, others, rfl⟩
    rw [first, others]
    rfl

/-- What is collected stands beside the items it was made of. -/
theorem mapM_eq_ok_iff {f : α → Except ε β} {xs : List α} {ys : List β} :
    xs.mapM f = .ok ys ↔ List.Forall₂ (fun x y => f x = .ok y) xs ys := by
  induction xs generalizing ys with
  | nil =>
    rw [List.mapM_nil, List.forall₂_nil_left_iff]
    exact ⟨fun h => (Except.ok.inj h).symm, fun h => congrArg Except.ok h.symm⟩
  | cons x xs ih => simp only [mapM_cons_eq_ok, List.forall₂_cons_left_iff, ih]

theorem error_of_mapM {f : α → Except ε β} {xs : List α} {failure : ε}
    (h : xs.mapM f = .error failure) : ∃ x ∈ xs, f x = .error failure := by
  induction xs with
  | nil =>
    rw [List.mapM_nil] at h
    cases h
  | cons x xs ih =>
    rw [List.mapM_cons] at h
    rcases error_of_bind h with here | ⟨first, -, h⟩
    · exact ⟨x, List.mem_cons_self, here⟩
    · rcases error_of_bind h with later | ⟨others, -, h⟩
      · obtain ⟨x', mem, failed⟩ := ih later
        exact ⟨x', List.mem_cons_of_mem _ mem, failed⟩
      · cases h

/-- What is collected and the items have in common, in order. -/
theorem map_of_mapM {γ : Type} {f : α → Except ε β} {xs : List α} {ys : List β}
    (h : xs.mapM f = .ok ys) {of : α → γ} {made : β → γ}
    (same : ∀ x y, f x = .ok y → made y = of x) : ys.map made = xs.map of := by
  induction xs generalizing ys with
  | nil =>
    rw [List.mapM_nil] at h
    cases h
    rfl
  | cons x xs ih =>
    rw [List.mapM_cons] at h
    obtain ⟨first, here, h⟩ := exists_of_bind h
    obtain ⟨others, rest, h⟩ := exists_of_bind h
    cases h
    rw [List.map_cons, List.map_cons, same x first here, ih rest]

/-- What is collected where some items come to nothing. -/
theorem exists_of_filterMapM {f : α → Except ε (Option β)} {xs : List α} {ys : List β}
    (h : xs.filterMapM f = .ok ys) : ∀ y ∈ ys, ∃ x ∈ xs, f x = .ok (some y) := by
  induction xs generalizing ys with
  | nil =>
    rw [List.filterMapM_nil] at h
    cases h
    rintro y ⟨⟩
  | cons x xs ih =>
    rw [List.filterMapM_cons] at h
    obtain ⟨first, made, h⟩ := exists_of_bind h
    intro y mem
    cases first with
    | none =>
      obtain ⟨x', mem', made'⟩ := ih h y mem
      exact ⟨x', List.mem_cons_of_mem _ mem', made'⟩
    | some z =>
      obtain ⟨others, rest, h⟩ := exists_of_bind h
      cases h
      rcases List.mem_cons.mp mem with rfl | mem
      · exact ⟨x, List.mem_cons_self, made⟩
      · obtain ⟨x', mem', made'⟩ := ih rest y mem
        exact ⟨x', List.mem_cons_of_mem _ mem', made'⟩

theorem filterMapM_eq_ok {f : α → Except ε (Option β)} {g : α → Option β} {xs : List α}
    (each : ∀ x ∈ xs, f x = .ok (g x)) : xs.filterMapM f = .ok (xs.filterMap g) := by
  induction xs with
  | nil => rfl
  | cons x xs ih =>
    obtain ⟨here, others⟩ := List.forall_mem_cons.mp each
    rw [List.filterMapM_cons, here]
    cases made : g x with
    | none =>
      rw [List.filterMap_cons_none made, ← ih others]
      rfl
    | some y =>
      rw [List.filterMap_cons_some made]
      change (xs.filterMapM f >>= _) = _
      rw [ih others]
      rfl

theorem mapM_eq_ok {f : α → Except ε β} {g : α → β} {xs : List α}
    (each : ∀ x ∈ xs, f x = .ok (g x)) : xs.mapM f = .ok (xs.map g) := by
  induction xs with
  | nil => rfl
  | cons x xs ih =>
    obtain ⟨here, others⟩ := List.forall_mem_cons.mp each
    rw [List.mapM_cons, here]
    change (xs.mapM f >>= _) = _
    rw [ih others]
    rfl

theorem mapM_map_congr {γ δ : Type} {f : β → Except ε γ} {g : δ → Except ε γ} {k : α → β}
    {l : α → δ} {xs : List α} (each : ∀ x ∈ xs, f (k x) = g (l x)) :
    (xs.map k).mapM f = (xs.map l).mapM g := by
  induction xs with
  | nil => rfl
  | cons x xs ih =>
    obtain ⟨here, others⟩ := List.forall_mem_cons.mp each
    simp only [List.map_cons, List.mapM_cons, here, ih others]

/-! ### Work that comes to something -/

def Succeeds (work : Except ε α) : Prop := ∃ a, work = .ok a

namespace Succeeds

theorem ok (a : α) : Succeeds (.ok a : Except ε α) := ⟨a, rfl⟩

theorem bind {work : Except ε α} {next : α → Except ε β} (first : Succeeds work)
    (others : ∀ a, work = .ok a → Succeeds (next a)) : Succeeds (work >>= next) := by
  obtain ⟨a, rfl⟩ := first
  exact others a rfl

theorem mapM {f : α → Except ε β} {xs : List α} (each : ∀ x ∈ xs, Succeeds (f x)) :
    Succeeds (xs.mapM f) := by
  induction xs with
  | nil => exact .ok []
  | cons x xs ih =>
    obtain ⟨here, others⟩ := List.forall_mem_cons.mp each
    rw [List.mapM_cons]
    exact here.bind fun y _ => (ih others).bind fun ys _ => .ok (y :: ys)

theorem of_mapM {f : α → Except ε β} {xs : List α} (h : Succeeds (xs.mapM f)) :
    ∀ x ∈ xs, Succeeds (f x) := by
  induction xs with
  | nil => simp
  | cons x xs ih =>
    obtain ⟨zs, h⟩ := h
    obtain ⟨y, ys, first, others, -⟩ := mapM_cons_eq_ok.mp h
    exact List.forall_mem_cons.mpr ⟨⟨y, first⟩, ih ⟨ys, others⟩⟩

theorem filterMapM {f : α → Except ε (Option β)} {xs : List α}
    (each : ∀ x ∈ xs, Succeeds (f x)) : Succeeds (xs.filterMapM f) := by
  induction xs with
  | nil => exact .ok []
  | cons x xs ih =>
    obtain ⟨here, others⟩ := List.forall_mem_cons.mp each
    rw [List.filterMapM_cons]
    apply here.bind
    rintro (_ | y) _
    · exact ih others
    · exact (ih others).bind fun ys _ => .ok (y :: ys)

theorem foldlM {f : β → α → Except ε β} {xs : List α} {b : β}
    (each : ∀ b, ∀ x ∈ xs, Succeeds (f b x)) : Succeeds (xs.foldlM f b) := by
  induction xs generalizing b with
  | nil => exact .ok b
  | cons x xs ih =>
    rw [List.foldlM_cons]
    apply (each b x List.mem_cons_self).bind
    exact fun c _ => ih fun b y mem => each b y (List.mem_cons_of_mem _ mem)

end Succeeds

/-! ### Works that agree -/

/-- Two works fail alike or come to what is alike. -/
inductive Agree {α' : Type} (same : α → α' → Prop) : Except ε α → Except ε α' → Prop where
  | ok {a : α} {b : α'} (h : same a b) : Agree same (.ok a) (.ok b)
  | error (failure : ε) : Agree same (.error failure) (.error failure)

namespace Agree

variable {α' β' : Type} {same : α → α' → Prop} {also : β → β' → Prop}
  {work : Except ε α} {other : Except ε α'}

theorem refl (work : Except ε α) : Agree Eq work work := by
  cases work with
  | ok a => exact .ok rfl
  | error failure => exact .error failure

theorem bind {next : α → Except ε β} {follows : α' → Except ε β'} (first : Agree same work other)
    (others : ∀ a b, same a b → Agree also (next a) (follows b)) :
    Agree also (work >>= next) (other >>= follows) := by
  cases first with
  | ok h => exact others _ _ h
  | error failure => exact .error failure

theorem map {f : α → β} {g : α' → β'} (h : Agree same work other)
    (each : ∀ a b, same a b → also (f a) (g b)) : Agree also (work.map f) (other.map g) := by
  cases h with
  | ok h => exact .ok (each _ _ h)
  | error failure => exact .error failure

theorem mapError {ε' : Type} (f : ε → ε') (h : Agree same work other) :
    Agree same (work.mapError f) (other.mapError f) := by
  cases h with
  | ok h => exact .ok h
  | error failure => exact .error (f failure)

theorem mapM {f : α → Except ε β} {f' : α' → Except ε β'} {xs : List α} {ys : List α'}
    (items : List.Forall₂ same xs ys) (each : ∀ x y, same x y → Agree also (f x) (f' y)) :
    Agree (List.Forall₂ also) (xs.mapM f) (ys.mapM f') := by
  induction items with
  | nil => exact .ok .nil
  | cons first _ ih =>
    rw [List.mapM_cons, List.mapM_cons]
    apply (each _ _ first).bind
    intro z z' alike
    apply ih.bind
    intro zs zs' others
    exact .ok (.cons alike others)

theorem exists_ok {a : α} (h : Agree same (.ok a) other) : ∃ b, other = .ok b ∧ same a b := by
  cases h with
  | ok h => exact ⟨_, rfl, h⟩

end Agree
end MetricDesk
