import MetricDesk.Cache.Basic

/-! What the entries of a cache have in common. Main statements: whatever holds of every entry goes
on to hold after each operation, if it holds of what is put in; and a look-up finds an entry under
the key that it asks for. -/
namespace MetricDesk.Cache

variable {τ α : Type}

/-- Every entry has a property of its key and its value. -/
def Holds (P : String → α → Prop) (c : Cache τ α) : Prop :=
  ∀ key e, (key, e) ∈ c.entries → P key e.value

variable {P : String → α → Prop} {c : Cache τ α}

theorem holds_empty (defaultTtl : τ) (maxSize : Int) :
    Holds P (empty (α := α) defaultTtl maxSize) := by
  intro key e h
  cases h

theorem Holds.mono {Q : String → α → Prop} (h : Holds P c) (weaker : ∀ key a, P key a → Q key a) :
    Holds Q c :=
  fun key e mem => weaker key e.value (h key e mem)

/-- Operations that only drop entries, or count, keep the property. -/
theorem Holds.of_subset {d : Cache τ α} (h : Holds P c)
    (subset : ∀ entry ∈ d.entries, entry ∈ c.entries) : Holds P d :=
  fun key e mem => h key e (subset _ mem)

theorem remove_subset (c : Cache τ α) (key : String) :
    ∀ entry ∈ (c.remove key).entries, entry ∈ c.entries :=
  fun _ mem => (List.mem_filter.mp mem).1

theorem clear_holds (c : Cache τ α) : Holds P c.clear.2 := by
  intro key e h
  cases h

/-- What stands in a list after a value is put in: the value, or what stood there. -/
theorem mem_put {entries : List (String × Entry τ α)} {key k : String} {e new : Entry τ α}
    (h : (k, e) ∈ put entries key new) : (k = key ∧ e = new) ∨ (k, e) ∈ entries := by
  induction entries with
  | nil =>
    rw [put, List.mem_singleton, Prod.mk.injEq] at h
    exact Or.inl h
  | cons entry rest ih =>
    obtain ⟨l, old⟩ := entry
    rw [put] at h
    split at h
    · next same =>
      rcases List.mem_cons.mp h with here | there
      · cases here
        exact Or.inl ⟨same, rfl⟩
      · exact Or.inr (List.mem_cons_of_mem _ there)
    · rcases List.mem_cons.mp h with here | there
      · exact Or.inr (here ▸ List.mem_cons_self)
      · exact (ih there).imp_right (List.mem_cons_of_mem _)

variable [Clock τ]

theorem evictOldest_subset (c : Cache τ α) :
    ∀ entry ∈ c.evictOldest.entries, entry ∈ c.entries := by
  unfold evictOldest
  split
  · exact remove_subset c _
  · exact fun _ mem => mem

/-- What stands in the cache after a set: the value, or what stood there. -/
theorem mem_set {now : τ} {key k : String} {value : α} {ttl : Option τ} {e : Entry τ α}
    (h : (k, e) ∈ (c.set now key value ttl).entries) :
    (k = key ∧ e = ⟨value, now, ttl.getD c.defaultTtl⟩) ∨ (k, e) ∈ c.entries := by
  refine (mem_put h).imp_right fun old => ?_
  split at old
  · exact evictOldest_subset c _ old
  · exact old

theorem set_holds (h : Holds P c) (now : τ) {key : String} {value : α} (ttl : Option τ)
    (new : P key value) : Holds P (c.set now key value ttl) := by
  intro k e mem
  rcases mem_set mem with ⟨rfl, rfl⟩ | old
  · exact new
  · exact h k e old

theorem get_subset (c : Cache τ α) (now : τ) (key : String) :
    ∀ entry ∈ (c.get now key).2.entries, entry ∈ c.entries := by
  unfold get
  split
  · exact fun _ mem => mem
  · split
    · exact remove_subset c key
    · exact fun _ mem => mem

theorem get_holds (h : Holds P c) (now : τ) (key : String) : Holds P (c.get now key).2 :=
  h.of_subset (get_subset c now key)

/-- What a look-up finds stands under its key. -/
theorem mem_of_get {now : τ} {key : String} {a : α} (h : (c.get now key).1 = some a) :
    ∃ e, (key, e) ∈ c.entries ∧ e.value = a := by
  unfold get at h
  split at h
  · cases h
  · next e found =>
    split at h
    · cases h
    · refine ⟨e, ?_, Option.some.inj h⟩
      obtain ⟨front, back, split, -⟩ := List.lookup_eq_some_iff.mp found
      rw [split]
      simp

theorem sweep_holds (h : Holds P c) (now : τ) : Holds P (c.sweep now).2 :=
  h.of_subset fun _ mem => (List.mem_filter.mp mem).1

end MetricDesk.Cache
