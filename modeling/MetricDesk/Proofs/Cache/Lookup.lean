import MetricDesk.Proofs.Cache.Entries

/-! A cache as what is looked up in it. Main statements: `entry?_set`, `get_live` and
`entry?_sweep`, each operation says what stands under every key after it; and `size_set_le`, a full
cache stays within its size. -/
namespace MetricDesk.Cache

variable {τ α : Type}

/-! ### Lists of entries -/

theorem lookup_cons (k l : String) (e : Entry τ α) (entries : List (String × Entry τ α)) :
    ((l, e) :: entries).lookup k = if k = l then some e else entries.lookup k := by
  rw [List.lookup_cons]
  by_cases same : k = l
  · simp [same]
  · simp [same, beq_false_of_ne same]

theorem lookup_put (entries : List (String × Entry τ α)) (key : String) (e : Entry τ α)
    (k : String) : (put entries key e).lookup k = if k = key then some e else entries.lookup k := by
  induction entries with
  | nil => simp [put, lookup_cons]
  | cons entry rest ih =>
    obtain ⟨l, old⟩ := entry
    rw [put]
    by_cases here : l = key
    · rw [if_pos here, lookup_cons, lookup_cons, here]
      by_cases same : k = key <;> simp [same]
    · simp only [if_neg here, lookup_cons, ih]
      by_cases same : k = l
      · have other : k ≠ key := by rwa [same]
        rw [if_pos same, if_neg other, if_pos same]
      · rw [if_neg same, if_neg same]

theorem keys_put (entries : List (String × Entry τ α)) (key : String) (e : Entry τ α) :
    (put entries key e).map (·.1) =
      if key ∈ entries.map (·.1) then entries.map (·.1) else entries.map (·.1) ++ [key] := by
  induction entries with
  | nil => simp [put]
  | cons entry rest ih =>
    obtain ⟨l, old⟩ := entry
    rw [put]
    by_cases here : l = key
    · simp [here]
    · have other : key ≠ l := Ne.symm here
      by_cases there : key ∈ rest.map (·.1)
      · simp only [if_neg here, List.map_cons, ih, if_pos there,
          if_pos (List.mem_cons_of_mem l there)]
      · have absent : key ∉ l :: rest.map (·.1) := by simp [other, there]
        simp only [if_neg here, List.map_cons, ih, if_neg there, if_neg absent, List.cons_append]

theorem lookup_without (entries : List (String × Entry τ α)) (key k : String) :
    (entries.filter (·.1 != key)).lookup k = if k = key then none else entries.lookup k := by
  induction entries with
  | nil => simp
  | cons entry rest ih =>
    obtain ⟨l, e⟩ := entry
    rw [List.filter_cons, lookup_cons]
    by_cases here : l = key
    · have dropped : ¬ ((l, e).1 != key) = true := by simp [here]
      rw [if_neg dropped, ih, here]
      by_cases same : k = key <;> simp [same]
    · have kept : ((l, e).1 != key) = true := by simp [here]
      rw [if_pos kept, lookup_cons, ih]
      by_cases same : k = l
      · have other : k ≠ key := by rwa [same]
        rw [if_pos same, if_neg other, if_pos same]
      · rw [if_neg same, if_neg same]

theorem lookup_eq_none {entries : List (String × Entry τ α)} {k : String} :
    entries.lookup k = none ↔ k ∉ entries.map (·.1) := by
  rw [List.lookup_eq_none_iff]
  simp only [List.mem_map, not_exists, not_and, bne_iff_ne, ne_eq]
  constructor
  · exact fun all entry mem same => all entry mem same.symm
  · exact fun all entry mem same => all entry mem same.symm

/-- Where every key is there once, the entries are what is looked up. -/
theorem mem_iff_lookup {entries : List (String × Entry τ α)} (once : (entries.map (·.1)).Nodup)
    {k : String} {e : Entry τ α} : (k, e) ∈ entries ↔ entries.lookup k = some e := by
  induction entries with
  | nil => simp
  | cons entry rest ih =>
    obtain ⟨l, old⟩ := entry
    obtain ⟨absent, once⟩ := List.nodup_cons.mp once
    rw [List.mem_cons, lookup_cons, Prod.mk.injEq]
    by_cases same : k = l
    · subst same
      have elsewhere : (k, e) ∉ rest := fun mem => absent (List.mem_map.mpr ⟨_, mem, rfl⟩)
      simp [elsewhere, eq_comm]
    · simp [same, ih once]

theorem lookup_filter {entries : List (String × Entry τ α)} (once : (entries.map (·.1)).Nodup)
    (keep : Entry τ α → Bool) (k : String) :
    (entries.filter (keep ·.2)).lookup k = (entries.lookup k).filter keep := by
  have onceAfter : ((entries.filter (keep ·.2)).map (·.1)).Nodup :=
    once.sublist (List.filter_sublist.map _)
  apply Option.ext
  intro e
  rw [← mem_iff_lookup onceAfter, List.mem_filter, mem_iff_lookup once, Option.filter_eq_some_iff]

theorem size_put (entries : List (String × Entry τ α)) (key : String) (e : Entry τ α) :
    (put entries key e).length =
      if key ∈ entries.map (·.1) then entries.length else entries.length + 1 := by
  have keys := congrArg List.length (keys_put entries key e)
  rw [List.length_map] at keys
  rw [keys]
  by_cases there : key ∈ entries.map (·.1)
  · rw [if_pos there, if_pos there, List.length_map]
  · rw [if_neg there, if_neg there, List.length_append, List.length_map, List.length_singleton]

/-! ### Operations -/

theorem has_iff {c : Cache τ α} {key : String} : c.has key = true ↔ key ∈ c.keys := by
  simp [has, keys]

theorem entry?_eq_none {c : Cache τ α} {key : String} : c.entry? key = none ↔ key ∉ c.keys :=
  lookup_eq_none

theorem entry?_remove (c : Cache τ α) (key k : String) :
    Cache.entry? (c.remove key) k = if k = key then none else c.entry? k :=
  lookup_without c.entries key k

theorem nodup_remove {c : Cache τ α} (once : c.keys.Nodup) (key : String) :
    (c.remove key).keys.Nodup :=
  once.sublist (List.filter_sublist.map _)

theorem size_remove_lt {c : Cache τ α} {key : String} (mem : key ∈ c.keys) :
    (c.remove key).size < c.size := by
  obtain ⟨entry, listed, same⟩ := List.mem_map.mp mem
  apply List.length_filter_lt_length_iff_exists.mpr
  exact ⟨entry, listed, by simp [same]⟩

variable [Clock τ]

theorem mem_of_oldest? {entries : List (String × Entry τ α)} {entry : String × Entry τ α}
    (h : oldest? entries = some entry) : entry ∈ entries := by
  cases entries with
  | nil => cases h
  | cons first rest =>
    cases h
    apply List.foldlRecOn (motive := fun oldest : String × Entry τ α => oldest ∈ first :: rest)
    · exact List.mem_cons_self
    · intro oldest before next mem
      split
      · exact List.mem_cons_of_mem _ mem
      · exact before

/-- One entry is evicted, and none of an empty cache. -/
theorem evictOldest_cases (c : Cache τ α) :
    (c.entries = [] ∧ c.evictOldest = c) ∨ ∃ key ∈ c.keys, c.evictOldest = c.remove key := by
  unfold evictOldest
  cases found : oldest? c.entries with
  | none =>
    cases listed : c.entries with
    | nil => exact Or.inl ⟨rfl, rfl⟩
    | cons first rest => rw [listed] at found; cases found
  | some entry =>
    exact Or.inr ⟨entry.1, List.mem_map.mpr ⟨entry, mem_of_oldest? found, rfl⟩, rfl⟩

/-- The cache that a key is put into: without its oldest entry where it is full and the key new. -/
def roomFor (c : Cache τ α) (key : String) : Cache τ α :=
  if c.maxSize ≤ c.size && !c.has key then c.evictOldest else c

theorem set_eq (c : Cache τ α) (now : τ) (key : String) (value : α) (ttl : Option τ) :
    c.set now key value ttl = { c.roomFor key with
      entries := put (c.roomFor key).entries key ⟨value, now, ttl.getD c.defaultTtl⟩ } := rfl

/-- Room is made only for a new key in a full cache, and then of one entry. -/
theorem roomFor_cases (c : Cache τ α) (key : String) :
    (c.roomFor key = c ∧ (key ∈ c.keys ∨ c.size < c.maxSize ∨ c.entries = [])) ∨
      (key ∉ c.keys ∧ c.maxSize ≤ c.size ∧ ∃ k ∈ c.keys, c.roomFor key = c.remove k) := by
  unfold roomFor
  by_cases there : key ∈ c.keys
  · have has : c.has key = true := has_iff.mpr there
    exact Or.inl ⟨by simp [has], Or.inl there⟩
  · have hasNot : c.has key = false := by rwa [← Bool.not_eq_true, has_iff]
    by_cases full : c.maxSize ≤ c.size
    · have evicts : (c.maxSize ≤ c.size && !c.has key) = true := by simp [full, hasNot]
      rw [if_pos evicts]
      rcases evictOldest_cases c with ⟨empty, same⟩ | ⟨k, mem, removed⟩
      · exact Or.inl ⟨same, Or.inr (Or.inr empty)⟩
      · exact Or.inr ⟨there, full, k, mem, removed⟩
    · exact Or.inl ⟨by simp [full], Or.inr (Or.inl (by omega))⟩

/-- Making room changes no setting and no count. -/
theorem roomFor_kept (c : Cache τ α) (key : String) :
    (c.roomFor key).maxSize = c.maxSize ∧ (c.roomFor key).hits = c.hits ∧
      (c.roomFor key).misses = c.misses := by
  rcases roomFor_cases c key with ⟨same, -⟩ | ⟨-, -, k, -, removed⟩
  · rw [same]
    exact ⟨rfl, rfl, rfl⟩
  · rw [removed]
    exact ⟨rfl, rfl, rfl⟩

/-- What stands under each key after a set: the value under its own, and under every other what
stood there, but for one at most, which is lost only if the key is new and the cache full. -/
theorem entry?_set (c : Cache τ α) (now : τ) (key : String) (value : α) (ttl : Option τ) :
    ∃ lost : Option String,
      (∀ k, Cache.entry? (c.set now key value ttl) k =
        if k = key then some ⟨value, now, ttl.getD c.defaultTtl⟩
        else if lost = some k then none else c.entry? k) ∧
      (lost ≠ none → c.entry? key = none ∧ c.maxSize ≤ c.size) := by
  rw [set_eq]
  rcases roomFor_cases c key with ⟨same, -⟩ | ⟨absent, full, gone, -, removed⟩
  · refine ⟨none, ?_, fun lost => absurd rfl lost⟩
    intro k
    rw [same]
    simp [lookup_put, entry?]
  · refine ⟨some gone, ?_, fun _ => ⟨entry?_eq_none.mpr absent, full⟩⟩
    intro k
    have others := entry?_remove c gone k
    rw [removed]
    simp only [lookup_put, entry?, Option.some.injEq] at others ⊢
    rw [others]
    simp only [eq_comm]

theorem nodup_set {c : Cache τ α} (once : c.keys.Nodup) (now : τ) (key : String) (value : α)
    (ttl : Option τ) : (c.set now key value ttl).keys.Nodup := by
  have onceBefore : ((c.roomFor key).entries.map (·.1)).Nodup := by
    rcases roomFor_cases c key with ⟨same, -⟩ | ⟨-, -, k, -, removed⟩
    · rw [same]
      exact once
    · rw [removed]
      exact nodup_remove once k
  rw [set_eq, keys, keys_put]
  by_cases there : key ∈ (c.roomFor key).entries.map (·.1)
  · rw [if_pos there]
    exact onceBefore
  · rw [if_neg there]
    exact (List.perm_append_singleton key _).nodup_iff.mpr (List.nodup_cons.mpr ⟨there, onceBefore⟩)

/-- A cache that has room for one entry at all stays within its size. -/
theorem size_set_le {c : Cache τ α} (room : 1 ≤ c.maxSize) (within : c.size ≤ c.maxSize) (now : τ)
    (key : String) (value : α) (ttl : Option τ) :
    (c.set now key value ttl).size ≤ c.maxSize := by
  rw [set_eq, size, size_put]
  rcases roomFor_cases c key with ⟨same, free⟩ | ⟨-, full, k, mem, removed⟩
  · rw [same]
    by_cases there : key ∈ c.entries.map (·.1)
    · rw [if_pos there]
      exact within
    · rw [if_neg there]
      rcases free with listed | fewer | empty
      · exact absurd listed there
      · unfold size at fewer
        omega
      · rw [empty, List.length_nil]
        omega
  · have fewer := size_remove_lt mem
    rw [removed]
    unfold size at fewer within
    split <;> omega

/-! ### Live entries -/

/-- The entry under a key, if it is live. -/
def live? (c : Cache τ α) (now : τ) (key : String) : Option (Entry τ α) :=
  Option.filter (!·.isExpired now) <| c.entry? key

theorem live?_eq_some {c : Cache τ α} {now : τ} {key : String} {e : Entry τ α} :
    c.live? now key = some e ↔ c.entry? key = some e ∧ e.isExpired now = false := by
  rw [live?, Option.filter_eq_some_iff, Bool.not_eq_true']

/-- What a look-up does where nothing stands under the key, where a dead entry does, and where a live
one does. -/
theorem get_cases (c : Cache τ α) (now : τ) (key : String) :
    (c.get now key = (none, { c with misses := c.misses + 1 }) ∧ c.entry? key = none) ∨
      (∃ e, c.get now key = (none, { c.remove key with misses := c.misses + 1 }) ∧
        c.entry? key = some e ∧ e.isExpired now = true) ∨
      (∃ e, c.get now key = (some e.value, { c with hits := c.hits + 1 }) ∧
        c.entry? key = some e ∧ e.isExpired now = false) := by
  unfold get
  cases found : c.entry? key with
  | none => exact Or.inl ⟨rfl, rfl⟩
  | some e =>
    cases dead : e.isExpired now with
    | true => exact Or.inr (Or.inl ⟨e, if_pos dead, rfl, dead⟩)
    | false => exact Or.inr (Or.inr ⟨e, if_neg (Bool.eq_false_iff.mp dead), rfl, dead⟩)

/-- A look-up answers with the live value. After it only the entry that it looked for may be gone,
and only if that was dead. -/
theorem get_live (c : Cache τ α) (now : τ) (key : String) :
    (c.get now key).1 = (c.live? now key).map (·.value) ∧
      ∀ k, Cache.entry? (c.get now key).2 k = if k = key then c.live? now k else c.entry? k := by
  unfold live?
  rcases get_cases c now key with ⟨same, found⟩ | ⟨e, same, found, dead⟩ | ⟨e, same, found, alive⟩
  · rw [same, found]
    refine ⟨rfl, ?_⟩
    intro k
    by_cases here : k = key
    · rw [if_pos here, here, found]
      exact found
    · rw [if_neg here]
      rfl
  · have nothing : (some e).filter (!·.isExpired now) = none := by simp [Option.filter, dead]
    rw [same, found, nothing]
    refine ⟨rfl, ?_⟩
    intro k
    have gone := entry?_remove c key k
    by_cases here : k = key
    · subst here
      rw [if_pos rfl] at gone ⊢
      rw [found, nothing]
      exact gone
    · rw [if_neg here] at gone ⊢
      exact gone
  · have all : (some e).filter (!·.isExpired now) = some e := by simp [Option.filter, alive]
    rw [same, found, all]
    refine ⟨rfl, ?_⟩
    intro k
    by_cases here : k = key
    · rw [if_pos here, here, found, all]
      exact found
    · rw [if_neg here]
      rfl

theorem nodup_get {c : Cache τ α} (once : c.keys.Nodup) (now : τ) (key : String) :
    (c.get now key).2.keys.Nodup := by
  rcases get_cases c now key with ⟨same, -⟩ | ⟨e, same, -⟩ | ⟨e, same, -⟩
  · rw [same]
    exact once
  · rw [same]
    exact nodup_remove once key
  · rw [same]
    exact once

theorem size_get_le (c : Cache τ α) (now : τ) (key : String) :
    (c.get now key).2.size ≤ c.size ∧ (c.get now key).2.maxSize = c.maxSize := by
  rcases get_cases c now key with ⟨same, -⟩ | ⟨e, same, -⟩ | ⟨e, same, -⟩
  · rw [same]
    exact ⟨Nat.le_refl _, rfl⟩
  · rw [same]
    exact ⟨List.length_filter_le _ _, rfl⟩
  · rw [same]
    exact ⟨Nat.le_refl _, rfl⟩

/-- A look-up is counted once, as a hit where it is answered. -/
theorem get_counts (c : Cache τ α) (now : τ) (key : String) :
    (c.get now key).2.hits = c.hits + (c.get now key).1.toList.length ∧
      (c.get now key).2.hits + (c.get now key).2.misses = c.hits + c.misses + 1 := by
  rcases get_cases c now key with ⟨same, -⟩ | ⟨e, same, -⟩ | ⟨e, same, -⟩
  · rw [same]
    exact ⟨rfl, by simp only; omega⟩
  · rw [same]
    exact ⟨rfl, by simp only [remove]; omega⟩
  · rw [same]
    exact ⟨rfl, by simp only; omega⟩

/-- After a sweep the live entries are there and no other. -/
theorem entry?_sweep {c : Cache τ α} (once : c.keys.Nodup) (now : τ) (k : String) :
    Cache.entry? (c.sweep now).2 k = c.live? now k :=
  lookup_filter once (!·.isExpired now) k

/-- A sweep counts the keys whose entries are dead. -/
theorem sweep_count {c : Cache τ α} (once : c.keys.Nodup) (now : τ) :
    (c.sweep now).1 =
      (c.keys.filter fun k => Option.any (·.isExpired now) <| c.entry? k).length := by
  have each : c.entries.filter (·.2.isExpired now) =
      c.entries.filter fun entry => Option.any (·.isExpired now) <| c.entry? entry.1 := by
    apply List.filter_congr
    intro entry mem
    have found : c.entry? entry.1 = some entry.2 := (mem_iff_lookup once).mp mem
    rw [found, Option.any_some]
  rw [sweep, keys, List.filter_map, List.length_map, each]
  rfl

end MetricDesk.Cache
