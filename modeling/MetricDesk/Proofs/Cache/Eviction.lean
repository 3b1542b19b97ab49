import Mathlib.Data.Finset.Card
import MetricDesk.Proofs.Cache.Timeline

/-! How long an entry stays. Main statements: `oldest?_split`, the entry to be evicted is older than
all before it; and `Outlasts.set`, on a clock that does not go back an entry stays until as many
other keys have been put in since as there is room for. -/
namespace MetricDesk.Cache

variable {τ α : Type}

theorem put_append (front back : List (String × Entry τ α)) (k : String) (e : Entry τ α) :
    put (front ++ back) k e =
      if k ∈ front.map (·.1) then put front k e ++ back else front ++ put back k e := by
  induction front with
  | nil => rfl
  | cons first rest ih =>
    obtain ⟨l, old⟩ := first
    rw [List.cons_append, put, put]
    by_cases here : l = k
    · simp [here]
    · have other : k ≠ l := Ne.symm here
      by_cases there : k ∈ rest.map (·.1)
      · simp only [if_neg here, ih, if_pos there, List.map_cons,
          if_pos (List.mem_cons_of_mem l there), List.cons_append]
      · have absent : k ∉ l :: rest.map (·.1) := by simp [other, there]
        simp only [if_neg here, ih, if_neg there, List.map_cons, if_neg absent, List.cons_append]

variable [Clock τ] {clock : Timeline τ}

/-! ### The oldest entry -/

/-- The search for the oldest entry: `mid` has been passed over, `pre` was there before. -/
theorem oldest?_from {rest : List (String × Entry τ α)} (pre mid : List (String × Entry τ α))
    {first oldest : String × Entry τ α} (h : oldest? (first :: rest) = some oldest)
    (reads : ∀ x ∈ pre ++ first :: mid ++ rest, clock.Reading x.2.created)
    (newer : ∀ x ∈ pre, clock.point first.2.created < clock.point x.2.created)
    (notOlder : ∀ x ∈ mid, clock.point first.2.created ≤ clock.point x.2.created) :
    ∃ front back, pre ++ first :: mid ++ rest = front ++ oldest :: back ∧
      ∀ x ∈ front, clock.point oldest.2.created < clock.point x.2.created := by
  induction rest generalizing pre mid first with
  | nil =>
    cases h
    exact ⟨pre, mid, List.append_nil _, newer⟩
  | cons next rest ih =>
    have older := clock.lt_iff (reads next (by simp)) (reads first (by simp))
    change oldest? ((if Clock.lt next.2.created first.2.created then next else first) :: rest) =
      some oldest at h
    by_cases less : clock.point next.2.created < clock.point first.2.created
    · have shifted : pre ++ first :: mid ++ next :: rest =
          (pre ++ first :: mid) ++ next :: [] ++ rest := by simp
      rw [if_pos (older.mpr less)] at h
      rw [shifted] at reads ⊢
      refine ih _ [] h reads (fun x mem => ?_) (by simp)
      rcases List.mem_append.mp mem with before | after
      · exact less.trans (newer x before)
      · rcases List.mem_cons.mp after with rfl | behind
        · exact less
        · exact less.trans_le (notOlder x behind)
    · have shifted : pre ++ first :: mid ++ next :: rest =
          pre ++ first :: (mid ++ [next]) ++ rest := by simp
      rw [if_neg fun lt => less (older.mp lt)] at h
      rw [shifted] at reads ⊢
      refine ih pre _ h reads newer fun x mem => ?_
      rcases List.mem_append.mp mem with before | last
      · exact notOlder x before
      · rw [List.mem_singleton.mp last]
        exact not_lt.mp less

/-- Of several that are the oldest it is the first. -/
theorem oldest?_split {entries : List (String × Entry τ α)} {oldest : String × Entry τ α}
    (reads : ∀ x ∈ entries, clock.Reading x.2.created) (h : oldest? entries = some oldest) :
    ∃ front back, entries = front ++ oldest :: back ∧
      ∀ x ∈ front, clock.point oldest.2.created < clock.point x.2.created := by
  cases entries with
  | nil => cases h
  | cons first rest => exact oldest?_from [] [] h reads (by simp) (by simp)

/-! ### Keys that were put in since -/

/-- Beside a key there is room for all these. -/
def Fits (room : Int) (key : String) (others : List String) : Prop :=
  ((others.toFinset.erase key).card : Int) < room

theorem Fits.mono {room : Int} {key : String} {few many : List String} (h : Fits room key many)
    (subset : few ⊆ many) : Fits room key few := by
  have fewer : few.toFinset ⊆ many.toFinset := fun k mem =>
    List.mem_toFinset.mpr (subset (List.mem_toFinset.mp mem))
  have counted := Finset.card_le_card (Finset.erase_subset_erase key fewer)
  unfold Fits at *
  omega

/-- An entry and the keys that were put in since: what stands behind it is one of these, and what
stands before it and is not is no newer. -/
structure Outlasts (clock : Timeline τ) (c : Cache τ α) (key : String) (e : Entry τ α)
    (since : List String) : Prop where
  once : c.keys.Nodup
  reads : ∀ x ∈ c.entries, clock.Reading x.2.created
  placed : ∃ front back, c.entries = front ++ (key, e) :: back ∧
    (∀ x ∈ front, x.1 ∈ since ∨ clock.point x.2.created ≤ clock.point e.created) ∧
    ∀ x ∈ back, x.1 ∈ since

namespace Outlasts

variable {c : Cache τ α} {key : String} {e : Entry τ α} {since : List String}

theorem mem (h : Outlasts clock c key e since) : (key, e) ∈ c.entries := by
  obtain ⟨front, back, split, -⟩ := h.placed
  rw [split]
  simp

theorem entry? (h : Outlasts clock c key e since) : c.entry? key = some e :=
  (mem_iff_lookup h.once).mp h.mem

theorem get_eq (h : Outlasts clock c key e since) {now : τ} (alive : e.isExpired now = false) :
    (c.get now key).1 = some e.value := by
  rw [(c.get_live now key).1, live?_eq_some.mpr ⟨h.entry?, alive⟩]
  rfl

/-- Other entries may go. -/
theorem filter (h : Outlasts clock c key e since) {d : Cache τ α}
    {p : String × Entry τ α → Bool} (stays : p (key, e) = true)
    (rest : d.entries = c.entries.filter p) : Outlasts clock d key e since := by
  obtain ⟨front, back, split, before, behind⟩ := h.placed
  refine ⟨?_, fun x mem => ?_, front.filter p, back.filter p, ?_,
    fun x mem => before x (List.mem_filter.mp mem).1,
    fun x mem => behind x (List.mem_filter.mp mem).1⟩
  · unfold keys
    rw [rest]
    exact h.once.sublist (List.filter_sublist.map _)
  · rw [rest] at mem
    exact h.reads x (List.mem_filter.mp mem).1
  · rw [rest, split, List.filter_append, List.filter_cons_of_pos stays]

theorem of_entries (h : Outlasts clock c key e since) {d : Cache τ α}
    (same : d.entries = c.entries) : Outlasts clock d key e since :=
  h.filter (p := fun _ => true) rfl (by rw [same, List.filter_true])

theorem remove (h : Outlasts clock c key e since) {k : String} (other : key ≠ k) :
    Outlasts clock (c.remove k) key e since :=
  h.filter (p := (·.1 != k)) (by simpa using other) rfl

/-- A look-up of any key leaves it, as long as it lives. -/
theorem get (h : Outlasts clock c key e since) {now : τ} (alive : e.isExpired now = false)
    (k : String) : Outlasts clock (c.get now k).2 key e since := by
  rcases get_cases c now k with ⟨same, -⟩ | ⟨old, same, found, dead⟩ | ⟨old, same, -⟩
  · rw [same]
    exact h.of_entries rfl
  · rw [same]
    have other : key ≠ k := by
      rintro rfl
      obtain rfl := Option.some.inj (h.entry?.symm.trans found)
      rw [alive] at dead
      cases dead
    exact (h.remove other).of_entries rfl
  · rw [same]
    exact h.of_entries rfl

/-- If it were evicted, everything else would have been put in since. -/
theorem since_of_oldest (h : Outlasts clock c key e since) {old : Entry τ α}
    (found : oldest? c.entries = some (key, old)) :
    ∃ others : List String, others.length + 1 = c.size ∧ others.Nodup ∧
      ∀ k ∈ others, k ≠ key ∧ k ∈ c.keys ∧ k ∈ since := by
  obtain ⟨front, back, split, before, behind⟩ := h.placed
  obtain ⟨front', back', split', newer⟩ := oldest?_split h.reads found
  obtain rfl : old = e := by
    have here := (mem_iff_lookup h.once).mp (mem_of_oldest? found)
    exact Option.some.inj (here.symm.trans h.entry?)
  -- The entry stands in one place only.
  have once := h.once
  simp only [keys, split, List.map_append, List.map_cons, List.nodup_middle,
    List.nodup_cons] at once
  obtain ⟨alone, once⟩ := once
  have apart : (key, old) ∉ front ∧ (key, old) ∉ back := by
    simp only [List.mem_append, List.mem_map, not_or] at alone
    exact ⟨fun mem => alone.1 ⟨_, mem, rfl⟩, fun mem => alone.2 ⟨_, mem, rfl⟩⟩
  obtain ⟨rfl, -, rfl⟩ :=
    (List.append_cons_inj_of_notMem apart.1 apart.2).mp (split.symm.trans split')
  refine ⟨front.map (·.1) ++ back.map (·.1), ?_, once, fun k mem => ⟨?_, ?_, ?_⟩⟩
  · simp [size, split]
    omega
  · rintro rfl
    exact alone mem
  · simp only [keys, split, List.map_append, List.map_cons, List.mem_append, List.mem_cons]
    exact (List.mem_append.mp mem).imp_right Or.inr
  · rcases List.mem_append.mp mem with inFront | inBack
    · obtain ⟨x, here, rfl⟩ := List.mem_map.mp inFront
      exact (before x here).resolve_right (not_le.mpr (newer x here))
    · obtain ⟨x, here, rfl⟩ := List.mem_map.mp inBack
      exact behind x here

/-- It is not evicted unless so many other keys were put in since that they fill the cache. -/
theorem roomFor (h : Outlasts clock c key e since) {k : String}
    (fits : Fits c.maxSize key (k :: since)) (other : k ≠ key) :
    Outlasts clock (c.roomFor k) key e since := by
  unfold Cache.roomFor
  split
  · next full =>
    obtain ⟨full, new⟩ := Bool.and_eq_true_iff.mp full
    rw [Bool.not_eq_true', ← Bool.not_eq_true, has_iff] at new
    unfold evictOldest
    split
    · next evicted old found =>
      apply h.remove
      rintro rfl
      obtain ⟨others, length, once, known⟩ := h.since_of_oldest found
      have distinct : (k :: others).Nodup :=
        List.nodup_cons.mpr ⟨fun mem => new (known k mem).2.1, once⟩
      have all : (k :: others).toFinset ⊆ (k :: since).toFinset.erase key := by
        intro l mem
        simp only [List.mem_toFinset, List.mem_cons, Finset.mem_erase] at mem ⊢
        rcases mem with rfl | mem
        · exact ⟨other, Or.inl rfl⟩
        · exact ⟨(known l mem).1, Or.inr (known l mem).2.2⟩
      have counted := Finset.card_le_card all
      rw [List.toFinset_card_of_nodup distinct, List.length_cons, length] at counted
      have full := of_decide_eq_true full
      unfold Fits at fits
      omega
    · exact h
  · exact h

/-- Another key that is put in joins those that were put in since. -/
theorem set (h : Outlasts clock c key e since) {now : τ} (reads : clock.Reading now) {k : String}
    (fits : Fits c.maxSize key (k :: since)) (other : k ≠ key) (value : α) (ttl : Option τ) :
    Outlasts clock (c.set now k value ttl) key e (k :: since) := by
  have roomy := h.roomFor fits other
  obtain ⟨front, back, split, before, behind⟩ := roomy.placed
  refine ⟨nodup_set h.once now k value ttl, fun x mem => ?_, ?_⟩
  · rcases mem_put mem with ⟨-, new⟩ | old
    · rw [new]
      exact reads
    · exact roomy.reads x old
  · rw [set_eq]
    simp only [split, put_append]
    by_cases there : k ∈ front.map (·.1)
    · refine ⟨put front k _, back, if_pos there, fun x mem => ?_,
        fun x mem => List.mem_cons_of_mem k (behind x mem)⟩
      rcases mem_put mem with ⟨same, -⟩ | old
      · exact Or.inl (same ▸ List.mem_cons_self)
      · exact (before x old).imp_left (List.mem_cons_of_mem k)
    · refine ⟨front, put back k ⟨value, now, ttl.getD c.defaultTtl⟩, ?_,
        fun x mem => (before x mem).imp_left (List.mem_cons_of_mem k), fun x mem => ?_⟩
      · rw [if_neg there, put, if_neg (Ne.symm other)]
      · rcases mem_put mem with ⟨same, -⟩ | old
        · exact same ▸ List.mem_cons_self
        · exact List.mem_cons_of_mem k (behind x old)

end Outlasts

/-! ### Entries in order -/

/-- Each key once, and nothing put in later than at a reading of the clock. -/
structure Orderly (clock : Timeline τ) (now : τ) (c : Cache τ α) : Prop where
  once : c.keys.Nodup
  past : ∀ x ∈ c.entries, clock.Before x.2.created now

namespace Orderly

variable {c : Cache τ α} {now : τ}

theorem of_nil (empty : c.entries = []) : Orderly clock now c := by
  refine ⟨?_, ?_⟩
  · simp [keys, empty]
  · simp [empty]

theorem later (h : Orderly clock now c) {t : τ} (later : clock.Before now t) :
    Orderly clock t c :=
  ⟨h.once, fun x mem => (h.past x mem).trans later⟩

theorem get (h : Orderly clock now c) (key : String) : Orderly clock now (c.get now key).2 :=
  ⟨nodup_get h.once now key, fun x mem => h.past x (get_subset c now key x mem)⟩

theorem set (h : Orderly clock now c) (reads : clock.Reading now) (key : String) (value : α)
    (ttl : Option τ) : Orderly clock now (c.set now key value ttl) := by
  refine ⟨nodup_set h.once now key value ttl, fun x mem => ?_⟩
  rcases mem_set mem with ⟨-, new⟩ | old
  · rw [new]
    exact .refl reads
  · exact h.past x old

/-- What is put in under a key that is not there stands behind all else. -/
theorem outlasts_of_absent (h : Orderly clock now c) (reads : clock.Reading now) {key : String}
    (absent : c.entry? key = none) (value : α) (ttl : Option τ) :
    Outlasts clock (c.set now key value ttl) key ⟨value, now, ttl.getD c.defaultTtl⟩ [] := by
  have after := h.set reads key value ttl
  have older : ∀ x ∈ (c.roomFor key).entries, x ∈ c.entries := by
    rcases roomFor_cases c key with ⟨same, -⟩ | ⟨-, -, k, -, removed⟩
    · rw [same]
      exact fun _ mem => mem
    · rw [removed]
      exact remove_subset c k
  have new : key ∉ (c.roomFor key).entries.map (·.1) := fun mem => by
    obtain ⟨x, here, same⟩ := List.mem_map.mp mem
    exact entry?_eq_none.mp absent (List.mem_map.mpr ⟨x, older x here, same⟩)
  refine ⟨after.once, fun x mem => (after.past x mem).left, (c.roomFor key).entries, [], ?_,
    fun x mem => Or.inr (h.past x (older x mem)).le, nofun⟩
  have appended := put_append (c.roomFor key).entries [] key ⟨value, now, ttl.getD c.defaultTtl⟩
  rwa [if_neg new, List.append_nil] at appended

/-- What is put in after it was missed stands behind all else. -/
theorem outlasts_of_missed (h : Orderly clock now c) (reads : clock.Reading now) {key : String}
    (missed : (c.get now key).1 = none) (value : α) (ttl : Option τ) :
    Outlasts clock ((c.get now key).2.set now key value ttl) key
      ⟨value, now, ttl.getD (c.get now key).2.defaultTtl⟩ [] := by
  refine (h.get key).outlasts_of_absent reads ?_ value ttl
  rw [(c.get_live now key).2 key, if_pos rfl]
  exact Option.map_eq_none_iff.mp ((c.get_live now key).1.symm.trans missed)

end Orderly
end MetricDesk.Cache
