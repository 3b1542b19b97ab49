import Mathlib.Data.List.Perm.Lattice
import MetricDesk.Value.Basic

/-! Documents whatever the order of their keys. Main statement: `alike_of_lookups`, objects that
have the same keys, each once, and alike values under them are alike. -/
namespace MetricDesk

namespace Fields

/-- These keys and no others. -/
def HasExactly (fields : Fields) (keys : List String) : Prop :=
  ∀ k, fields.has k = true ↔ k ∈ keys

theorem HasExactly.has {fields : Fields} {keys : List String} (exact : fields.HasExactly keys)
    {key : String} (mem : key ∈ keys) : fields.has key = true :=
  (exact key).mpr mem

/-- Something of a kind stands under a key. -/
def Under (fields : Fields) (key : String) (P : Value → Prop) : Prop :=
  ∃ v, fields.get? key = some v ∧ P v

theorem get?_cons (k : String) (v : Value) (fields : Fields) (key : String) :
    get? ((k, v) :: fields) key = if k = key then some v else get? fields key := by
  unfold get?
  rw [List.find?_cons]
  by_cases same : k = key
  · simp [same]
  · simp [same, beq_false_of_ne same]

theorem has_iff_mem_keys {fields : Fields} {k : String} :
    fields.has k = true ↔ k ∈ fields.keys := by
  simp [has, keys]

theorem get?_eq_none_iff {fields : Fields} {k : String} :
    fields.get? k = none ↔ k ∉ fields.keys := by
  rw [get?, Option.map_eq_none_iff, List.find?_eq_none, keys, List.mem_map]
  simp only [beq_iff_eq, not_exists, not_and]

theorem has_iff_get? {fields : Fields} {k : String} :
    fields.has k = true ↔ ∃ v, fields.get? k = some v := by
  rw [has_iff_mem_keys, ← Option.ne_none_iff_exists', ne_eq, get?_eq_none_iff, not_not]

/-- Where every key is there once, what stands under a key is what is looked up. -/
theorem mem_iff_get? {fields : Fields} (once : fields.keys.Nodup) {k : String} {v : Value} :
    (k, v) ∈ fields ↔ fields.get? k = some v := by
  induction fields with
  | nil => simp [get?]
  | cons f fields ih =>
    obtain ⟨l, w⟩ := f
    obtain ⟨absent, once⟩ := List.nodup_cons.mp once
    rw [List.mem_cons, get?_cons, Prod.mk.injEq]
    by_cases same : l = k
    · subst same
      have elsewhere : (l, v) ∉ fields := fun mem => absent (List.mem_map.mpr ⟨_, mem, rfl⟩)
      simp [elsewhere, eq_comm]
    · simp [same, Ne.symm same, ih once]

end Fields

namespace Value

/-- A value stands somewhere in another: it is the other, or it stands in an item of a list or under
a key of an object. -/
inductive Part (w : Value) : Value → Prop where
  | here : Part w w
  | item {xs : List Value} {x : Value} (mem : x ∈ xs) (inside : Part w x) : Part w (.list xs)
  | field {fs : Fields} {k : String} {x : Value} (mem : (k, x) ∈ fs) (inside : Part w x) :
    Part w (.obj fs)

/-- No object in a value has a key twice. -/
def Distinct (v : Value) : Prop := ∀ fs : Fields, Part (.obj fs) v → fs.keys.Nodup

theorem distinct_obj {fs : Fields} :
    Distinct (.obj fs) ↔ fs.keys.Nodup ∧ ∀ f ∈ fs, Distinct f.2 := by
  constructor
  · exact fun h => ⟨h fs .here, fun f mem gs inside => h gs (.field mem inside)⟩
  · rintro ⟨once, each⟩ gs (_ | _ | ⟨mem, inside⟩)
    · exact once
    · exact each _ mem gs inside

theorem distinct_list {xs : List Value} : Distinct (.list xs) ↔ ∀ x ∈ xs, Distinct x := by
  constructor
  · exact fun h x mem gs inside => h gs (.item mem inside)
  · rintro each gs (_ | ⟨mem, inside⟩)
    exact each _ mem gs inside

theorem distinct_str (s : String) : Distinct (.str s) := by rintro fs ⟨⟩

theorem distinct_num (n : Number) : Distinct (.num n) := by rintro fs ⟨⟩

theorem Distinct.field {fs : Fields} (h : Distinct (.obj fs)) {k : String} {v : Value}
    (found : fs.get? k = some v) : Distinct v := by
  obtain ⟨once, each⟩ := distinct_obj.mp h
  exact each (k, v) ((Fields.mem_iff_get? once).mpr found)

/-- The same but for the order of keys, at any depth. -/
inductive Alike : Value → Value → Prop where
  | same (v : Value) : Alike v v
  | item {x y : Value} {xs ys : List Value} (first : Alike x y)
    (others : Alike (.list xs) (.list ys)) : Alike (.list (x :: xs)) (.list (y :: ys))
  | field {k : String} {v w : Value} {fs gs : Fields} (first : Alike v w)
    (others : Alike (.obj fs) (.obj gs)) : Alike (.obj ((k, v) :: fs)) (.obj ((k, w) :: gs))
  | order {fs gs : Fields} {w : Value} (order : fs.Perm gs) (others : Alike (.obj gs) w) :
    Alike (.obj fs) w

/-- The fields of an object in the order of some keys. -/
theorem perm_lookups {fields : Fields} {keys : List String} (once : fields.keys.Nodup)
    (keysOnce : keys.Nodup) (exact : fields.HasExactly keys) :
    fields.Perm (keys.map fun k => (k, getD fields k)) := by
  have listed : (keys.map fun k => (k, getD fields k)).Nodup :=
    keysOnce.map fun k l same => (Prod.mk.inj same).1
  rw [List.perm_ext_iff_of_nodup once.of_map listed]
  rintro ⟨k, v⟩
  rw [Fields.mem_iff_get? once]
  constructor
  · intro found
    have key : k ∈ keys := (exact k).mp (Fields.has_iff_get?.mpr ⟨v, found⟩)
    exact List.mem_map.mpr ⟨k, key, by rw [getD, found, Option.getD_some]⟩
  · intro mem
    obtain ⟨l, key, same⟩ := List.mem_map.mp mem
    obtain ⟨rfl, rfl⟩ := Prod.mk.inj same
    obtain ⟨w, found⟩ := Fields.has_iff_get?.mp ((exact l).mpr key)
    rw [getD, found, Option.getD_some]

/-- Objects with the same keys, each once, and alike values under them. -/
theorem alike_of_lookups {fields gs : Fields} {keys : List String} (once : fields.keys.Nodup)
    (exact : fields.HasExactly keys) (keysOnce : keys.Nodup) (listed : gs.keys = keys)
    (each : ∀ g ∈ gs, ∃ v, fields.get? g.1 = some v ∧ Alike v g.2) :
    Alike (.obj fields) (.obj gs) := by
  apply Alike.order (perm_lookups once keysOnce exact)
  subst listed
  clear exact keysOnce
  induction gs with
  | nil => exact .same _
  | cons g gs ih =>
    obtain ⟨v, found, alike⟩ := each g List.mem_cons_self
    have here : getD fields g.1 = v := by rw [getD, found, Option.getD_some]
    rw [Fields.keys, List.map_cons, List.map_cons, here]
    exact .field alike (ih fun g mem => each g (List.mem_cons_of_mem _ mem))

end Value
end MetricDesk
