import Mathlib.Data.String.Basic
import MetricDesk.Proofs.Json.Canonical
import MetricDesk.Proofs.Value.Alike

/-! Documents with their keys in order. Main statement: `sorted_eq_iff`, documents in which no object
has a key twice are the same with sorted keys iff they are the same but for the order of keys. -/
namespace MetricDesk.Json
open Value (Alike Distinct)

/-! ### One field among others -/

theorem mem_insertField {k : String} {v : Value} {fs : Fields} {f : String × Value} :
    f ∈ insertField k v fs ↔ f = (k, v) ∨ f ∈ fs := by
  induction fs with
  | nil => rw [insertField, List.mem_singleton, List.mem_nil_iff, or_false]
  | cons g fs ih =>
    rw [insertField]
    by_cases front : k ≤ g.1
    · rw [if_pos front, List.mem_cons]
    · rw [if_neg front, List.mem_cons, List.mem_cons, ih, or_left_comm]

theorem get?_insertField (k : String) (v : Value) (fs : Fields) (key : String) :
    Fields.get? (insertField k v fs) key = if k = key then some v else Fields.get? fs key := by
  induction fs with
  | nil => exact Fields.get?_cons k v [] key
  | cons g fs ih =>
    obtain ⟨l, w⟩ := g
    rw [insertField]
    by_cases front : k ≤ l
    · rw [if_pos front, Fields.get?_cons]
    · have other : k ≠ l := fun same => front (same ▸ le_refl k)
      rw [if_neg front, Fields.get?_cons, Fields.get?_cons, ih]
      by_cases here : l = key
      · have elsewhere : k ≠ key := here ▸ other
        rw [if_pos here, if_pos here, if_neg elsewhere]
      · rw [if_neg here, if_neg here]

/-- Two fields with different keys are inserted in either order. -/
theorem insertField_comm {k l : String} (other : k < l) (v w : Value) (fs : Fields) :
    insertField k v (insertField l w fs) = insertField l w (insertField k v fs) := by
  induction fs with
  | nil =>
    have behind : ¬ l ≤ k := not_le_of_gt other
    simp only [insertField, if_pos (le_of_lt other), if_neg behind]
  | cons g fs ih =>
    have behind : ¬ l ≤ k := not_le_of_gt other
    by_cases lFront : l ≤ g.1
    · have kFront : k ≤ g.1 := le_trans (le_of_lt other) lFront
      simp only [insertField, if_pos lFront, if_pos kFront, if_pos (le_of_lt other), if_neg behind]
    · by_cases kFront : k ≤ g.1
      · simp only [insertField, if_neg lFront, if_pos kFront, if_neg behind]
      · simp only [insertField, if_neg lFront, if_neg kFront, ih]

/-! ### All fields -/

theorem sortedFields_eq_foldr (fs : Fields) :
    sortedFields fs = fs.foldr (fun f behind => insertField f.1 (sorted f.2) behind) [] := by
  induction fs with
  | nil => rfl
  | cons f fs ih => rw [sortedFields, ih, List.foldr_cons]

theorem get?_sortedFields (fs : Fields) (key : String) :
    Fields.get? (sortedFields fs) key = (Fields.get? fs key).map sorted := by
  induction fs with
  | nil => rfl
  | cons f fs ih =>
    obtain ⟨k, v⟩ := f
    rw [sortedFields, get?_insertField, Fields.get?_cons, ih]
    by_cases here : k = key
    · rw [if_pos here, if_pos here, Option.map_some]
    · rw [if_neg here, if_neg here]

/-- The order in which fields stand does not matter where no key stands twice. -/
theorem sortedFields_perm {fs gs : Fields} (perm : fs.Perm gs) (once : fs.keys.Nodup) :
    sortedFields fs = sortedFields gs := by
  rw [sortedFields_eq_foldr, sortedFields_eq_foldr]
  apply perm.foldr_eq'
  intro f memF g memG behind
  rcases lt_trichotomy f.1 g.1 with less | same | more
  · exact (insertField_comm less (sorted f.2) (sorted g.2) behind).symm
  · have one : f = g := List.inj_on_of_nodup_map once memF memG same
    rw [one]
  · exact insertField_comm more (sorted g.2) (sorted f.2) behind

/-! ### Documents -/

mutual

theorem foreign?_sorted (v : Value) (json : foreign? v = none) : foreign? (sorted v) = none := by
  match v with
  | .list xs => exact foreignItem?_sortedItems xs json
  | .obj fs => exact foreignField?_sortedFields fs json
  | .null | .bool _ | .num _ | .str _ => exact json
  | .day _ | .moment _ | .decimal _ | .span _ => exact json

theorem foreignItem?_sortedItems (xs : List Value) (json : foreignItem? xs = none) :
    foreignItem? (sortedItems xs) = none := by
  match xs with
  | [] => rfl
  | x :: xs =>
    obtain ⟨here, there⟩ := orElse_eq_none json
    rw [sortedItems, foreignItem?, foreign?_sorted x here]
    exact foreignItem?_sortedItems xs there

theorem foreignField?_sortedFields (fs : List (String × Value)) (json : foreignField? fs = none) :
    foreignField? (sortedFields fs) = none := by
  match fs with
  | [] => rfl
  | (k, v) :: fs =>
    obtain ⟨here, there⟩ := orElse_eq_none json
    apply foreignField?_eq_none_iff.mpr
    rw [sortedFields]
    intro f mem
    rcases mem_insertField.mp mem with rfl | behind
    · exact foreign?_sorted v here
    · exact foreignField?_eq_none_iff.mp (foreignField?_sortedFields fs there) f behind

end

/-- Sorting the keys forgets their order. -/
theorem sorted_eq_of_alike {v w : Value} (alike : Alike v w) (distinct : Distinct v) :
    sorted v = sorted w := by
  induction alike with
  | same v => rfl
  | @item x y xs ys _ _ first others =>
    obtain ⟨here, there⟩ := List.forall_mem_cons.mp (Value.distinct_list.mp distinct)
    have items := others (Value.distinct_list.mpr there)
    simp only [sorted, Value.list.injEq] at items ⊢
    rw [sortedItems, sortedItems, first here, items]
  | @field k v w fs gs _ _ first others =>
    obtain ⟨once, each⟩ := Value.distinct_obj.mp distinct
    obtain ⟨here, there⟩ := List.forall_mem_cons.mp each
    have fields := others (Value.distinct_obj.mpr ⟨(List.nodup_cons.mp once).2, there⟩)
    simp only [sorted, Value.obj.injEq] at fields ⊢
    rw [sortedFields, sortedFields, first here, fields]
  | @order fs gs w perm _ others =>
    obtain ⟨once, each⟩ := Value.distinct_obj.mp distinct
    have onceAfter : (Fields.keys gs).Nodup := (perm.map Prod.fst).nodup_iff.mp once
    have eachAfter : ∀ g ∈ gs, Distinct g.2 := fun g mem => each g (perm.mem_iff.mpr mem)
    rw [← others (Value.distinct_obj.mpr ⟨onceAfter, eachAfter⟩), sorted, sorted,
      sortedFields_perm perm once]

mutual

/-- By induction on the first document, whose kind is that of the second. -/
theorem alike_of_sorted_eq (v : Value) {w : Value} (distinctV : Distinct v) (distinctW : Distinct w)
    (h : sorted v = sorted w) : Alike v w := by
  match v with
  | .list xs =>
    cases w with
    | list ys =>
      exact alike_of_sortedItems_eq xs (Value.distinct_list.mp distinctV)
        (Value.distinct_list.mp distinctW) (Value.list.inj h)
    | _ => cases h
  | .obj fs =>
    cases w with
    | obj gs =>
      obtain ⟨onceV, eachV⟩ := Value.distinct_obj.mp distinctV
      obtain ⟨onceW, eachW⟩ := Value.distinct_obj.mp distinctW
      have lookups (key : String) :
          (Fields.get? fs key).map sorted = (Fields.get? gs key).map sorted := by
        rw [← get?_sortedFields, Value.obj.inj h, get?_sortedFields]
      have keys : Fields.HasExactly fs (Fields.keys gs) := by
        intro key
        rw [← Fields.has_iff_mem_keys, Fields.has_iff_get?, Fields.has_iff_get?,
          ← Option.isSome_iff_exists, ← Option.isSome_iff_exists,
          ← Option.isSome_map, lookups, Option.isSome_map]
      apply Value.alike_of_lookups onceV keys onceW rfl
      intro g mem
      have found := lookups g.1
      rw [(Fields.mem_iff_get? onceW).mp mem, Option.map_some] at found
      obtain ⟨x, there, same⟩ := Option.map_eq_some_iff.mp found
      have memV : (g.1, x) ∈ fs := (Fields.mem_iff_get? onceV).mpr there
      exact ⟨x, there, alike_of_sortedFields_eq fs eachV (g.1, x) memV (eachW g mem) same⟩
    | _ => cases h
  | .null | .bool _ | .num _ | .str _ | .day _ | .moment _ | .decimal _ | .span _ =>
    cases w <;> cases h
    exact .same _

theorem alike_of_sortedItems_eq (xs : List Value) {ys : List Value}
    (distinctX : ∀ x ∈ xs, Distinct x) (distinctY : ∀ y ∈ ys, Distinct y)
    (h : sortedItems xs = sortedItems ys) : Alike (.list xs) (.list ys) := by
  match xs, ys with
  | [], [] => exact .same _
  | [], y :: ys => cases h
  | x :: xs, [] => cases h
  | x :: xs, y :: ys =>
    obtain ⟨hereX, thereX⟩ := List.forall_mem_cons.mp distinctX
    obtain ⟨hereY, thereY⟩ := List.forall_mem_cons.mp distinctY
    obtain ⟨first, others⟩ := List.cons.inj h
    exact .item (alike_of_sorted_eq x hereX hereY first)
      (alike_of_sortedItems_eq xs thereX thereY others)

theorem alike_of_sortedFields_eq (fs : List (String × Value)) (distinct : ∀ f ∈ fs, Distinct f.2)
    (f : String × Value) (mem : f ∈ fs) {w : Value} (distinctW : Distinct w)
    (h : sorted f.2 = sorted w) : Alike f.2 w := by
  match fs with
  | [] => cases mem
  | (k, v) :: fs =>
    obtain ⟨here, there⟩ := List.forall_mem_cons.mp distinct
    rcases List.mem_cons.mp mem with rfl | behind
    · exact alike_of_sorted_eq v here distinctW h
    · exact alike_of_sortedFields_eq fs there f behind distinctW h

end

/-- Sorting the keys forgets their order and nothing else. -/
theorem sorted_eq_iff {v w : Value} (distinctV : Distinct v) (distinctW : Distinct w) :
    sorted v = sorted w ↔ Alike v w :=
  ⟨alike_of_sorted_eq v distinctV distinctW, fun alike => sorted_eq_of_alike alike distinctV⟩

end MetricDesk.Json
