import MetricDesk.Narration.Grounding
import MetricDesk.Proofs.Failure

/-! The numbers in a value. Main statements: `mem_of`, where all whole numbers of a value are in the
range of doubles exactly its numbers are found; `of_error`, otherwise none is; and `of_exact`, the
walk with a heap is the recursion over the value, each number is found as often as it stands there,
and what a text may name does not depend on the order of items and fields. -/
namespace MetricDesk

/-- The nearest double, also where that is infinite. -/
def Number.nearest : Number → Double
  | .int k => Double.ofInt k
  | .dbl x => x

/-- Values that differ in the order of items and fields alone, at any depth. -/
inductive Value.Reordered : Value → Value → Prop where
  | same (v : Value) : Reordered v v
  | item {x y : Value} {xs ys : List Value} (first : Reordered x y)
    (others : Reordered (.list xs) (.list ys)) : Reordered (.list (x :: xs)) (.list (y :: ys))
  | field {k : String} {v w : Value} {fs gs : Fields} (first : Reordered v w)
    (others : Reordered (.obj fs) (.obj gs)) :
    Reordered (.obj ((k, v) :: fs)) (.obj ((k, w) :: gs))
  | items {xs ys : List Value} {w : Value} (order : xs.Perm ys)
    (others : Reordered (.list ys) w) : Reordered (.list xs) w
  | fields {fs gs : Fields} {w : Value} (order : fs.Perm gs) (others : Reordered (.obj gs) w) :
    Reordered (.obj fs) w

namespace Leaves

/-- A number stands somewhere in a value: it is the value, or it stands in an item of a list or
under a key of an object. -/
inductive Leaf : Value → Number → Prop where
  | here (n : Number) : Leaf (.num n) n
  | item {xs : List Value} {x : Value} {n : Number} (mem : x ∈ xs) (inside : Leaf x n) :
    Leaf (.list xs) n
  | field {fs : List (String × Value)} {k : String} {v : Value} {n : Number} (mem : (k, v) ∈ fs)
    (inside : Leaf v n) : Leaf (.obj fs) n

/-- A number of a value as a double. What is no number stands for none. -/
def Measures (v : Value) (x : Double) : Prop :=
  ∃ n, Leaf v n ∧ n.isNan = false ∧ n.toDouble = .ok x

/-- All whole numbers of a value are in the range of doubles. -/
def Fits (v : Value) : Prop := ∀ k : Int, Leaf v (.int k) → (Double.ofInt k).isFinite = true

mutual

/-- The whole numbers and doubles in a value, each as often as it stands there. -/
def numbers : Value → List Number
  | .num n => if n.isNan then [] else [n]
  | .list xs => numbersOfItems xs
  | .obj fs => numbersOfFields fs
  | _ => []

def numbersOfItems : List Value → List Number
  | [] => []
  | x :: xs => numbers x ++ numbersOfItems xs

def numbersOfFields : List (String × Value) → List Number
  | [] => []
  | (_, v) :: fs => numbers v ++ numbersOfFields fs

end

theorem leaf_num {m n : Number} : Leaf (.num m) n ↔ n = m := by
  constructor
  · rintro ⟨⟩
    rfl
  · rintro rfl
    exact .here _

theorem leaf_list {xs : List Value} {n : Number} : Leaf (.list xs) n ↔ ∃ x ∈ xs, Leaf x n := by
  constructor
  · rintro (_ | ⟨mem, inside⟩ | _)
    exact ⟨_, mem, inside⟩
  · rintro ⟨x, mem, inside⟩
    exact .item mem inside

theorem leaf_obj {fs : List (String × Value)} {n : Number} :
    Leaf (.obj fs) n ↔ ∃ k v, (k, v) ∈ fs ∧ Leaf v n := by
  constructor
  · rintro (_ | _ | ⟨mem, inside⟩)
    exact ⟨_, _, mem, inside⟩
  · rintro ⟨k, v, mem, inside⟩
    exact .field mem inside

/-! ### Heaps of values

A heap has the numbers of the list of its values. -/

theorem leaf_cons {v : Value} {heap : List Value} {n : Number} :
    Leaf (.list (v :: heap)) n ↔ Leaf v n ∨ Leaf (.list heap) n := by
  rw [leaf_list, leaf_list]
  simp

theorem leaf_pile {xs heap : List Value} {n : Number} :
    Leaf (.list (pile xs heap)) n ↔ Leaf (.list (.list xs :: heap)) n := by
  induction xs generalizing heap with
  | nil => simp [pile, leaf_list]
  | cons x xs ih =>
    have item : Leaf (.list (x :: xs)) n ↔ Leaf (.list xs) n ∨ Leaf x n := by
      rw [leaf_cons, or_comm]
    rw [pile, ih, leaf_cons, leaf_cons, leaf_cons, item, or_assoc]

theorem leaf_fields {f : String × Value} {fs : List (String × Value)} {n : Number} :
    Leaf (.obj (f :: fs)) n ↔ Leaf f.2 n ∨ Leaf (.obj fs) n := by
  rw [leaf_obj, leaf_obj]
  constructor
  · rintro ⟨k, v, mem, inside⟩
    rcases List.mem_cons.mp mem with rfl | mem
    · exact Or.inl inside
    · exact Or.inr ⟨k, v, mem, inside⟩
  · rintro (inside | ⟨k, v, mem, inside⟩)
    · exact ⟨f.1, f.2, List.mem_cons_self, inside⟩
    · exact ⟨k, v, List.mem_cons_of_mem f mem, inside⟩

theorem leaf_pileFields {fs : List (String × Value)} {heap : List Value} {n : Number} :
    Leaf (.list (pileFields fs heap)) n ↔ Leaf (.list (.obj fs :: heap)) n := by
  induction fs generalizing heap with
  | nil => simp [pileFields, leaf_list, leaf_obj]
  | cons f fs ih =>
    obtain ⟨k, v⟩ := f
    rw [pileFields, ih, leaf_cons, leaf_cons, leaf_cons, leaf_fields, or_assoc, or_left_comm]

theorem Fits.congr {v w : Value} (same : ∀ n, Leaf v n ↔ Leaf w n) : Fits v ↔ Fits w :=
  forall_congr' fun _ => imp_congr_left (same _)

theorem Measures.congr {v w : Value} (same : ∀ n, Leaf v n ↔ Leaf w n) (y : Double) :
    Measures v y ↔ Measures w y :=
  exists_congr fun n => and_congr_left' (same n)

/-! ### The numbers found -/

/-- What is to be found in a value, or why nothing is. -/
def Found (v : Value) (outcome : Except ArithmeticFault (List Double)) : Prop :=
  (∃ ys, Fits v ∧ outcome = .ok ys ∧ ∀ y, y ∈ ys ↔ Measures v y) ∨
    (¬ Fits v ∧ outcome = .error .intTooLarge)

theorem Found.congr {v w : Value} {outcome : Except ArithmeticFault (List Double)}
    (same : ∀ n, Leaf v n ↔ Leaf w n) (found : Found w outcome) : Found v outcome := by
  unfold Found at found ⊢
  simpa only [Fits.congr same, Measures.congr same] using found

theorem found_ofNumber (n : Number) : Found (.num n) ((ofNumber n).map Option.toList) := by
  have only (m : Number) : Leaf (.num n) m ↔ m = n := leaf_num
  cases n with
  | dbl x =>
    refine Or.inl ⟨if x.isNan then [] else [x], ?_, ?_, ?_⟩
    · intro k whole
      cases (only _).mp whole
    · unfold ofNumber
      change Except.map _ (if x.isNan then _ else _) = _
      cases x.isNan <;> rfl
    · intro y
      constructor
      · intro mem
        split at mem
        · simp at mem
        · next number =>
          rw [List.mem_singleton.mp mem]
          exact ⟨_, .here _, by simpa [Number.isNan] using number, rfl⟩
      · rintro ⟨m, leaf, number, double⟩
        rw [(only m).mp leaf] at number double
        obtain rfl : x = y := Except.ok.inj double
        change x.isNan = false at number
        simp [number]
  | int k =>
    have fits : Fits (.num (.int k)) ↔ (Double.ofInt k).isFinite = true := by
      constructor
      · exact fun fits => fits k (.here _)
      · intro finite l leaf
        cases (only _).mp leaf
        exact finite
    unfold Found
    rw [fits]
    cases finite : (Double.ofInt k).isFinite with
    | false =>
      exact Or.inr ⟨by simp, by simp [ofNumber, Number.isNan, Number.toDouble, finite, Except.map]⟩
    | true =>
      have double : (Number.int k).toDouble = .ok (Double.ofInt k) := by
        simp [Number.toDouble, finite]
      refine Or.inl ⟨[Double.ofInt k], rfl, ?_, ?_⟩
      · simp [ofNumber, Number.isNan, double, Except.map]
      · intro y
        rw [List.mem_singleton]
        constructor
        · rintro rfl
          exact ⟨_, .here _, rfl, double⟩
        · rintro ⟨m, leaf, -, measured⟩
          rw [(only m).mp leaf, double] at measured
          exact (Except.ok.inj measured).symm

theorem Found.cons {v : Value} {heap : List Value} {x : Except ArithmeticFault (List Double)}
    {rest : Except ArithmeticFault (List Double)} (here : Found v x)
    (there : Found (.list heap) rest) :
    Found (.list (v :: heap)) (do return (← x) ++ (← rest)) := by
  have fits : Fits (.list (v :: heap)) ↔ Fits v ∧ Fits (.list heap) := by
    unfold Fits
    simp only [leaf_cons, or_imp, forall_and]
  have measures (y : Double) :
      Measures (.list (v :: heap)) y ↔ Measures v y ∨ Measures (.list heap) y := by
    unfold Measures
    simp only [leaf_cons, or_and_right, exists_or]
  unfold Found
  simp only [fits, measures]
  rcases here with ⟨xs, fitsHere, rfl, found⟩ | ⟨fitsNot, rfl⟩
  · rcases there with ⟨ys, fitsThere, rfl, more⟩ | ⟨fitsNot, rfl⟩
    · refine Or.inl ⟨xs ++ ys, ⟨fitsHere, fitsThere⟩, rfl, fun y => ?_⟩
      rw [List.mem_append, found, more]
    · exact Or.inr ⟨fun both => fitsNot both.2, rfl⟩
  · exact Or.inr ⟨fun both => fitsNot both.1, rfl⟩

theorem found_collect (heap : List Value) : Found (.list heap) (collect heap) := by
  induction heap using collect.induct with
  | case1 =>
    refine Or.inl ⟨[], ?_, by rw [collect], ?_⟩
    · intro k leaf
      simp [leaf_list] at leaf
    · intro y
      simp [Measures, leaf_list]
  | case2 n rest ih =>
    have both := (found_ofNumber n).cons ih
    rw [collect]
    cases outcome : ofNumber n <;> rw [outcome] at both <;> exact both
  | case3 xs rest ih =>
    rw [collect]
    exact ih.congr fun n => leaf_pile.symm
  | case4 fs rest ih =>
    rw [collect]
    exact ih.congr fun n => leaf_pileFields.symm
  | case5 v rest noNumber noList noObject _ ih =>
    rw [collect]
    · refine ih.congr fun n => ?_
      rw [leaf_cons]
      constructor
      · rintro (leaf | leaf)
        · cases leaf with
          | here => exact absurd rfl (noNumber _)
          | item => exact absurd rfl (noList _)
          | field => exact absurd rfl (noObject _)
        · exact leaf
      · exact Or.inr
    all_goals assumption

theorem found_of (v : Value) : Found v (of v) :=
  (found_collect [v]).congr fun n => by simp [leaf_list]

theorem mem_of {v : Value} (fits : Fits v) : ∃ ys, of v = .ok ys ∧ ∀ y, y ∈ ys ↔ Measures v y := by
  rcases found_of v with ⟨ys, -, found, all⟩ | ⟨fitsNot, -⟩
  · exact ⟨ys, found, all⟩
  · exact absurd fits fitsNot

theorem fits_of_isOk {v : Value} (found : (of v).isOk = true) : Fits v := by
  rcases found_of v with ⟨_, fits, -⟩ | ⟨-, error⟩
  · exact fits
  · rw [error] at found
    cases found

theorem of_error {v : Value} (fitsNot : ¬ Fits v) : of v = .error .intTooLarge := by
  rcases found_of v with ⟨_, fits, -⟩ | ⟨-, error⟩
  · exact absurd fits fitsNot
  · exact error

/-! ### The walk and the recursion -/

theorem pile_eq (xs heap : List Value) : pile xs heap = xs.reverse ++ heap := by
  induction xs generalizing heap with
  | nil => rfl
  | cons x xs ih => rw [pile, ih, List.reverse_cons, List.append_assoc, List.singleton_append]

theorem pileFields_eq (fs : List (String × Value)) (heap : List Value) :
    pileFields fs heap = (fs.map Prod.snd).reverse ++ heap := by
  induction fs generalizing heap with
  | nil => rfl
  | cons f fs ih =>
    rw [pileFields, ih, List.map_cons, List.reverse_cons, List.append_assoc, List.singleton_append]

theorem withinFields_eq (fs : List (String × Value)) :
    withinFields fs = withinItems (fs.map Prod.snd) := by
  induction fs with
  | nil => rfl
  | cons f fs ih => rw [withinFields, ih, List.map_cons, withinItems]

theorem withinItems_append (xs ys : List Value) :
    withinItems (xs ++ ys) = do return (← withinItems ys) ++ (← withinItems xs) := by
  induction xs with
  | nil =>
    rw [List.nil_append, withinItems]
    cases withinItems ys with
    | error fault => rfl
    | ok found => exact congrArg Except.ok (List.append_nil found).symm
  | cons x xs ih =>
    rw [List.cons_append, withinItems, withinItems, ih]
    simp only [bind_assoc, pure_bind, List.append_assoc]

theorem withinItems_singleton (v : Value) : withinItems [v] = within v := by
  rw [withinItems, withinItems]
  cases within v <;> rfl

theorem withinItems_concat (xs : List Value) (x : Value) :
    withinItems (xs ++ [x]) = do return (← within x) ++ (← withinItems xs) := by
  rw [withinItems_append, withinItems_singleton]

/-- A heap has the numbers of its values, the topmost first. -/
theorem collect_eq (heap : List Value) : collect heap = withinItems heap.reverse := by
  induction heap using collect.induct with
  | case1 => rw [collect]; rfl
  | case2 n rest ih =>
    rw [collect, ih, List.reverse_cons, withinItems_concat, within]
    cases ofNumber n <;> rfl
  | case3 xs rest ih =>
    rw [collect, ih, pile_eq, List.reverse_append, List.reverse_reverse, withinItems_append,
      List.reverse_cons, withinItems_concat, within]
  | case4 fs rest ih =>
    rw [collect, ih, pileFields_eq, List.reverse_append, List.reverse_reverse, withinItems_append,
      List.reverse_cons, withinItems_concat, within, withinFields_eq]
  | case5 v rest noNumber noList noObject _ ih =>
    rw [collect, ih, List.reverse_cons, withinItems_concat, within]
    · cases withinItems rest.reverse <;> rfl
    all_goals assumption

/-- The walk comes to what the recursion comes to, in the same order. -/
theorem of_eq_within (v : Value) : of v = within v := by
  rw [of, collect_eq, List.reverse_singleton, withinItems_singleton]

/-! ### The numbers that are found -/

theorem perm_of_ofNumber {n : Number} {x : Option Double} (h : ofNumber n = .ok x) :
    x.toList = (numbers (.num n)).map Number.nearest := by
  unfold ofNumber at h
  rw [numbers]
  split at h
  · next none =>
    cases h
    rw [if_pos none]
    rfl
  · next number =>
    rw [if_neg number]
    cases n with
    | dbl y =>
      cases h
      rfl
    | int k =>
      simp only [Number.toDouble] at h
      split at h
      · cases h
        rfl
      · cases h

theorem perm_part {l m : List Number} {xs ys : List Double} (later : ys.Perm (m.map Number.nearest))
    (here : xs.Perm (l.map Number.nearest)) : (ys ++ xs).Perm ((l ++ m).map Number.nearest) := by
  rw [List.map_append]
  exact (later.append here).trans List.perm_append_comm

mutual

/-- The recursion comes to the numbers of a value, each as often as it stands there. -/
theorem within_perm (v : Value) {ys : List Double} (h : within v = .ok ys) :
    ys.Perm ((numbers v).map Number.nearest) := by
  match v with
  | .num n =>
    rw [within] at h
    cases read : ofNumber n with
    | error fault =>
      rw [read] at h
      cases h
    | ok x =>
      rw [read] at h
      cases h
      exact .of_eq (perm_of_ofNumber read)
  | .list xs => exact withinItems_perm xs h
  | .obj fs => exact withinFields_perm fs h
  | .null | .bool _ | .str _ | .day _ | .moment _ | .decimal _ | .span _ =>
    cases h
    exact .nil

theorem withinItems_perm (xs : List Value) {ys : List Double} (h : withinItems xs = .ok ys) :
    ys.Perm ((numbersOfItems xs).map Number.nearest) := by
  match xs with
  | [] =>
    cases h
    exact .nil
  | x :: xs =>
    rw [withinItems] at h
    obtain ⟨later, rest, h⟩ := exists_of_bind h
    obtain ⟨here, first, h⟩ := exists_of_bind h
    cases h
    exact perm_part (withinItems_perm xs rest) (within_perm x first)

theorem withinFields_perm (fs : List (String × Value)) {ys : List Double}
    (h : withinFields fs = .ok ys) : ys.Perm ((numbersOfFields fs).map Number.nearest) := by
  match fs with
  | [] =>
    cases h
    exact .nil
  | (_, v) :: fs =>
    rw [withinFields] at h
    obtain ⟨later, rest, h⟩ := exists_of_bind h
    obtain ⟨here, first, h⟩ := exists_of_bind h
    cases h
    exact perm_part (withinFields_perm fs rest) (within_perm v first)

end

/-! ### The order of items and fields -/

theorem numbersOfItems_eq (xs : List Value) : numbersOfItems xs = xs.flatMap numbers := by
  induction xs with
  | nil => rfl
  | cons x xs ih => rw [numbersOfItems, ih, List.flatMap_cons]

theorem numbersOfFields_eq (fs : List (String × Value)) :
    numbersOfFields fs = fs.flatMap fun f => numbers f.2 := by
  induction fs with
  | nil => rfl
  | cons f fs ih => rw [numbersOfFields, ih, List.flatMap_cons]

theorem numbers_perm {v w : Value} (h : v.Reordered w) : (numbers v).Perm (numbers w) := by
  induction h with
  | same v => exact .refl _
  | item first others here later => exact here.append later
  | field first others here later => exact here.append later
  | items order others ih =>
    refine List.Perm.trans ?_ ih
    simp only [numbers, numbersOfItems_eq]
    exact order.flatMap_right numbers
  | fields order others ih =>
    refine List.Perm.trans ?_ ih
    simp only [numbers, numbersOfFields_eq]
    exact order.flatMap_right _

theorem leaf_reordered {v w : Value} (h : v.Reordered w) (n : Number) : Leaf v n ↔ Leaf w n := by
  induction h with
  | same v => rfl
  | item first others here later => rw [leaf_cons, leaf_cons, here, later]
  | field first others here later => rw [leaf_fields, leaf_fields, here, later]
  | items order others ih =>
    rw [← ih, leaf_list, leaf_list]
    simp only [order.mem_iff]
  | fields order others ih =>
    rw [← ih, leaf_obj, leaf_obj]
    simp only [order.mem_iff]

theorem fits_reordered {v w : Value} (h : v.Reordered w) : Fits v ↔ Fits w := by
  simp only [Fits, leaf_reordered h]

theorem of_perm {v : Value} (fits : Fits v) :
    ∃ ys, of v = .ok ys ∧ ys.Perm ((numbers v).map Number.nearest) := by
  obtain ⟨ys, found, -⟩ := mem_of fits
  exact ⟨ys, found, within_perm v (of_eq_within v ▸ found)⟩

/-- The walks through reordered values agree. -/
theorem agree_of {v w : Value} (h : v.Reordered w) : Agree List.Perm (of v) (of w) := by
  by_cases fits : Fits v
  · obtain ⟨xs, found, all⟩ := of_perm fits
    obtain ⟨ys, also, others⟩ := of_perm ((fits_reordered h).mp fits)
    rw [found, also]
    exact .ok (all.trans (((numbers_perm h).map _).trans others.symm))
  · rw [of_error fits, of_error fun other => fits ((fits_reordered h).mpr other)]
    exact .error _

theorem agree_allowed {v w : Value} (h : v.Reordered w) :
    Agree List.Perm (Grounding.allowed v) (Grounding.allowed w) := by
  have leaves : Agree List.Perm (arithmetic (of v)) (arithmetic (of w)) :=
    (agree_of h).mapError Failure.arithmetic
  exact leaves.bind fun xs ys order => .ok ((order.filter (·.isFinite)).map (·.cents))

/-- The walk through a value with a heap is the recursion over it, it comes to each number of the
value as often as it stands there, and the numbers that are allowed for a value do not depend on the
order of its items and fields. -/
theorem of_exact (v : Value) :
    of v = within v ∧
    (Fits v → ∃ ys, of v = .ok ys ∧ ys.Perm ((numbers v).map Number.nearest)) ∧
    ∀ w, v.Reordered w → Agree List.Perm (Grounding.allowed v) (Grounding.allowed w) :=
  ⟨of_eq_within v, of_perm, fun _ => agree_allowed⟩

end Leaves
end MetricDesk
