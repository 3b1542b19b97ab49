import MetricDesk.Proofs.Json.Reading

/-! The limit on containers that stand inside one another. Main statements: `Spells.crosses`, what
fits is passed at the depth at which it began; `Spells.fits`, what is passed without a container too
deep fits; and `read_eq_ok_iff`, so a text is read as a value exactly where it is a document that
spells it within the limit. -/
namespace MetricDesk.Json

def Container.opening : Container → Char
  | .list => '['
  | .object => '\x7b'

def Container.closing : Container → Char
  | .list => ']'
  | .object => '\x7d'

/-! ### One character -/

theorem firstTooDeep_opening (k : Container) (place depth : Nat) (cs : List Char) :
    firstTooDeep place depth false (k.opening :: cs) =
      if depth < maxDepth then firstTooDeep (place + 1) (depth + 1) false cs
      else some (place, k) := by
  cases k <;> rfl

theorem firstTooDeep_closing (k : Container) (place depth : Nat) (cs : List Char) :
    firstTooDeep place depth false (k.closing :: cs) =
      firstTooDeep (place + 1) (depth - 1) false cs := by
  cases k <;> rfl

/-- Neither a quote nor a backslash nor a bracket. -/
def Plain (c : Char) : Prop := c ∉ ['"', '\\', '[', ']', '\x7b', '\x7d']

instance : DecidablePred Plain := fun c => inferInstanceAs (Decidable (c ∉ _))

theorem firstTooDeep_plain {c : Char} (h : Plain c) (place depth : Nat) (cs : List Char) :
    firstTooDeep place depth false (c :: cs) = firstTooDeep (place + 1) depth false cs := by
  simp only [Plain, List.mem_cons, not_or] at h
  obtain ⟨quote, backslash, list, list', object, object', -⟩ := h
  rw [firstTooDeep.eq_def]
  split
  · contradiction
  · next same => exact absurd (List.cons.inj same).1 quote
  · next same => exact absurd (List.cons.inj same).1 backslash
  · next same =>
    cases same
    simp only [Bool.false_eq_true, if_false, list, list', object, object', decide_false,
      Bool.not_false]
    rfl

theorem firstTooDeep_quoted {c : Char} (quote : c ≠ '"') (backslash : c ≠ '\\') (place depth : Nat)
    (cs : List Char) :
    firstTooDeep place depth true (c :: cs) = firstTooDeep (place + 1) depth true cs := by
  rw [firstTooDeep.eq_def]
  split
  · contradiction
  · next same => exact absurd (List.cons.inj same).1 quote
  · next same => exact absurd (List.cons.inj same).1 backslash
  · next same =>
    cases same
    rfl

/-! ### Texts without a container too deep -/

/-- A text that is passed without a container too deep, and leaves the depth and whether the text
goes on inside a string as they were. -/
def Crosses (depth : Nat) (quoted : Bool) (t : List Char) : Prop :=
  ∀ place rest, firstTooDeep place depth quoted (t ++ rest) =
    firstTooDeep (place + t.length) depth quoted rest

namespace Crosses

variable {depth : Nat} {quoted : Bool} {t u : List Char}

theorem nil : Crosses depth quoted [] := fun _ _ => rfl

theorem append (first : Crosses depth quoted t) (second : Crosses depth quoted u) :
    Crosses depth quoted (t ++ u) := by
  intro place rest
  rw [List.append_assoc, first, second, List.length_append, Nat.add_assoc]

theorem plain (h : ∀ c ∈ t, Plain c) : Crosses depth false t := by
  induction t with
  | nil => exact nil
  | cons c t ih =>
    obtain ⟨here, rest⟩ := List.forall_mem_cons.mp h
    have single : Crosses depth false [c] :=
      fun place rest => firstTooDeep_plain here place depth rest
    exact single.append (ih rest)

theorem character {c : Char} (quote : c ≠ '"') (backslash : c ≠ '\\') : Crosses depth true [c] :=
  fun place rest => firstTooDeep_quoted quote backslash place depth rest

theorem escaped (c : Char) : Crosses depth true ['\\', c] := fun _ _ => rfl

theorem container (k : Container) (room : depth < maxDepth) (inside : Crosses (depth + 1) false t) :
    Crosses depth false (k.opening :: (t ++ [k.closing])) := by
  intro place rest
  rw [List.cons_append, List.append_assoc, firstTooDeep_opening, if_pos room, inside]
  simp only [List.singleton_append, firstTooDeep_closing, Nat.add_sub_cancel, List.length_cons,
    List.length_append, List.length_nil]
  congr 1
  omega

end Crosses

theorem crosses_hex {a b c d : Char} {n : Nat} (h : hexFour? [a, b, c, d] = some n) (depth : Nat) :
    Crosses depth true [a, b, c, d] := by
  simp only [hexFour?, Option.bind_eq_bind, Option.bind_eq_some_iff] at h
  obtain ⟨_, first, _, second, _, third, _, fourth, -⟩ := h
  have digit {x : Char} {m : Nat} (found : hexDigit? x = some m) : Crosses depth true [x] :=
    .character (hexDigit_apart found).1 (hexDigit_apart found).2
  exact (digit first).append ((digit second).append ((digit third).append (digit fourth)))

theorem StringText.crosses {t s : List Char} (h : StringText t s) (depth : Nat) :
    Crosses depth true t := by
  induction h with
  | nil => exact .nil
  | plain quote backslash _ _ ih => exact (Crosses.character quote backslash).append ih
  | escape _ _ ih => exact (Crosses.escaped _).append ih
  | point hex _ _ ih => exact (Crosses.escaped _).append ((crosses_hex hex depth).append ih)
  | pair hex _ hex' _ _ ih =>
    exact (Crosses.escaped _).append ((crosses_hex hex depth).append
      ((Crosses.escaped _).append ((crosses_hex hex' depth).append ih)))

theorem crosses_string {t s : List Char} (h : StringText t s) (depth : Nat) :
    Crosses depth false ('"' :: (t ++ ['"'])) := by
  intro place rest
  rw [List.cons_append, List.append_assoc]
  change firstTooDeep (place + 1) depth true (t ++ '"' :: rest) = _
  rw [h.crosses]
  change firstTooDeep (place + 1 + t.length + 1) depth false rest = _
  simp only [List.length_cons, List.length_append, List.length_nil]
  congr 1
  omega

theorem plain_of_isDigit {c : Char} (digit : c.isDigit = true) : Plain c := by
  have none : ∀ c ∈ ['"', '\\', '[', ']', '\x7b', '\x7d'], c.isDigit = false :=
    List.all_iff_forall_prop.mp (by decide)
  exact fun mem => Bool.false_ne_true ((none c mem).symm.trans digit)

theorem Spaces.plain {sp : List Char} (h : Spaces sp) : ∀ c ∈ sp, Plain c := by
  have none : ∀ c ∈ ['"', '\\', '[', ']', '\x7b', '\x7d'], Cursor.isSpace c = false :=
    List.all_iff_forall_prop.mp (by decide)
  exact fun c here mem => Bool.false_ne_true ((none c mem).symm.trans (h c here))

theorem Run.plain {ds : List Char} (h : Run ds) : ∀ c ∈ ds, Plain c :=
  fun c mem => plain_of_isDigit (h.digits c mem)

theorem signed_plain (neg : Bool) {ds : List Char} (h : WholeText ds) :
    ∀ c ∈ minus neg ++ ds, Plain c := by
  have sign : ∀ c ∈ minus neg, Plain c := by
    cases neg with
    | true =>
      simp only [minus, if_true, List.forall_mem_singleton]
      simp [Plain]
    | false => exact nofun
  exact List.forall_mem_append.mpr ⟨sign, h.run.plain⟩

theorem FractionText.plain {f part : List Char} (h : FractionText f part) : ∀ c ∈ f, Plain c := by
  cases h with
  | none => exact nofun
  | some run => exact List.forall_mem_cons.mpr ⟨by simp [Plain], run.plain⟩

theorem ExponentText.plain {e : List Char} {power : Int} (h : ExponentText e power) :
    ∀ c ∈ e, Plain c := by
  cases h with
  | none => exact nofun
  | some letter sign run =>
    refine List.forall_mem_cons.mpr ⟨?_, List.forall_mem_append.mpr ⟨?_, run.plain⟩⟩
    · rcases letter with rfl | rfl <;> simp [Plain]
    · cases sign <;> simp [Plain]

theorem NumberText.plain {t : List Char} {v : Value} (h : NumberText t v) : ∀ c ∈ t, Plain c := by
  cases h with
  | whole neg text => exact signed_plain neg text
  | double neg text fractional exponential =>
    rw [← List.append_assoc]
    exact List.forall_mem_append.mpr ⟨signed_plain neg text,
      List.forall_mem_append.mpr ⟨fractional.plain, exponential.plain⟩⟩

theorem word_plain : ∀ w ∈ words, ∀ c ∈ w.1.toList, Plain c := by
  simp only [← List.all_iff_forall_prop]
  decide

theorem Spaces.crosses {sp : List Char} (h : Spaces sp) (depth : Nat) : Crosses depth false sp :=
  .plain h.plain

theorem crosses_comma {sp sp' : List Char} (spaces : Spaces sp) (spaces' : Spaces sp')
    (depth : Nat) : Crosses depth false (sp ++ ',' :: sp') := by
  have comma : Plain ',' := by decide
  exact .plain (List.forall_mem_append.mpr
    ⟨spaces.plain, List.forall_mem_cons.mpr ⟨comma, spaces'.plain⟩⟩)

theorem NameText.crosses {n : List Char} {key : String} (h : NameText n key) (depth : Nat) :
    Crosses depth false n := by
  cases h with
  | @intro t s sp sp' text spaces spaces' =>
    have colon : Plain ':' := by decide
    have behind : Crosses depth false (sp ++ ':' :: sp') := .plain (List.forall_mem_append.mpr
      ⟨spaces.plain, List.forall_mem_cons.mpr ⟨colon, spaces'.plain⟩⟩)
    have all := (crosses_string text depth).append behind
    simpa only [List.cons_append, List.append_assoc, List.nil_append] using all

/-- What fits is passed. -/
theorem Spells.crosses {room depth : Nat} {t : List Char} {p : Part} (h : Spells room t p)
    (fits : depth + room ≤ maxDepth) : Crosses depth false t := by
  induction h generalizing depth with
  | string text => exact crosses_string text depth
  | word mem => exact .plain (word_plain _ mem)
  | number text => exact .plain text.plain
  | noItems spaces => exact .container .list (by omega) (spaces.crosses _)
  | list spaces _ ih =>
    have inside : Crosses depth false _ :=
      .container .list (by omega) ((spaces.crosses _).append (ih (by omega)))
    rwa [List.append_assoc] at inside
  | noFields spaces => exact .container .object (by omega) (spaces.crosses _)
  | object spaces _ ih =>
    have inside : Crosses depth false _ :=
      .container .object (by omega) ((spaces.crosses _).append (ih (by omega)))
    rwa [List.append_assoc] at inside
  | lastItem _ spaces ih => exact (ih fits).append (spaces.crosses depth)
  | item _ spaces spaces' _ value items =>
    have all := (value fits).append ((crosses_comma spaces spaces' depth).append (items fits))
    rwa [List.append_assoc, List.cons_append] at all
  | lastField name _ spaces ih =>
    exact (name.crosses depth).append ((ih fits).append (spaces.crosses depth))
  | field name _ spaces spaces' _ value fields =>
    have all := (name.crosses depth).append ((value fits).append
      ((crosses_comma spaces spaces' depth).append (fields fits)))
    rwa [List.append_assoc, List.cons_append] at all

/-! ### Texts with a container too deep -/

/-- The first container too deep opens inside of a text. -/
def Exceeds (depth : Nat) (t : List Char) : Prop :=
  ∀ place rest, ∃ q k, firstTooDeep place depth false (t ++ rest) = some (q, k) ∧
    q < place + t.length

namespace Exceeds

variable {depth : Nat} {t u : List Char}

theorem append (h : Exceeds depth t) (u : List Char) : Exceeds depth (t ++ u) := by
  intro place rest
  obtain ⟨q, k, found, before⟩ := h place (u ++ rest)
  refine ⟨q, k, (List.append_assoc t u rest).symm ▸ found, ?_⟩
  rw [List.length_append]
  omega

theorem behind (crosses : Crosses depth false t) (h : Exceeds depth u) :
    Exceeds depth (t ++ u) := by
  intro place rest
  obtain ⟨q, k, found, before⟩ := h (place + t.length) rest
  refine ⟨q, k, ?_, by rw [List.length_append]; omega⟩
  rw [List.append_assoc, crosses, found]

theorem full (k : Container) (full : depth = maxDepth) (t : List Char) :
    Exceeds depth (k.opening :: t) := by
  intro place rest
  refine ⟨place, k, ?_, by simp⟩
  rw [List.cons_append, firstTooDeep_opening, if_neg (by omega)]

theorem inside (k : Container) (room : depth < maxDepth) (h : Exceeds (depth + 1) t) :
    Exceeds depth (k.opening :: t) := by
  intro place rest
  obtain ⟨q, k', found, before⟩ := h (place + 1) rest
  refine ⟨q, k', ?_, by rw [List.length_cons]; omega⟩
  rw [List.cons_append, firstTooDeep_opening, if_pos room, found]

end Exceeds

/-- Where a container opens there is room for one more, or it is too deep. -/
theorem room_or_exceeds (k : Container) {depth : Nat} (le : depth ≤ maxDepth) (t : List Char) :
    depth < maxDepth ∧ maxDepth - depth = maxDepth - (depth + 1) + 1 ∨
      Exceeds depth (k.opening :: t) := by
  rcases Nat.lt_or_eq_of_le le with room | full
  · exact Or.inl ⟨room, by omega⟩
  · exact Or.inr (.full k full t)

/-- What is passed without a container too deep fits. -/
theorem Spells.fits {room depth : Nat} {t : List Char} {p : Part} (h : Spells room t p)
    (le : depth ≤ maxDepth) : Spells (maxDepth - depth) t p ∨ Exceeds depth t := by
  have within : maxDepth - depth + depth = maxDepth := by omega
  induction h generalizing depth with
  | string text => exact Or.inl (.string text)
  | word mem => exact Or.inl (.word mem)
  | number text => exact Or.inl (.number text)
  | @noItems _ sp spaces =>
    rcases room_or_exceeds .list le (sp ++ [']']) with ⟨-, one⟩ | exceeds
    · exact Or.inl (one ▸ .noItems spaces)
    · exact Or.inr exceeds
  | @list _ sp t _ spaces _ ih =>
    rcases room_or_exceeds .list le (sp ++ (t ++ [']'])) with ⟨room, one⟩ | exceeds
    · rcases ih room (by omega) with fits | exceeds
      · exact Or.inl (one ▸ .list spaces fits)
      · exact Or.inr (.inside .list room (.behind (spaces.crosses _) (exceeds.append _)))
    · exact Or.inr exceeds
  | @noFields _ sp spaces =>
    rcases room_or_exceeds .object le (sp ++ ['\x7d']) with ⟨-, one⟩ | exceeds
    · exact Or.inl (one ▸ .noFields spaces)
    · exact Or.inr exceeds
  | @object _ sp t _ spaces _ ih =>
    rcases room_or_exceeds .object le (sp ++ (t ++ ['\x7d'])) with ⟨room, one⟩ | exceeds
    · rcases ih room (by omega) with fits | exceeds
      · exact Or.inl (one ▸ .object spaces fits)
      · exact Or.inr (.inside .object room (.behind (spaces.crosses _) (exceeds.append _)))
    · exact Or.inr exceeds
  | lastItem _ spaces ih =>
    rcases ih le within with fits | exceeds
    · exact Or.inl (.lastItem fits spaces)
    · exact Or.inr (exceeds.append _)
  | @item _ t sp sp' u _ _ _ spaces spaces' _ value items =>
    rcases value le within with fits | exceeds
    · rcases items le within with fits' | exceeds
      · exact Or.inl (.item fits spaces spaces' fits')
      · have all := Exceeds.behind (fits.crosses (by omega))
          (.behind (crosses_comma spaces spaces' depth) exceeds)
        rw [List.append_assoc, List.cons_append] at all
        exact Or.inr all
    · exact Or.inr (exceeds.append _)
  | lastField name _ spaces ih =>
    rcases ih le within with fits | exceeds
    · exact Or.inl (.lastField name fits spaces)
    · exact Or.inr (.behind (name.crosses depth) (exceeds.append _))
  | @field _ n t sp sp' u _ _ _ name _ spaces spaces' _ value fields =>
    rcases value le within with fits | exceeds
    · rcases fields le within with fits' | exceeds
      · exact Or.inl (.field name fits spaces spaces' fits')
      · have all := Exceeds.behind (name.crosses depth) (.behind (fits.crosses (by omega))
          (.behind (crosses_comma spaces spaces' depth) exceeds))
        rw [List.append_assoc, List.cons_append] at all
        exact Or.inr all
    · exact Or.inr (.behind (name.crosses depth) (exceeds.append _))

/-! ### The place of the first -/

/-- A container opens in a text at a place, which is counted from another. -/
def OpensAt (k : Container) (place q : Nat) (s : List Char) : Prop :=
  ∃ front rest, s = front ++ k.opening :: rest ∧ q = place + front.length

theorem OpensAt.behind {k : Container} {place q : Nat} {s : List Char} (passed : List Char)
    (h : OpensAt k (place + passed.length) q s) : OpensAt k place q (passed ++ s) := by
  obtain ⟨front, rest, rfl, rfl⟩ := h
  exact ⟨passed ++ front, rest, (List.append_assoc _ _ _).symm,
    by rw [List.length_append, Nat.add_assoc]⟩

/-- A container too deep opens where it is found. -/
theorem opensAt_of_firstTooDeep {place depth q : Nat} {quoted : Bool} {s : List Char}
    {k : Container} (h : firstTooDeep place depth quoted s = some (q, k)) :
    OpensAt k place q s := by
  fun_induction firstTooDeep place depth quoted s with
  | case1 => cases h
  | case2 _ _ _ _ ih => exact (ih h).behind ['"']
  | case3 _ _ c _ ih => exact (ih h).behind ['\\', c]
  | case4 _ _ _ _ _ _ ih => exact (ih h).behind ['\\']
  | case5 _ _ _ c _ _ _ _ _ _ _ ih => exact (ih h).behind [c]
  | case6 place _ quoted c cs _ _ opened container found =>
    cases h
    refine ⟨[], cs, ?_, rfl⟩
    have bracket : c = k.opening := by
      unfold opened at found
      split_ifs at found with inside list object
      · cases found
        exact list
      · cases found
        exact object
    rw [bracket]
    rfl
  | case7 _ _ _ c _ _ _ _ _ _ ih => exact (ih h).behind [c]

theorem opensAt_ge {place depth q : Nat} {quoted : Bool} {s : List Char} {k : Container}
    (h : firstTooDeep place depth quoted s = some (q, k)) : place ≤ q := by
  obtain ⟨front, rest, -, rfl⟩ := opensAt_of_firstTooDeep h
  exact Nat.le_add_right _ _

/-! ### Documents -/

theorem read_of_none {s : List Char} (h : firstTooDeep 0 0 false s = none) :
    read s = readDeep s := by
  rw [read, h]

/-- A text with a container too deep is read up to it, and is too deep if a value is still due
there. -/
theorem read_of_some {front rest : List Char} {k : Container}
    (h : firstTooDeep 0 0 false (front ++ k.opening :: rest) = some (front.length, k)) :
    (∃ offset, readDeep front = .error (.syntaxAt .expectingValue offset) ∧
      read (front ++ k.opening :: rest) = .error
        (if offset = front.length then .tooDeep k else .syntaxAt .expectingValue offset)) ∨
    (∀ offset, readDeep front ≠ .error (.syntaxAt .expectingValue offset)) ∧
      read (front ++ k.opening :: rest) = readDeep front := by
  rw [read, h]
  simp only [List.take_left]
  split
  · next offset failed => exact Or.inl ⟨offset, failed, rfl⟩
  · next other => exact Or.inr ⟨other, rfl⟩

theorem read_split (s : List Char) : firstTooDeep 0 0 false s = none ∨
    ∃ front k rest, s = front ++ k.opening :: rest ∧
      firstTooDeep 0 0 false s = some (front.length, k) := by
  cases found : firstTooDeep 0 0 false s with
  | none => exact Or.inl rfl
  | some first =>
    obtain ⟨q, k⟩ := first
    obtain ⟨front, rest, split, rfl⟩ := opensAt_of_firstTooDeep found
    exact Or.inr ⟨front, k, rest, split, by rw [Nat.zero_add]⟩

theorem Document.crosses {s : List Char} {v : Value} (h : Document maxDepth s v) :
    Crosses 0 false s := by
  obtain ⟨sp, t, sp', spaces, text, spaces', rfl⟩ := h
  exact (spaces.crosses 0).append ((text.crosses (by omega)).append (spaces'.crosses 0))

theorem Document.fits {room : Nat} {s : List Char} {v : Value} (h : Document room s v) :
    Document maxDepth s v ∨ Exceeds 0 s := by
  obtain ⟨sp, t, sp', spaces, text, spaces', rfl⟩ := h
  rcases text.fits (Nat.zero_le maxDepth) with fits | exceeds
  · exact Or.inl ⟨sp, t, sp', spaces, fits, spaces', rfl⟩
  · exact Or.inr (.behind (spaces.crosses 0) (exceeds.append sp'))

/-- A text is read as a value exactly where it spells it, with no more containers inside one another
than there may be. -/
theorem read_eq_ok_iff {s : List Char} {v : Value} :
    read s = .ok v ↔ Document maxDepth s v := by
  constructor
  · intro h
    rcases read_split s with none | ⟨front, k, rest, rfl, some⟩
    · rw [read_of_none none] at h
      obtain ⟨room, document⟩ := readDeep_eq_ok_iff.mp h
      refine document.fits.resolve_right fun exceeds => ?_
      obtain ⟨q, k, deep, -⟩ := exceeds 0 []
      rw [List.append_nil, none] at deep
      cases deep
    · -- A document in front of the container would have left no container open.
      have whole : readDeep front = .ok v := by
        rcases read_of_some some with ⟨offset, -, same⟩ | ⟨-, same⟩
        · rw [same] at h
          cases h
        · exact same.symm.trans h
      obtain ⟨room, document⟩ := readDeep_eq_ok_iff.mp whole
      rcases document.fits with fits | exceeds
      · rw [fits.crosses, firstTooDeep_opening, if_pos (by decide)] at some
        have later := opensAt_ge some
        omega
      · obtain ⟨q, k', deep, before⟩ := exceeds 0 (k.opening :: rest)
        rw [some] at deep
        cases deep
        omega
  · intro document
    have none := document.crosses 0 []
    rw [List.append_nil] at none
    rw [read_of_none none]
    exact readDeep_eq_ok_iff.mpr ⟨maxDepth, document⟩

end MetricDesk.Json
