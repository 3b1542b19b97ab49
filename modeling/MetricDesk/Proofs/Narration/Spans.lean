import Mathlib.Data.List.Pairwise
import MetricDesk.Narration.Grounding
import MetricDesk.Proofs.Narration.Numerals

/-! Where the numerals of a text stand. Main statement: `digits_spanned`, the numerals stand one
behind the other, each run of digits inside of exactly one of them, and each is one run or two with
a point between them and takes the minus sign in front of it. -/
namespace MetricDesk.Numeral

/-- A digit stands at a place of a text. -/
def DigitAt (cs : List Char) (k : Nat) : Prop := ∃ c, cs[k]? = some c ∧ Text.isDigit c = true

/-- A run of digits of a text from a place up to another, as long as it can be. -/
structure IsRun (cs : List Char) (i j : Nat) : Prop where
  some : i < j
  digits : ∀ k, i ≤ k → k < j → DigitAt cs k
  before : ∀ k, k + 1 = i → ¬ DigitAt cs k
  behind : ¬ DigitAt cs j

/-- From a place of a text up to another there stand one run of digits, the minus sign in front of
it if there is one, and behind a point a second run or nothing more. -/
def IsSpan (cs : List Char) (start stop : Nat) : Prop :=
  ∃ i j, IsRun cs i j ∧
    (start = i ∧ (∀ k, k + 1 = i → cs[k]? ≠ some '-') ∨ start + 1 = i ∧ cs[start]? = some '-') ∧
    (stop = j ∨ cs[j]? = some '.' ∧ IsRun cs (j + 1) stop)

/-- What stands between two places. -/
def between (cs : List Char) (span : Nat × Nat) : List Char :=
  (cs.drop span.1).take (span.2 - span.1)

/-- The spans of tokens in a text from a place on. -/
structure Spanned (cs : List Char) (start : Nat) (tokens : List (List Char))
    (spans : List (Nat × Nat)) : Prop where
  tokens : spans.map (between cs) = tokens
  ordered : spans.Pairwise fun s t => s.2 ≤ t.1
  from_start : ∀ s ∈ spans, start ≤ s.1
  each : ∀ s ∈ spans, IsSpan cs s.1 s.2
  covered : ∀ i j, IsRun cs i j → start ≤ i → ∃ s ∈ spans, s.1 ≤ i ∧ j ≤ s.2

/-! ### Runs and their surroundings -/

theorem digitAt_append (before cs : List Char) (k : Nat) :
    DigitAt (before ++ cs) (before.length + k) ↔ DigitAt cs k := by
  unfold DigitAt
  rw [List.getElem?_append_right (Nat.le_add_right _ _), Nat.add_sub_cancel_left]

theorem not_digitAt_length (before : List Char) {cs : List Char}
    (plain : ∀ c ∈ cs.head?, Text.isDigit c = false) :
    ¬ DigitAt (before ++ cs) before.length := by
  rintro ⟨c, found, digit⟩
  rw [List.getElem?_append_right (Nat.le_refl _), Nat.sub_self, ← List.head?_eq_getElem?] at found
  rw [plain c found] at digit
  cases digit

theorem getElem?_last {before : List Char} (cs : List Char) {k : Nat}
    (last : k + 1 = before.length) : (before ++ cs)[k]? = before.getLast? := by
  rw [List.getElem?_append_left (by omega), List.getLast?_eq_getElem?, ← last]
  rfl

/-- Digits between what does not end with one and what does not begin with one are a run. -/
theorem isRun_between (before : List Char) {ds rest : List Char} (some : ds ≠ [])
    (digits : ∀ c ∈ ds, Text.isDigit c = true)
    (front : ∀ c ∈ before.getLast?, Text.isDigit c = false)
    (plain : ∀ c ∈ rest.head?, Text.isDigit c = false) :
    IsRun (before ++ (ds ++ rest)) before.length (before.length + ds.length) where
  some := by
    have := List.length_pos_iff.mpr some
    omega
  digits k low high := by
    obtain ⟨l, rfl⟩ := Nat.exists_eq_add_of_le low
    have inside : l < ds.length := by omega
    rw [digitAt_append]
    refine ⟨ds[l], ?_, digits _ (List.getElem_mem inside)⟩
    rw [List.getElem?_append_left inside, List.getElem?_eq_getElem inside]
  before := by
    rintro k last ⟨c, found, digit⟩
    rw [getElem?_last _ last] at found
    rw [front c found] at digit
    cases digit
  behind := by
    have none := not_digitAt_length (before ++ ds) plain
    rwa [List.length_append, List.append_assoc] at none

/-- A run that begins before a place without a digit ends there or before. -/
theorem IsRun.stop_le {cs : List Char} {i j k : Nat} (run : IsRun cs i j) (begins : i ≤ k)
    (plain : ¬ DigitAt cs k) : j ≤ k := by
  by_contra more
  exact plain (run.digits k begins (by omega))

/-! ### The numeral at the front -/

theorem head?_afterRun (cs : List Char) :
    ∀ c ∈ (afterRun cs).head?, Text.isDigit c = false := by
  intro c first
  have stops := List.head?_dropWhile_not Text.isDigit cs
  rw [Option.mem_def] at first
  rw [show cs.dropWhile Text.isDigit = afterRun cs from rfl, first] at stops
  simpa using stops

theorem head?_fractionOf {cs : List Char} (plain : ∀ c ∈ cs.head?, Text.isDigit c = false) :
    ∀ c ∈ (fractionOf cs).2.head?, Text.isDigit c = false := by
  unfold fractionOf
  split
  · next cs =>
    split
    · exact plain
    · exact head?_afterRun cs
  · exact plain

/-- Behind the whole part of the numeral at the front there is no digit, nor behind all of it. -/
theorem front?_stops {cs rest : List Char} {n : Numeral} (h : front? cs = some (n, rest)) :
    (∀ c ∈ (n.tail ++ rest).head?, Text.isDigit c = false) ∧
      ∀ c ∈ rest.head?, Text.isDigit c = false := by
  simp only [front?] at h
  split at h
  · cases h
  · cases h
    have stops := head?_afterRun (signOf cs).2
    refine ⟨?_, head?_fractionOf stops⟩
    have split := (fractionOf_split (afterRun (signOf cs).2)).1
    rw [← split] at stops
    exact stops

/-- Where there is no numeral at the front there is no digit, and no digit behind a minus sign. -/
theorem front?_eq_none {c : Char} {cs : List Char} (h : front? (c :: cs) = none) :
    Text.isDigit c = false ∧ (c = '-' → ∀ d ∈ cs.head?, Text.isDigit d = false) := by
  have formed (negative : Bool) {d : Char} (digit : Text.isDigit d = true) :
      WellFormed ⟨negative, [d], []⟩ := ⟨by simpa using digit, by simp, by simp⟩
  constructor
  · by_contra digit
    rw [Bool.not_eq_false] at digit
    exact front?_ne_none (formed false digit) ⟨cs, rfl⟩ h
  · rintro rfl d first
    by_contra digit
    rw [Bool.not_eq_false] at digit
    obtain ⟨more, rfl⟩ := List.head?_eq_some_iff.mp first
    exact front?_ne_none (formed true digit) ⟨more, rfl⟩ h

/-- A digit at the front begins a run, and there is no minus sign before it. -/
def Fresh (before cs : List Char) : Prop :=
  ∀ d ∈ cs.head?, Text.isDigit d = true →
    ∀ c ∈ before.getLast?, Text.isDigit c = false ∧ c ≠ '-'

theorem Fresh.of_plain {before cs : List Char} (plain : ∀ c ∈ cs.head?, Text.isDigit c = false) :
    Fresh before cs := by
  intro d first digit
  rw [plain d first] at digit
  cases digit

theorem Fresh.skip {before cs : List Char} {c : Char} (h : front? (c :: cs) = none) :
    Fresh (before ++ [c]) cs := by
  obtain ⟨plain, sign⟩ := front?_eq_none h
  intro d first digit b last
  rw [List.getLast?_concat, Option.mem_some_iff] at last
  subst last
  refine ⟨plain, fun minus => ?_⟩
  rw [sign minus d first] at digit
  cases digit

/-- Behind the whole part there is a point and a run of digits, or nothing more. -/
theorem tail_stands {n : Numeral} (formed : n.WellFormed) (before : List Char) {rest : List Char}
    (behind : ∀ c ∈ rest.head?, Text.isDigit c = false) :
    before.length + n.tail.length = before.length ∨
      (before ++ (n.tail ++ rest))[before.length]? = some '.' ∧
        IsRun (before ++ (n.tail ++ rest)) (before.length + 1) (before.length + n.tail.length) := by
  unfold tail
  split
  · exact Or.inl rfl
  · next part =>
    refine Or.inr ⟨by simp, ?_⟩
    have run := isRun_between (before ++ ['.']) (by simpa using part) formed.fraction
      (by simp; decide) behind
    rw [List.length_append, List.append_assoc] at run
    rw [List.length_cons, Nat.add_comm n.fraction.length, ← Nat.add_assoc]
    exact run

/-- The numeral at the front stands where it should. -/
theorem isSpan_front {before cs rest : List Char} {n : Numeral} (fresh : Fresh before cs)
    (h : front? cs = some (n, rest)) :
    IsSpan (before ++ cs) before.length (before.length + n.chars.length) := by
  obtain ⟨formed, rfl⟩ := front?_sound h
  obtain ⟨behindWhole, behind⟩ := front?_stops h
  have run (signed : List Char) (front : ∀ c ∈ signed.getLast?, Text.isDigit c = false) :=
    isRun_between signed formed.some formed.whole front behindWhole
  have stop (signed : List Char) := tail_stands formed (signed ++ n.whole) behind
  simp only [List.append_assoc, List.length_append] at stop
  simp only [chars_eq, List.append_assoc, List.length_append] at fresh ⊢
  cases negative : n.negative with
  | false =>
    simp only [negative, Bool.false_eq_true, if_false, List.nil_append, List.length_nil,
      Nat.zero_add] at fresh ⊢
    obtain ⟨d, ds, whole⟩ := List.exists_cons_of_ne_nil formed.some
    have plain := fresh d (by simp [whole]) (formed.whole d (by simp [whole]))
    refine ⟨_, _, run before fun c last => (plain c last).1, Or.inl ⟨rfl, ?_⟩, ?_⟩
    · intro k last minus
      rw [getElem?_last _ last] at minus
      exact (plain _ minus).2 rfl
    · rw [← Nat.add_assoc]
      exact stop before
  | true =>
    simp only [if_true]
    have signed := run (before ++ ['-']) (by simp; decide)
    have close := stop (before ++ ['-'])
    simp only [List.append_assoc, List.length_append, List.length_singleton] at signed close
    refine ⟨_, _, signed, Or.inr ⟨rfl, by simp⟩, ?_⟩
    simpa only [List.length_singleton, ← Nat.add_assoc] using close

/-! ### The scan -/

theorem spanned_scan (cs before : List Char) (fresh : Fresh before cs) :
    ∃ spans, Spanned (before ++ cs) before.length ((scan cs).map chars) spans := by
  fun_induction scan cs generalizing before with
  | case1 cs n rest h _ ih =>
    obtain ⟨spans, more⟩ := ih (before ++ n.chars) (.of_plain (front?_stops h).2)
    have here := isSpan_front fresh h
    obtain ⟨formed, split⟩ := front?_sound h
    have whole : before ++ n.chars ++ rest = before ++ cs := by rw [List.append_assoc, split]
    have length : (before ++ n.chars).length = before.length + n.chars.length := List.length_append
    rw [whole, length] at more
    refine ⟨(before.length, before.length + n.chars.length) :: spans, ?_, ?_, ?_, ?_, ?_⟩
    · rw [List.map_cons, List.map_cons, more.tokens]
      congr 1
      rw [between, ← split, List.drop_left, Nat.add_sub_cancel_left, List.take_left]
    · exact List.pairwise_cons.mpr ⟨more.from_start, more.ordered⟩
    · intro s mem
      rcases List.mem_cons.mp mem with rfl | mem
      · exact Nat.le_refl _
      · exact Nat.le_trans (Nat.le_add_right _ _) (more.from_start s mem)
    · exact List.forall_mem_cons.mpr ⟨here, more.each⟩
    · intro i j run later
      by_cases inside : i ≤ before.length + n.chars.length
      · have plain := not_digitAt_length (before ++ n.chars) (front?_stops h).2
        rw [whole, length] at plain
        exact ⟨_, List.mem_cons_self, later, run.stop_le inside plain⟩
      · obtain ⟨s, mem, held⟩ := more.covered i j run (by omega)
        exact ⟨s, List.mem_cons_of_mem _ mem, held⟩
  | case2 h =>
    refine ⟨[], rfl, .nil, by simp, by simp, ?_⟩
    intro i j run later
    obtain ⟨c, found, -⟩ := run.digits i (Nat.le_refl _) run.some
    rw [List.append_nil, List.getElem?_eq_none later] at found
    cases found
  | case3 c more h ih =>
    obtain ⟨spans, rest⟩ := ih (before ++ [c]) (.skip h)
    rw [List.append_assoc, List.length_append] at rest
    refine ⟨spans, rest.tokens, rest.ordered, ?_, rest.each, ?_⟩
    · exact fun s mem => Nat.le_of_succ_le (rest.from_start s mem)
    · intro i j run later
      have plain : ¬ DigitAt (before ++ c :: more) before.length :=
        not_digitAt_length before (by simp [(front?_eq_none h).1])
      have beyond : i ≠ before.length := by
        rintro rfl
        exact plain (run.digits _ (Nat.le_refl _) run.some)
      exact rest.covered i j run (Nat.lt_of_le_of_ne later beyond.symm)

/-- Of spans one behind the other at most one holds a run. -/
theorem Spanned.unique {cs : List Char} {start : Nat} {tokens : List (List Char)}
    {spans : List (Nat × Nat)} (spanned : Spanned cs start tokens spans) {i j : Nat}
    (some : i < j) {s t : Nat × Nat} (left : s ∈ spans) (leftHolds : s.1 ≤ i ∧ j ≤ s.2)
    (right : t ∈ spans) (rightHolds : t.1 ≤ i ∧ j ≤ t.2) : s = t := by
  by_contra other
  have symmetric : Std.Symm fun s t : Nat × Nat => s.2 ≤ t.1 ∨ t.2 ≤ s.1 := ⟨fun _ _ => Or.symm⟩
  have apart : spans.Pairwise fun s t => s.2 ≤ t.1 ∨ t.2 ≤ s.1 := spanned.ordered.imp Or.inl
  have := apart.forall left right other
  omega

/-! ### The readings -/

theorem mapM_texts {ns : List Numeral} (formed : ∀ n ∈ ns, n.WellFormed) :
    (ns.map Numeral.text).mapM Reading.double? = some (ns.map value) := by
  induction ns with
  | nil => rfl
  | cons n ns ih =>
    rw [List.forall_mem_cons] at formed
    simp [double?_text formed.1, ih formed.2]

theorem unsupported_eq (known : List String) (text : String) :
    Grounding.unsupported known text =
      ((((scan text.toList).map Numeral.text).zip ((scan text.toList).map value)).filter
        fun tx => !known.contains tx.2.cents).map Prod.fst := by
  rw [List.zip_map', List.filter_map, List.map_map]
  rfl

/-- Every run of digits of a text stands in exactly one of its numerals, and all numerals are read
as numbers. -/
theorem digits_spanned (text : String) :
    let tokens := (scan text.toList).map Numeral.text
    (∃ spans : List (Nat × Nat),
      tokens = spans.map (fun s => String.ofList (between text.toList s)) ∧
      spans.Pairwise (fun s t => s.2 ≤ t.1) ∧
      (∀ s ∈ spans, IsSpan text.toList s.1 s.2) ∧
      ∀ i j, IsRun text.toList i j → ∃! s, s ∈ spans ∧ s.1 ≤ i ∧ j ≤ s.2) ∧
    ∃ xs, tokens.mapM Reading.double? = some xs ∧ ∀ known,
      Grounding.unsupported known text =
        ((tokens.zip xs).filter fun tx => !known.contains tx.2.cents).map Prod.fst := by
  intro tokens
  constructor
  · obtain ⟨spans, spanned⟩ := spanned_scan text.toList [] (fun _ _ _ c last => by cases last)
    rw [List.nil_append, List.length_nil] at spanned
    refine ⟨spans, ?_, spanned.ordered, spanned.each, ?_⟩
    · have same := congrArg (List.map String.ofList) spanned.tokens
      rw [List.map_map, List.map_map] at same
      exact same.symm
    · intro i j run
      obtain ⟨s, mem, held⟩ := spanned.covered i j run (Nat.zero_le i)
      exact ⟨s, ⟨mem, held⟩, fun t other => spanned.unique run.some other.1 other.2 mem held⟩
  · exact ⟨_, mapM_texts fun n => wellFormed_of_mem_scan, fun known => unsupported_eq known text⟩

end MetricDesk.Numeral
