import MetricDesk.Narration.Numeral
import MetricDesk.Proofs.Number.Text

/-! The numerals of a text. Main statements: `tokens_scan`, the scan finds at every place the
longest numeral that begins there and goes on behind it; `tokens_unique`, nothing else does; and
`double?_text`, the value of a numeral is what its text is read as. -/
namespace MetricDesk.Numeral

/-- A run of digits of any script, a sign in front of it or none, and behind a point a second run or
no point. -/
structure WellFormed (n : Numeral) : Prop where
  whole : ∀ c ∈ n.whole, Text.isDigit c = true
  some : n.whole ≠ []
  fraction : ∀ c ∈ n.fraction, Text.isDigit c = true

def IsNumeral (t : List Char) : Prop := ∃ n : Numeral, n.WellFormed ∧ t = n.chars

/-- The longest numerals of a text from left to right, none overlapping another. -/
inductive Tokens : List Char → List (List Char) → Prop where
  | done : Tokens [] []
  | skip {c : Char} {cs : List Char} {ts : List (List Char)}
    (none : ∀ t, IsNumeral t → ¬ t <+: c :: cs) (more : Tokens cs ts) : Tokens (c :: cs) ts
  | take {t rest : List Char} {ts : List (List Char)} (numeral : IsNumeral t)
    (longest : ∀ u, IsNumeral u → u <+: t ++ rest → u.length ≤ t.length)
    (more : Tokens rest ts) : Tokens (t ++ rest) (t :: ts)

/-! ### The numeral at the front -/

theorem run_append {ds : List Char} (digits : ∀ c ∈ ds, Text.isDigit c = true) (rest : List Char) :
    run (ds ++ rest) = ds ++ run rest := List.takeWhile_append_of_pos digits

theorem afterRun_append {ds : List Char} (digits : ∀ c ∈ ds, Text.isDigit c = true)
    (rest : List Char) : afterRun (ds ++ rest) = afterRun rest :=
  List.dropWhile_append_of_pos digits

theorem run_point (rest : List Char) : run ('.' :: rest) = [] :=
  List.takeWhile_cons_of_neg (by decide)

theorem afterRun_point (rest : List Char) : afterRun ('.' :: rest) = '.' :: rest :=
  List.dropWhile_cons_of_neg (by decide)

theorem isDigit_run {cs : List Char} {c : Char} (h : c ∈ run cs) : Text.isDigit c = true :=
  List.all_eq_true.mp List.all_takeWhile c h

theorem run_afterRun (cs : List Char) : run cs ++ afterRun cs = cs :=
  List.takeWhile_append_dropWhile

/-- Text behind the whole part: a point and the fraction, or nothing. -/
def tail (n : Numeral) : List Char := if n.fraction.isEmpty then [] else '.' :: n.fraction

theorem chars_eq (n : Numeral) :
    n.chars = (if n.negative then ['-'] else []) ++ (n.whole ++ n.tail) := by
  rw [chars, tail, List.append_assoc]

theorem signOf_chars {n : Numeral} (h : n.WellFormed) (rest : List Char) :
    signOf (n.chars ++ rest) = (n.negative, n.whole ++ n.tail ++ rest) := by
  obtain ⟨negative, whole, fraction⟩ := n
  rw [chars_eq]
  cases negative with
  | true => rfl
  | false =>
    cases whole with
    | nil => exact absurd rfl h.some
    | cons c cs =>
      have digit := h.whole c List.mem_cons_self
      have notMinus : c ≠ '-' := by
        rintro rfl
        exact absurd digit (by decide)
      simp only [Bool.false_eq_true, if_false, List.nil_append, List.cons_append, signOf]
      split
      · next same => exact absurd (List.cons.inj same).1 notMinus
      · rfl

theorem fractionOf_split (cs : List Char) :
    (⟨false, [], (fractionOf cs).1⟩ : Numeral).tail ++ (fractionOf cs).2 = cs ∧
      ∀ c ∈ (fractionOf cs).1, Text.isDigit c = true := by
  unfold fractionOf
  split
  · next cs =>
    split
    · exact ⟨rfl, by simp⟩
    · next found =>
      refine ⟨?_, fun c => isDigit_run⟩
      simp [tail, found, run_afterRun]
  · exact ⟨rfl, by simp⟩

/-- What is found at the front is a numeral that stands there. -/
theorem front?_sound {cs rest : List Char} {n : Numeral} (h : front? cs = some (n, rest)) :
    n.WellFormed ∧ n.chars ++ rest = cs := by
  simp only [front?] at h
  split at h
  · cases h
  · next found =>
    cases h
    obtain ⟨split, digits⟩ := fractionOf_split (afterRun (signOf cs).2)
    refine ⟨⟨fun c => isDigit_run, by simpa using found, digits⟩, ?_⟩
    have body : (run (signOf cs).2) ++ (tail ⟨(signOf cs).1, run (signOf cs).2,
        (fractionOf (afterRun (signOf cs).2)).1⟩ ++ (fractionOf (afterRun (signOf cs).2)).2) =
        (signOf cs).2 := by
      change _ ++ (tail ⟨false, [], _⟩ ++ _) = _
      rw [split, run_afterRun]
    rw [chars_eq, List.append_assoc, List.append_assoc]
    simp only
    rw [body]
    unfold signOf
    split <;> rfl

/-- Where a numeral stands at the front, the one that is found goes on from it. -/
theorem front?_chars {m : Numeral} (formed : m.WellFormed) (rest : List Char) :
    front? (m.chars ++ rest) =
      if m.fraction.isEmpty then
        some (⟨m.negative, m.whole ++ run rest, (fractionOf (afterRun rest)).1⟩,
          (fractionOf (afterRun rest)).2)
      else some (⟨m.negative, m.whole, m.fraction ++ run rest⟩, afterRun rest) := by
  have found (more : List Char) : (m.whole ++ more).isEmpty = false := by
    simp [formed.some]
  simp only [front?, signOf_chars formed, List.append_assoc, run_append formed.whole,
    afterRun_append formed.whole, found, Bool.false_eq_true, if_false]
  split
  · next whole => simp [tail, whole]
  · next part =>
    have parted : (m.fraction ++ run rest).isEmpty = false := by
      rw [List.isEmpty_iff] at part
      simp [part]
    simp only [tail, part, Bool.false_eq_true, if_false, List.cons_append, run_point,
      afterRun_point, List.append_nil, fractionOf, run_append formed.fraction,
      afterRun_append formed.fraction, parted]

theorem length_chars (n : Numeral) :
    n.chars.length = n.negative.toNat + n.whole.length +
      (if n.fraction.isEmpty then 0 else n.fraction.length + 1) := by
  obtain ⟨negative, whole, fraction⟩ := n
  cases negative <;> cases fraction <;> simp [chars] <;> omega

/-- No numeral at the front is longer than the one that is found. -/
theorem front?_longest {cs rest : List Char} {n : Numeral} (h : front? cs = some (n, rest))
    {m : Numeral} (formed : m.WellFormed) (here : m.chars <+: cs) :
    m.chars.length ≤ n.chars.length := by
  obtain ⟨more, rfl⟩ := here
  rw [front?_chars formed] at h
  split at h
  · next whole =>
    cases h
    simp only [length_chars, whole, if_true, List.length_append]
    omega
  · next part =>
    cases h
    have longer : (m.fraction ++ run more).isEmpty = false := by
      rw [List.isEmpty_iff] at part
      simp [part]
    simp only [length_chars, part, longer, Bool.false_eq_true, if_false, List.length_append]
    omega

theorem front?_ne_none {m : Numeral} (formed : m.WellFormed) {cs : List Char}
    (here : m.chars <+: cs) : front? cs ≠ none := by
  obtain ⟨rest, rfl⟩ := here
  rw [front?_chars formed]
  split <;> exact Option.some_ne_none _

/-! ### The scan -/

/-- The scan takes the longest numerals from left to right. -/
theorem tokens_scan (cs : List Char) : Tokens cs ((scan cs).map chars) := by
  fun_induction scan cs with
  | case1 cs n rest h _ ih =>
    obtain ⟨formed, split⟩ := front?_sound h
    rw [List.map_cons]
    have longest (u : List Char) (numeral : IsNumeral u) (here : u <+: n.chars ++ rest) :
        u.length ≤ n.chars.length := by
      obtain ⟨m, formed, rfl⟩ := numeral
      rw [split] at here
      exact front?_longest h formed here
    have taken := Tokens.take ⟨n, formed, rfl⟩ longest ih
    rwa [split] at taken
  | case2 h => exact .done
  | case3 c more h ih =>
    apply Tokens.skip _ ih
    rintro t ⟨m, formed, rfl⟩ here
    exact front?_ne_none formed here h

theorem wellFormed_of_mem_scan {cs : List Char} {n : Numeral} (mem : n ∈ scan cs) :
    n.WellFormed := by
  fun_induction scan cs with
  | case1 cs m rest h _ ih =>
    rcases List.mem_cons.mp mem with rfl | mem
    · exact (front?_sound h).1
    · exact ih mem
  | case2 => cases mem
  | case3 c more h ih => exact ih mem

theorem ne_nil_of_isNumeral {t : List Char} (h : IsNumeral t) : t ≠ [] := by
  obtain ⟨n, formed, rfl⟩ := h
  intro empty
  have length := congrArg List.length empty
  have := List.length_pos_iff.mpr formed.some
  rw [length_chars, List.length_nil] at length
  omega

/-- A text has one list of longest numerals. -/
theorem tokens_unique {cs : List Char} {ts us : List (List Char)} (h : Tokens cs ts)
    (h' : Tokens cs us) : ts = us := by
  induction h generalizing us with
  | done =>
    generalize empty : ([] : List Char) = cs at h'
    cases h' with
    | done => rfl
    | skip none more => cases empty
    | take numeral longest more =>
      exact absurd (List.append_eq_nil_iff.mp empty.symm).1 (ne_nil_of_isNumeral numeral)
  | @skip c cs ts none more ih =>
    generalize same : c :: cs = text at h'
    cases h' with
    | done => cases same
    | skip none' more' =>
      cases same
      exact ih more'
    | @take t rest us numeral longest more' => exact absurd ⟨rest, same.symm⟩ (none t numeral)
  | @take t rest ts numeral longest more ih =>
    generalize same : t ++ rest = text at h'
    cases h' with
    | done =>
      exact absurd (List.append_eq_nil_iff.mp same).1 (ne_nil_of_isNumeral numeral)
    | skip none more' => exact absurd ⟨rest, same⟩ (none t numeral)
    | @take u rest' us numeral' longest' more' =>
      have shorter := longest u numeral' ⟨rest', same.symm⟩
      have longer := longest' t numeral ⟨rest, same⟩
      obtain ⟨rfl, rfl⟩ := List.append_inj same (Nat.le_antisymm longer shorter)
      rw [ih more']

/-! ### The value of a numeral -/

theorem mem_of_digitFrom {zs : List Nat} {n d : Nat} (h : Text.digitFrom zs n = some d) :
    ∃ z ∈ zs, n = z + d := by
  induction zs with
  | nil => cases h
  | cons z rest ih =>
    unfold Text.digitFrom at h
    split at h
    · cases h
    · split at h
      · cases h
        exact ⟨z, List.mem_cons_self, by omega⟩
      · obtain ⟨z', mem, same⟩ := ih h
        exact ⟨z', List.mem_cons_of_mem z mem, same⟩

/-- Digits of no script are white space. -/
theorem digits_visible : ∀ z ∈ Text.zeroDigits, ∀ d < 10,
    Text.covers Text.blankRanges (z + d) = false := by
  decide

theorem not_isMargin_of_isDigit {c : Char} (h : Text.isDigit c = true) :
    Reading.isMargin c = false := by
  obtain ⟨d, digit⟩ := Option.isSome_iff_exists.mp h
  obtain ⟨z, mem, place⟩ := mem_of_digitFrom digit
  rw [Reading.isMargin, Text.isBlank, place, digits_visible z mem d (Text.digitOf?_lt digit)]
  rfl

theorem plainDigits_cons {c : Char} {d : Nat} (h : Text.digitOf? c = some d) (cs : List Char) :
    Reading.plainDigits (c :: cs) = Nat.digitChar d :: Reading.plainDigits cs := by
  have plain : ∀ d < 10, Char.ofNat ('0'.toNat + d) = Nat.digitChar d := by decide
  simp only [Reading.plainDigits, List.map_cons, h, plain d (Text.digitOf?_lt h)]

theorem isDigit_plainDigits {ds : List Char} (digits : ∀ c ∈ ds, Text.isDigit c = true) :
    ∀ c ∈ Reading.plainDigits ds, c.isDigit = true := by
  induction ds with
  | nil => simp [Reading.plainDigits]
  | cons c cs ih =>
    rw [List.forall_mem_cons] at digits
    obtain ⟨d, digit⟩ := Option.isSome_iff_exists.mp digits.1
    rw [plainDigits_cons digit, List.forall_mem_cons, Nat.isDigit_digitChar]
    exact ⟨decide_eq_true (Text.digitOf?_lt digit), ih digits.2⟩

/-- Digits of any script stand for the same number as their plain forms. -/
theorem naturalOf_plainDigits {ds : List Char} (digits : ∀ c ∈ ds, Text.isDigit c = true) :
    Reading.naturalOf (Reading.plainDigits ds) = Text.numberOf ds := by
  suffices h : ∀ n, (Reading.plainDigits ds).foldl
      (fun n c => 10 * n + (c.toNat - '0'.toNat)) n =
      ds.foldl (fun n c => 10 * n + (Text.digitOf? c).getD 0) n from h 0
  intro n
  induction ds generalizing n with
  | nil => rfl
  | cons c cs ih =>
    rw [List.forall_mem_cons] at digits
    obtain ⟨d, digit⟩ := Option.isSome_iff_exists.mp digits.1
    have value : (Nat.digitChar d).toNat - '0'.toNat = d :=
      Nat.toNat_digitChar_sub_48_of_lt_ten (Text.digitOf?_lt digit)
    rw [plainDigits_cons digit, List.foldl_cons, List.foldl_cons, digit, value, ih digits.2]
    rfl

/-- The same numeral in plain digits. -/
def plain (n : Numeral) : Numeral :=
  ⟨n.negative, Reading.plainDigits n.whole, Reading.plainDigits n.fraction⟩

theorem plainDigits_chars (n : Numeral) : Reading.plainDigits n.chars = n.plain.chars := by
  obtain ⟨negative, whole, fraction⟩ := n
  have minus : Reading.plainDigits ['-'] = ['-'] := by decide
  have point : Reading.plainDigits ['.'] = ['.'] := by decide
  unfold Reading.plainDigits at minus point
  cases negative <;> cases fraction <;>
    simp_all [chars, plain, Reading.plainDigits]

theorem plain_wellFormed {n : Numeral} (formed : n.WellFormed) :
    (∀ c ∈ n.plain.whole, c.isDigit = true) ∧ n.plain.whole ≠ [] ∧
      ∀ c ∈ n.plain.fraction, c.isDigit = true := by
  refine ⟨isDigit_plainDigits formed.whole, ?_, isDigit_plainDigits formed.fraction⟩
  intro empty
  exact formed.some (List.map_eq_nil_iff.mp empty)

theorem sign_plain {n : Numeral} (formed : n.WellFormed) :
    Reading.sign n.plain.chars = (n.negative, n.plain.whole ++ n.plain.tail) := by
  obtain ⟨run, found, -⟩ := plain_wellFormed formed
  rw [chars_eq]
  change Reading.sign ((if n.negative then ['-'] else []) ++ _) = _
  cases n.negative with
  | true => rfl
  | false =>
    cases whole : n.plain.whole with
    | nil => exact absurd whole found
    | cons c cs =>
      rw [whole, List.forall_mem_cons] at run
      exact Reading.sign_of_isDigit _ run.1

theorem decimal_plain {n : Numeral} (formed : n.WellFormed) :
    Reading.decimal n.negative (n.plain.whole ++ n.plain.tail) = some n.value := by
  obtain ⟨wholeRun, found, partRun⟩ := plain_wellFormed formed
  have digits : Reading.naturalOf (n.plain.whole ++ n.plain.fraction) =
      Text.numberOf (n.whole ++ n.fraction) := by
    rw [← naturalOf_plainDigits fun c h =>
      (List.mem_append.mp h).elim (formed.whole c) (formed.fraction c)]
    simp [plain, Reading.plainDigits]
  have length : n.plain.fraction.length = n.fraction.length := List.length_map ..
  unfold tail
  split
  · next whole =>
    rw [List.isEmpty_iff] at whole
    rw [whole, List.append_nil] at digits
    rw [List.append_nil, Reading.decimal_digits wholeRun found, digits, value]
    rw [whole, List.length_nil] at length
    rw [← length]
    rfl
  · rw [Reading.decimal_positional wholeRun partRun found, digits, length]
    rfl

/-- A numeral is read as its value. -/
theorem double?_text {n : Numeral} (formed : n.WellFormed) :
    Reading.double? n.text = some n.value := by
  have visible : ∀ c ∈ n.chars, Reading.isMargin c = false := by
    have minus : Reading.isMargin '-' = false := by decide
    have point : Reading.isMargin '.' = false := by decide
    unfold chars
    simp only [List.forall_mem_append]
    refine ⟨⟨?_, fun c h => not_isMargin_of_isDigit (formed.whole c h)⟩, ?_⟩
    · split <;> simp [minus]
    · split
      · simp
      · exact List.forall_mem_cons.mpr
          ⟨point, fun c h => not_isMargin_of_isDigit (formed.fraction c h)⟩
  have noUnderscore : ∀ c ∈ n.plain.chars, c ≠ '_' := by
    obtain ⟨wholeRun, -, partRun⟩ := plain_wellFormed formed
    have digits {ds : List Char} (run : ∀ c ∈ ds, c.isDigit = true) : ∀ c ∈ ds, c ≠ '_' := by
      rintro c h rfl
      cases run _ h
    unfold chars
    simp only [List.forall_mem_append]
    refine ⟨⟨?_, digits wholeRun⟩, ?_⟩
    · split <;> simp
    · split
      · simp
      · exact List.forall_mem_cons.mpr ⟨by decide, digits partRun⟩
  rw [Reading.double?, text, String.toList_ofList, Reading.withoutMargins_eq visible,
    plainDigits_chars, Reading.joined_eq noUnderscore]
  simp only [Option.bind_eq_bind, Option.bind_some, sign_plain formed, decimal_plain formed]
  rfl

end MetricDesk.Numeral
