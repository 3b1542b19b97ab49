import MetricDesk.Proofs.Json.Canonical
import MetricDesk.Proofs.Json.Depth
import MetricDesk.Proofs.Narration.Leaves
import MetricDesk.Proofs.Value.Alike

/-! Documents in printable ASCII. Main statements: `write_shown`, nothing else stands in them, and
`read_write`, they are read back as the values that they were written from. -/
namespace MetricDesk

/-! ### Objects from their entries -/

namespace Fields

theorem put_of_new {fields : Fields} {key : String} (new : key ∉ fields.keys) (v : Value) :
    fields.put key v = fields ++ [(key, v)] := by
  induction fields with
  | nil => rfl
  | cons f fields ih =>
    obtain ⟨k, old⟩ := f
    obtain ⟨other, absent⟩ := List.ne_and_not_mem_of_not_mem_cons new
    rw [put, if_neg (Ne.symm other), ih absent, List.cons_append]

/-- Entries with different keys are an object's fields. -/
theorem ofEntries_of_nodup {entries : Fields} (once : entries.keys.Nodup) :
    ofEntries entries = entries := by
  have onto (fields : Fields) (once : (keys (fields ++ entries)).Nodup) :
      entries.foldl (fun fields e => put fields e.1 e.2) fields = fields ++ entries := by
    induction entries generalizing fields with
    | nil => rw [List.foldl_nil, List.append_nil]
    | cons e entries ih =>
      have new : e.1 ∉ fields.keys := by
        rw [keys, List.map_append, List.map_cons] at once
        intro mem
        exact (List.nodup_append.mp once).2.2 _ mem _ List.mem_cons_self rfl
      have moved : fields ++ e :: entries = fields ++ [(e.1, e.2)] ++ entries := by simp
      rw [List.foldl_cons, put_of_new new, moved]
      rw [moved] at once
      exact ih (by
        rw [keys, List.map_append] at once
        exact ((List.nodup_append.mp once).2.1)) _ once
  exact onto [] once

end Fields

namespace Json
open Leaves (Leaf)

/-! ### Printable ASCII -/

/-- A character from the blank to the tilde. -/
def Shown (c : Char) : Prop := ' ' ≤ c ∧ c ≤ '~'

instance (c : Char) : Decidable (Shown c) := inferInstanceAs (Decidable (_ ∧ _))

-- Looked up in the text; characters are finitely many, but too many to go through.
instance (cs : List Char) : Decidable (∀ c ∈ cs, Shown c) := List.decidableBAll Shown cs

theorem shown_iff {c : Char} : Shown c ↔ 0x20 ≤ c.toNat ∧ c.toNat ≤ 0x7e := Iff.rfl

theorem shown_of_isMark {c : Char} (mark : Reading.isMark c = true) : Shown c := by
  simp only [Reading.isMark, Bool.or_eq_true, beq_iff_eq] at mark
  rcases mark with (((digit | rfl) | rfl) | rfl) | rfl
  · rw [Char.isDigit_iff_toNat] at digit
    change 48 ≤ c.toNat ∧ c.toNat ≤ 57 at digit
    exact shown_iff.mpr ⟨by omega, by omega⟩
  all_goals decide

/-! ### Escapes -/

theorem hexPadded_succ (width n : Nat) (some : 0 < width) :
    Text.hexPadded (width + 1) n = Text.hexPadded width (n / 16) ++ [Nat.digitChar (n % 16)] := by
  unfold Text.hexPadded
  by_cases small : n < 16
  · rw [Nat.toDigits_of_lt_base small, Nat.div_eq_of_lt small, Nat.mod_eq_of_lt small,
      Nat.toDigits_zero]
    have zeros : List.replicate width '0' = List.replicate (width - 1) '0' ++ ['0'] := by
      rw [← List.replicate_succ', Nat.sub_add_cancel some]
    simp [zeros]
  · simp only [Nat.toDigits_of_base_le (by decide : 1 < 16) (not_lt.mp small), List.length_append,
      List.length_singleton, Nat.add_sub_add_right, List.append_assoc]

/-- Four digits are enough for sixteen bits. -/
theorem hexPadded_four {n : Nat} (bits : n < 0x10000) : Text.hexPadded 4 n =
    [Nat.digitChar (n / 4096), Nat.digitChar (n / 256 % 16), Nat.digitChar (n / 16 % 16),
      Nat.digitChar (n % 16)] := by
  have one : Text.hexPadded 1 (n / 4096) = [Nat.digitChar (n / 4096)] := by
    rw [Text.hexPadded, Nat.toDigits_of_lt_base (by omega)]
    rfl
  have second : n / 16 / 16 = n / 256 := Nat.div_div_eq_div_mul n 16 16
  have first : n / 256 / 16 = n / 4096 := Nat.div_div_eq_div_mul n 256 16
  rw [hexPadded_succ 3 n (by decide), hexPadded_succ 2 _ (by decide),
    hexPadded_succ 1 _ (by decide), second, first, one]
  rfl

theorem hexDigits : ∀ n < 16, hexDigit? (Nat.digitChar n) = some n ∧ Shown (Nat.digitChar n) := by
  decide

/-- An escape is read as the number that it was written from. -/
theorem exists_hexPadded {n : Nat} (bits : n < 0x10000) : ∃ a b c d,
    Text.hexPadded 4 n = [a, b, c, d] ∧ hexFour? [a, b, c, d] = some n := by
  refine ⟨_, _, _, _, hexPadded_four bits, ?_⟩
  simp only [hexFour?, (hexDigits (n / 4096) (by omega)).1, (hexDigits (n / 256 % 16) (by omega)).1,
    (hexDigits (n / 16 % 16) (by omega)).1, (hexDigits (n % 16) (by omega)).1]
  change some (((n / 4096 * 16 + n / 256 % 16) * 16 + n / 16 % 16) * 16 + n % 16) = some n
  exact congrArg some (by omega)

theorem escapedUnit_shown {n : Nat} (bits : n < 0x10000) : ∀ c ∈ escapedUnit n, Shown c := by
  rw [escapedUnit, hexPadded_four bits]
  simp only [List.forall_mem_cons]
  exact ⟨by decide, by decide, (hexDigits _ (by omega)).2, (hexDigits _ (by omega)).2,
    (hexDigits _ (by omega)).2, (hexDigits _ (by omega)).2, by simp⟩

/-- Characters are no halves of surrogate pairs. -/
theorem not_surrogate (c : Char) :
    ¬ (0xd800 ≤ c.toNat ∧ c.toNat ≤ 0xdfff) ∧ c.toNat < 0x110000 := by
  rcases c.valid with low | high
  · exact ⟨fun h => absurd (h.1.trans_lt low) (lt_irrefl _), low.trans (by decide)⟩
  · exact ⟨fun h => absurd (high.1.trans_le h.2) (lt_irrefl _), high.2⟩

/-- The escape of a character stands for it: a code point of sixteen bits for itself, a greater one
as a pair. -/
theorem StringText.escapedChar {t s : List Char} (rest : StringText t s) (c : Char) :
    StringText (escapedChar c ++ t) (c :: s) := by
  obtain ⟨single, limited⟩ := not_surrogate c
  unfold Json.escapedChar
  simp only
  split
  · next bits =>
    obtain ⟨p, q, r, u, text, read⟩ := exists_hexPadded bits
    have high : isHigh c.toNat = false := by
      simp only [isHigh, Bool.and_eq_false_iff, decide_eq_false_iff_not]
      omega
    have low : isLow c.toNat = false := by
      simp only [isLow, Bool.and_eq_false_iff, decide_eq_false_iff_not]
      omega
    have same : charOf c.toNat = c := by
      rw [charOf, high, low]
      exact Char.ofNat_toNat c
    have whole := StringText.point (t := t) (s := s) read (fun half => by
      rw [high] at half
      cases half.1) rest
    rw [same] at whole
    rwa [escapedUnit, text]
  · next more =>
    obtain ⟨p, q, r, u, first, readFirst⟩ :=
      exists_hexPadded (n := 0xd800 + (c.toNat - 0x10000) / 0x400) (by omega)
    obtain ⟨p', q', r', u', second, readSecond⟩ :=
      exists_hexPadded (n := 0xdc00 + (c.toNat - 0x10000) % 0x400) (by omega)
    have pair := StringText.pair (t := t) (s := s) readFirst
      (by simp only [isHigh, Bool.and_eq_true, decide_eq_true_eq]; omega) readSecond
      (by simp only [isLow, Bool.and_eq_true, decide_eq_true_eq]; omega) rest
    have point : 0x10000 + (0xd800 + (c.toNat - 0x10000) / 0x400 - 0xd800) * 0x400 +
        (0xdc00 + (c.toNat - 0x10000) % 0x400 - 0xdc00) = c.toNat := by omega
    rw [point, Char.ofNat_toNat] at pair
    rw [escapedUnit, escapedUnit, first, second]
    exact pair

theorem StringText.quotedChar {t s : List Char} (rest : StringText t s) (ascii : Bool) (c : Char) :
    StringText (quotedChar ascii c ++ t) (c :: s) := by
  unfold Json.quotedChar
  split_ifs with quote backslash n r t' b f control beyond
  · subst quote
    exact .escape rfl rest
  · subst backslash
    exact .escape rfl rest
  · subst n
    exact .escape rfl rest
  · subst r
    exact .escape rfl rest
  · subst t'
    exact .escape rfl rest
  · subst b
    exact .escape rfl rest
  · subst f
    exact .escape rfl rest
  · exact rest.escapedChar c
  · exact rest.escapedChar c
  · exact .plain quote backslash (by omega) rest

/-- What stands between the quotes of a written string spells it. -/
theorem stringText_quoted (ascii : Bool) (s : List Char) :
    StringText (s.flatMap (quotedChar ascii)) s := by
  induction s with
  | nil => exact .nil
  | cons c s ih =>
    rw [List.flatMap_cons]
    exact ih.quotedChar ascii c

theorem escapedChar_shown (c : Char) : ∀ d ∈ escapedChar c, Shown d := by
  have limited := (not_surrogate c).2
  unfold escapedChar
  simp only
  split
  · next bits => exact escapedUnit_shown bits
  · exact List.forall_mem_append.mpr
      ⟨escapedUnit_shown (by omega), escapedUnit_shown (by omega)⟩

theorem quotedChar_shown (c : Char) : ∀ d ∈ quotedChar true c, Shown d := by
  unfold quotedChar
  split_ifs with quote backslash n r t b f control beyond
  on_goal 8 => exact escapedChar_shown c
  on_goal 8 => exact escapedChar_shown c
  on_goal 8 =>
    rw [Bool.true_and, decide_eq_true_eq] at beyond
    rw [List.forall_mem_singleton]
    exact shown_iff.mpr ⟨by omega, by omega⟩
  all_goals decide

theorem quoted_shown (s : String) : ∀ c ∈ quoted true s, Shown c := by
  have inside : ∀ c ∈ s.toList.flatMap (quotedChar true), Shown c := by
    intro c mem
    obtain ⟨d, -, here⟩ := List.mem_flatMap.mp mem
    exact quotedChar_shown d c here
  rw [quoted]
  exact List.forall_mem_append.mpr ⟨List.forall_mem_cons.mpr ⟨by decide, inside⟩, by decide⟩

/-! ### Numbers -/

/-- No number but zero begins with a zero. -/
theorem head?_ofNat {n : Nat} (positive : 0 < n) : (Digits.ofNat n).head? ≠ some '0' := by
  have digits : ∀ d < 10, 0 < d → Nat.digitChar d ≠ '0' := by decide
  induction n using Nat.strongRecOn with
  | _ n ih =>
    rw [Digits.ofNat]
    by_cases small : n < 10
    · rw [Nat.toDigits_of_lt_base small]
      simpa using digits n small positive
    · rw [Nat.toDigits_of_base_le (by decide) (not_lt.mp small),
        List.head?_append_of_ne_nil _ Nat.toDigits_ne_nil]
      exact ih (n / 10) (by omega) (by omega)

theorem run_ofNat (n : Nat) : Run (Digits.ofNat n) :=
  ⟨Reading.ofNat_ne_nil n, fun _ => Reading.isDigit_ofNat⟩

theorem wholeText_ofNat (n : Nat) : WholeText (Digits.ofNat n) := by
  rcases Nat.eq_zero_or_pos n with rfl | positive
  · exact Or.inl rfl
  · exact Or.inr ⟨run_ofNat n, head?_ofNat positive⟩

theorem exponentText_exponent (e : Int) : ExponentText (Layout.exponent e) e := by
  have run : Run (Digits.padded 2 e.natAbs) :=
    ⟨Reading.padded_ne_nil 2 e.natAbs, fun _ => Reading.isDigit_padded⟩
  have value := Reading.naturalOf_padded 2 e.natAbs
  unfold Layout.exponent
  by_cases negative : e < 0
  · have text := ExponentText.some (e := 'e') (Or.inl rfl) .minus run
    have same : -(e.natAbs : Int) = e := by omega
    rw [if_pos rfl, value, same] at text
    rw [if_pos negative]
    exact text
  · have text := ExponentText.some (e := 'e') (Or.inl rfl) .plus run
    have same : (e.natAbs : Int) = e := by omega
    rw [if_neg Bool.false_ne_true, value, same] at text
    rw [if_neg negative]
    exact text

/-- A text of the grammar without its sign, which spells what it is read as anywhere else. -/
def Spelling (text : List Char) : Prop :=
  ∃ ds f part e power, text = ds ++ (f ++ e) ∧ WholeText ds ∧ FractionText f part ∧
    ExponentText e power ∧ f ++ e ≠ [] ∧ ∀ neg, Reading.decimal neg text =
      .some (Double.ofDecimal neg (Reading.naturalOf (ds ++ part)) (power - part.length))

theorem spelling_point {whole part : List Char} (text : WholeText whole) (more : Run part) :
    Spelling (whole ++ '.' :: part) := by
  refine ⟨whole, _, part, [], 0, by simp, text, .some more, .none, by simp, fun neg => ?_⟩
  simpa using Reading.decimal_positional text.run.digits more.digits text.run.some neg

theorem spelling_exponent {whole : List Char} (text : WholeText whole) (e : Int) :
    Spelling (whole ++ Layout.exponent e) := by
  refine ⟨whole, [], [], _, e, rfl, text, .none, exponentText_exponent e, nofun, fun neg => ?_⟩
  simpa using Reading.decimal_whole text.run.digits text.run.some neg

theorem spelling_point_exponent {whole part : List Char} (text : WholeText whole)
    (more : Run part) (e : Int) : Spelling (whole ++ '.' :: (part ++ Layout.exponent e)) :=
  ⟨whole, _, part, _, e, rfl, text, .some more, exponentText_exponent e, nofun, fun neg =>
    Reading.decimal_point text.run.digits more.digits text.run.some (Reading.ends_exponent e)
      (Reading.exponent_write e) neg⟩

/-- The text of a decimal, in each of the layouts. -/
theorem spelling_write {d : Digits.Decimal} (some : 0 < d.coefficient) :
    Spelling (Layout.document.write d) := by
  have run := run_ofNat d.coefficient
  have lead := head?_ofNat some
  -- A whole part that begins as the digits do.
  have begins {whole : List Char} (digits : ∀ c ∈ whole, c.isDigit = true) (found : whole ≠ [])
      (same : whole.head? = (Digits.ofNat d.coefficient).head?) : WholeText whole :=
    Or.inr ⟨⟨found, digits⟩, same ▸ lead⟩
  unfold Layout.write
  generalize Digits.ofNat d.coefficient = ds at *
  have longer := List.length_pos_iff.mpr run.some
  simp only [Reading.legible_document.point, if_true]
  split_ifs with placed whole above
  · refine spelling_point (begins ?_ (by simp [run.some]) (List.head?_append_of_ne_nil _ run.some))
      ⟨by simp, by simp⟩
    exact List.forall_mem_append.mpr ⟨run.digits, fun _ => Reading.isDigit_zeros⟩
  · generalize width : (d.exponent + ds.length - 1 + 1).toNat = w
    have inside : 0 < w ∧ w < ds.length := by omega
    apply spelling_point
    · refine begins (fun c mem => run.digits c (List.mem_of_mem_take mem)) ?_ ?_
      · rw [Ne, List.take_eq_nil_iff]
        rintro (none | empty)
        · omega
        · exact run.some empty
      · rw [List.head?_take, if_neg (by omega)]
    · refine ⟨?_, fun c mem => run.digits c (List.mem_of_mem_drop mem)⟩
      rw [Ne, List.drop_eq_nil_iff]
      omega
  · exact spelling_point (Or.inl rfl) ⟨by simp [run.some],
      List.forall_mem_append.mpr ⟨fun _ => Reading.isDigit_zeros, run.digits⟩⟩
  · match ds, run with
    | [], run => exact absurd rfl run.some
    | [c], run => exact spelling_exponent (begins run.digits run.some rfl) _
    | c :: next :: rest, run =>
      obtain ⟨digit, digits⟩ := List.forall_mem_cons.mp run.digits
      exact spelling_point_exponent (begins (List.forall_mem_singleton.mpr digit) (by simp) rfl)
        ⟨by simp, digits⟩ _

/-- The text of a finite double that is not zero, sign included. -/
theorem numberText_finite {neg : Bool} {m : Nat} {e : Int} (h : Double.Canonical m e)
    (positive : 0 < m) : NumberText (minus neg ++ Layout.document.write (Digits.shortest m e))
      (.dbl (.finite neg m e h)) := by
  have some : 0 < (Digits.shortest m e).coefficient := by
    have inside := Digits.shortest_contains h positive
    by_contra none
    simp only [Digits.Decimal.value, Nat.eq_zero_of_not_pos none, Nat.cast_zero, zero_mul,
      zero_div, Digits.Interval.Contains, Digits.intervalOf] at inside
    split_ifs at inside <;> norm_cast at inside <;> omega
  obtain ⟨c, p, read, value⟩ :=
    Reading.decimal_write Reading.legible_document.point (Digits.shortest m e) neg
  have same : Double.ofDecimal neg c p = .finite neg m e h := by
    apply Double.ofDecimal_of_contains h positive
    have inside := Digits.shortest_contains h positive
    rwa [← value] at inside
  obtain ⟨ds, f, part, e', power, text, whole, fraction, exponent, more, spelled⟩ :=
    spelling_write some
  have number := NumberText.double neg whole fraction exponent more
  rw [← same, ← Option.some.inj ((spelled neg).symm.trans read), text]
  exact number

/-- Every number is written in the grammar, with words for what no digits can say; a whole one, if
its digits are not too many. -/
theorem number_spells {n : Number} (room : Nat)
    (short : ∀ k, n = .int k → (Digits.ofNat k.natAbs).length ≤ maxDigits) :
    Spells room (numberText n).toList (.value (.num n)) := by
  cases n with
  | int k =>
    rw [numberText, toList_toString]
    by_cases negative : k < 0
    · have text := NumberText.whole true (wholeText_ofNat k.natAbs) (short k rfl)
      have same : -(k.natAbs : Int) = k := by omega
      rw [Reading.naturalOf_ofNat, if_pos rfl, same] at text
      rw [if_pos negative]
      exact .number text
    · have text := NumberText.whole false (wholeText_ofNat k.natAbs) (short k rfl)
      have same : (k.natAbs : Int) = k := by omega
      rw [Reading.naturalOf_ofNat, if_neg Bool.false_ne_true, same] at text
      rw [if_neg negative]
      exact .number text
  | dbl x =>
    cases x with
    | nan => exact .word (w := "NaN") (by simp [words, Value.dbl])
    | infinite neg =>
      cases neg with
      | false => exact .word (w := "Infinity") (by simp [words, Value.dbl])
      | true => exact .word (w := "-Infinity") (by simp [words, Value.dbl])
    | finite neg m e h =>
      have signed (text : List Char) : (Layout.signed neg text).toList = minus neg ++ text := by
        rw [Layout.signed, String.toList_ofList]
        cases neg <;> rfl
      refine .number ?_
      rw [numberText, Layout.double]
      by_cases zero : m = 0
      · subst zero
        have least : e = -1074 := h.2.2.2.resolve_left (by norm_num)
        subst least
        rw [if_pos rfl, signed]
        have text := NumberText.double neg (Or.inl rfl : WholeText ['0'])
          (.some ⟨by simp, by simp⟩ : FractionText ['.', '0'] ['0']) .none (by simp)
        cases neg <;> exact text
      · rw [if_neg zero, signed]
        exact numberText_finite h (Nat.pos_of_ne_zero zero)

theorem numberText_shown (n : Number) : ∀ c ∈ (numberText n).toList, Shown c := by
  cases n with
  | int n =>
    intro c mem
    have mark := wholeMarks n c mem
    apply shown_of_isMark
    simp only [isWholeMark, Bool.or_eq_true] at mark
    rcases mark with digit | minus
    · simp [Reading.isMark, digit]
    · simp [Reading.isMark, minus]
  | dbl x =>
    cases x with
    | nan => decide
    | infinite neg => exact forall_signed neg (by decide) (by decide)
    | finite neg m e h =>
      rw [numberText, Layout.double]
      split
      · exact forall_signed neg (by decide) (by decide)
      · exact forall_signed neg (by decide) fun c mem =>
          shown_of_isMark (Reading.marks_write _ _ c mem)

/-! ### Values -/

mutual

/-- How many containers stand inside one another in a value. -/
def height : Value → Nat
  | .list xs => heightItems xs + 1
  | .obj fs => heightFields fs + 1
  | _ => 0

def heightItems : List Value → Nat
  | [] => 0
  | x :: xs => max (height x) (heightItems xs)

def heightFields : List (String × Value) → Nat
  | [] => 0
  | (_, v) :: fs => max (height v) (heightFields fs)

end

/-- A value that is JSON, has no key twice in an object, and whose whole numbers do not have more
digits than are read. -/
structure Writable (v : Value) : Prop where
  json : foreign? v = none
  once : v.Distinct
  short : ∀ k : Int, Leaf v (.int k) → (Digits.ofNat k.natAbs).length ≤ maxDigits

theorem Writable.item {xs : List Value} {x : Value} (writable : Writable (.list xs))
    (mem : x ∈ xs) : Writable x where
  json := foreignItem?_eq_none_iff.mp writable.json x mem
  once := Value.distinct_list.mp writable.once x mem
  short k leaf := writable.short k (.item mem leaf)

theorem Writable.field {fs : Fields} {f : String × Value} (writable : Writable (.obj fs))
    (mem : f ∈ fs) : Writable f.2 where
  json := foreignField?_eq_none_iff.mp writable.json f mem
  once := (Value.distinct_obj.mp writable.once).2 f mem
  short k leaf := writable.short k (.field mem leaf)

theorem spaces_nil : Spaces [] := nofun

theorem nameText_quoted (key : String) : NameText (quoted true key ++ [':']) key := by
  have text := NameText.intro (stringText_quoted true key.toList) spaces_nil spaces_nil
  rw [String.ofList_toList] at text
  simpa [quoted] using text

mutual

/-- A writable value is written in the grammar, wherever there is room for its containers. -/
theorem write_spells (v : Value) (writable : Writable v) {room : Nat} (fits : height v ≤ room) :
    Spells room (write compact v) (.value v) := by
  match v with
  | .null => exact .word (w := "null") (by simp [words])
  | .bool true => exact .word (w := "true") (by simp [words])
  | .bool false => exact .word (w := "false") (by simp [words])
  | .num n => exact number_spells room fun k same => writable.short k (same ▸ .here n)
  | .str s =>
    have text : Spells room _ _ := .string (stringText_quoted true s.toList)
    rwa [String.ofList_toList] at text
  | .list [] =>
    obtain ⟨room, rfl⟩ := Nat.exists_eq_add_of_lt (show 0 < room from fits)
    exact .noItems spaces_nil
  | .list (x :: xs) =>
    rw [height] at fits
    obtain ⟨room, rfl⟩ := Nat.exists_eq_add_of_le' (Nat.le_of_add_left_le fits)
    exact .list spaces_nil (writeItems_spells (x :: xs) (by simp)
      (fun y mem => writable.item mem) (by omega))
  | .obj [] =>
    obtain ⟨room, rfl⟩ := Nat.exists_eq_add_of_lt (show 0 < room from fits)
    exact .noFields spaces_nil
  | .obj (f :: fs) =>
    rw [height] at fits
    obtain ⟨room, rfl⟩ := Nat.exists_eq_add_of_le' (Nat.le_of_add_left_le fits)
    have text : Spells (room + 1) _ _ := .object spaces_nil (writeFields_spells (f :: fs) (by simp)
      (fun g mem => writable.field mem) (by omega))
    rw [Fields.ofEntries_of_nodup (writable.once _ .here)] at text
    exact text
  | .day _ | .moment _ | .decimal _ | .span _ => cases writable.json

theorem writeItems_spells (xs : List Value) (some : xs ≠ []) (writable : ∀ x ∈ xs, Writable x)
    {room : Nat} (fits : heightItems xs ≤ room) :
    Spells room (writeItems compact xs) (.items xs) := by
  match xs with
  | [] => exact absurd rfl some
  | [x] =>
    rw [heightItems] at fits
    have text : Spells room _ _ :=
      .lastItem (write_spells x (writable x (by simp)) (by omega)) spaces_nil
    rwa [List.append_nil] at text
  | x :: y :: xs =>
    rw [heightItems] at fits
    obtain ⟨here, there⟩ := List.forall_mem_cons.mp writable
    rw [writeItems, List.append_assoc]
    exact .item (write_spells x here (by omega)) spaces_nil spaces_nil
      (writeItems_spells (y :: xs) (by simp) there (by omega))

theorem writeFields_spells (fs : List (String × Value)) (some : fs ≠ [])
    (writable : ∀ f ∈ fs, Writable f.2) {room : Nat} (fits : heightFields fs ≤ room) :
    Spells room (writeFields compact fs) (.fields fs) := by
  match fs with
  | [] => exact absurd rfl some
  | [(k, v)] =>
    rw [heightFields] at fits
    have text : Spells room _ _ := .lastField (nameText_quoted k)
      (write_spells v (writable (k, v) (by simp)) (by omega)) spaces_nil
    rwa [List.append_nil] at text
  | (k, v) :: f :: fs =>
    rw [heightFields] at fits
    obtain ⟨here, there⟩ := List.forall_mem_cons.mp writable
    have text : Spells room _ _ := .field (nameText_quoted k) (write_spells v here (by omega))
      spaces_nil spaces_nil (writeFields_spells (f :: fs) (by simp) there (by omega))
    simpa [writeFields, compact] using text

end

mutual

theorem write_shown (v : Value) : ∀ c ∈ write compact v, Shown c := by
  match v with
  | .null => decide
  | .bool true => decide
  | .bool false => decide
  | .num n => exact numberText_shown n
  | .str s => exact quoted_shown s
  | .list xs =>
    exact List.forall_mem_append.mpr
      ⟨List.forall_mem_cons.mpr ⟨by decide, writeItems_shown xs⟩, by decide⟩
  | .obj fs =>
    exact List.forall_mem_append.mpr
      ⟨List.forall_mem_cons.mpr ⟨by decide, writeFields_shown fs⟩, by decide⟩
  | .day d => exact quoted_shown d.iso
  | .moment m => exact quoted_shown m.iso
  | .decimal x => exact quoted_shown x.text
  | .span micros => exact quoted_shown (Span.text micros)

theorem writeItems_shown (xs : List Value) : ∀ c ∈ writeItems compact xs, Shown c := by
  match xs with
  | [] => exact nofun
  | [x] => exact write_shown x
  | x :: y :: xs =>
    rw [writeItems]
    simp only [List.forall_mem_append]
    exact ⟨⟨write_shown x, by decide⟩, writeItems_shown (y :: xs)⟩

theorem writeFields_shown (fs : List (String × Value)) :
    ∀ c ∈ writeFields compact fs, Shown c := by
  match fs with
  | [] => exact nofun
  | [(k, v)] =>
    rw [writeFields]
    simp only [List.forall_mem_append]
    exact ⟨⟨quoted_shown k, by decide⟩, write_shown v⟩
  | (k, v) :: f :: fs =>
    rw [writeFields]
    simp only [List.forall_mem_append]
    exact ⟨⟨⟨⟨quoted_shown k, by decide⟩, write_shown v⟩, by decide⟩, writeFields_shown (f :: fs)⟩

end

/-- What has been written is a document, and is read back as what it was: always, if containers may
stand as deep as they like, and otherwise within the limit. -/
theorem read_write {v : Value} (writable : Writable v) : readDeep (write compact v) = .ok v ∧
    (height v ≤ maxDepth → read (write compact v) = .ok v) := by
  have document {room : Nat} (fits : height v ≤ room) : Document room (write compact v) v :=
    ⟨[], write compact v, [], nofun, write_spells v writable fits, nofun, by simp⟩
  exact ⟨readDeep_eq_ok_iff.mpr ⟨height v, document le_rfl⟩,
    fun fits => read_eq_ok_iff.mpr (document fits)⟩

end Json
end MetricDesk
