import Mathlib.Data.List.TakeWhile
import MetricDesk.Proofs.Failure
import MetricDesk.Proofs.Json.Grammar

/-! Reading what no other value stands in: spaces, strings, words and numbers. Main statements:
`readChars_of_stringText` and `stringText_of_readChars`, a string is read exactly where the grammar
has one; `readNumber_of_numberText`, a number is read where nothing goes on behind it; and
`readNumber_cases`, what else may stand where a number is due. -/
namespace MetricDesk.Json

/-! ### Cursors -/

/-- A text stands at a cursor, and another cursor behind it. -/
structure Cursor.Passes (c : Cursor) (t : List Char) (after : Cursor) : Prop where
  rest : c.rest = t ++ after.rest
  offset : after.offset = c.offset + t.length

namespace Cursor.Passes

variable {c d e : Cursor} {t u : List Char}

theorem refl (c : Cursor) : c.Passes [] c := ⟨rfl, rfl⟩

theorem trans (first : c.Passes t d) (second : d.Passes u e) : c.Passes (t ++ u) e := by
  refine ⟨by rw [first.rest, second.rest, List.append_assoc], ?_⟩
  rw [second.offset, first.offset, List.length_append, Nat.add_assoc]

theorem of_skip {rest : List Char} (split : c.rest = t ++ rest) : c.Passes t (c.skip t.length) := by
  refine ⟨?_, rfl⟩
  rw [Cursor.skip, split, List.drop_left]

theorem of_head {a : Char} (first : c.head? = some a) : c.Passes [a] (c.skip 1) := by
  obtain ⟨rest, split⟩ := List.head?_eq_some_iff.mp first
  exact of_skip (t := [a]) split

theorem unique (h : c.Passes t d) (h' : c.Passes t e) : d = e := by
  have rest := List.append_cancel_left (h.rest.symm.trans h'.rest)
  have offset := h.offset.trans h'.offset.symm
  cases d
  cases e
  exact congrArg₂ Cursor.mk rest offset

/-- What stands in front of a text is passed with it. -/
theorem append {rest : List Char} {offset n : Nat} (h : (Cursor.mk rest (offset + n)).Passes t d)
    (length : u.length = n) : (Cursor.mk (u ++ rest) offset).Passes (u ++ t) d := by
  refine ⟨?_, ?_⟩
  · rw [List.append_assoc]
    exact congrArg (u ++ ·) h.rest
  · rw [h.offset, List.length_append, length, Nat.add_assoc]

end Cursor.Passes

theorem Cursor.skip_append (t rest : List Char) (offset : Nat) :
    (Cursor.mk (t ++ rest) offset).skip t.length = ⟨rest, offset + t.length⟩ := by
  rw [Cursor.skip, List.drop_left]

/-- No space stands at the front. -/
def Spaceless (cs : List Char) : Prop := ∀ c ∈ cs.head?, Cursor.isSpace c = false

theorem passes_spaces (c : Cursor) : ∃ sp, Spaces sp ∧ c.Passes sp c.spaces := by
  refine ⟨c.rest.takeWhile Cursor.isSpace, fun _ mem => List.mem_takeWhile_imp mem, ?_⟩
  exact .of_skip (List.takeWhile_append_dropWhile (p := Cursor.isSpace)).symm

theorem spaces_append {sp rest : List Char} (spaces : Spaces sp) (none : Spaceless rest)
    (offset : Nat) : (Cursor.mk (sp ++ rest) offset).spaces = ⟨rest, offset + sp.length⟩ := by
  have taken : rest.takeWhile Cursor.isSpace = [] := by
    cases rest with
    | nil => rfl
    | cons c cs => rw [List.takeWhile_cons_of_neg (by simp [none c rfl])]
  rw [Cursor.spaces, List.takeWhile_append_of_pos spaces, taken, List.append_nil,
    Cursor.skip_append]

/-! ### Strings -/

theorem hexDigit_apart {c : Char} {n : Nat} (h : hexDigit? c = some n) : c ≠ '"' ∧ c ≠ '\\' := by
  constructor
  · rintro rfl
    cases h
  · rintro rfl
    cases h

theorem hexFour?_eq_some {cs : List Char} {n : Nat} (h : hexFour? cs = some n) :
    ∃ a b c d rest, cs = a :: b :: c :: d :: rest ∧ hexFour? [a, b, c, d] = some n := by
  match cs, h with
  | a :: b :: c :: d :: rest, h => exact ⟨a, b, c, d, rest, rfl, h⟩

theorem readChars_plain {c : Char} (quote : c ≠ '"') (backslash : c ≠ '\\')
    (printed : 0x1f < c.toNat) (start fuel offset : Nat) (rest read : List Char) :
    readChars start (fuel + 1) ⟨c :: rest, offset⟩ read =
      readChars start fuel ⟨rest, offset + 1⟩ (c :: read) := by
  rw [readChars.eq_def]
  simp only
  split
  · contradiction
  · next same => exact absurd (List.cons.inj same).1 quote
  · next same => exact absurd (List.cons.inj same).1 backslash
  · next same => exact absurd (List.cons.inj same).1 backslash
  · next same => exact absurd (List.cons.inj same).1 backslash
  · next same =>
    cases same
    rw [if_neg (by omega)]
    rfl

theorem readChars_escape {e ch : Char} (escaped : simpleEscape? e = some ch)
    (start fuel offset : Nat) (rest read : List Char) :
    readChars start (fuel + 1) ⟨'\\' :: e :: rest, offset⟩ read =
      readChars start fuel ⟨rest, offset + 2⟩ (ch :: read) := by
  have other : e ≠ 'u' := by
    rintro rfl
    cases escaped
  rw [readChars.eq_def]
  simp only [escaped]
  rfl

theorem readChars_point {offset width : Nat} {more : List Char} {ch : Char}
    (h : escapedPoint? (offset + 2) more = .ok (ch, width)) (start fuel : Nat) (read : List Char) :
    readChars start (fuel + 1) ⟨'\\' :: 'u' :: more, offset⟩ read =
      readChars start fuel ⟨more.drop width, offset + (2 + width)⟩ (ch :: read) := by
  rw [readChars.eq_def]
  simp only [h]
  change readChars start fuel ⟨List.drop (2 + width) ('\\' :: 'u' :: more), _⟩ _ = _
  rw [Nat.add_comm 2 width]
  rfl

theorem LowNext.append {cs : List Char} (h : LowNext cs) (rest : List Char) :
    LowNext (cs ++ rest) := by
  obtain ⟨a, b, c, d, low, more, rfl, hex, isLow⟩ := h
  exact ⟨a, b, c, d, low, more ++ rest, rfl, hex, isLow⟩

/-- Four hexadecimal digits stand for themselves unless the high half of a pair is followed by the
low one. -/
theorem escapedPoint?_point {a b c d : Char} {n : Nat} (hex : hexFour? [a, b, c, d] = some n)
    {more : List Char} (some : more ≠ [])
    (single : isHigh n = true → ∀ m, more = '\\' :: 'u' :: m →
      ∃ low, hexFour? m = .some low ∧ isLow low = false) (offset : Nat) :
    escapedPoint? offset (a :: b :: c :: d :: more) = .ok (charOf n, 4) := by
  have read : hexFour? (a :: b :: c :: d :: more) = .some n := hex
  have behind : (more.isEmpty) = false := by simpa using some
  simp only [escapedPoint?, List.drop_succ_cons, List.drop_zero, behind, Bool.false_eq_true,
    if_false, read]
  split
  · next m high =>
    obtain ⟨low, found, other⟩ := single (Bool.and_eq_true_iff.mp high).1 m rfl
    simp [found, other]
  · rfl

theorem escapedPoint?_pair {a b c d a' b' c' d' : Char} {n low : Nat}
    (hex : hexFour? [a, b, c, d] = some n) (high : isHigh n = true)
    (hex' : hexFour? [a', b', c', d'] = some low) (isLow : isLow low = true)
    {more : List Char} (some : more ≠ []) (offset : Nat) :
    escapedPoint? offset
        (a :: b :: c :: d :: '\\' :: 'u' :: a' :: b' :: c' :: d' :: more) =
      .ok (Char.ofNat (0x10000 + (n - 0xd800) * 0x400 + (low - 0xdc00)), 10) := by
  have read (rest : List Char) : hexFour? (a :: b :: c :: d :: rest) = .some n := hex
  have read' : hexFour? (a' :: b' :: c' :: d' :: more) = .some low := hex'
  have behind : (more.isEmpty) = false := by simpa using some
  simp [escapedPoint?, read, read', behind, high, isLow]

/-- What an escape that is read stands for. -/
theorem escapedPoint?_cases {offset width : Nat} {cs : List Char} {ch : Char}
    (h : escapedPoint? offset cs = .ok (ch, width)) :
    ∃ a b c d n more, cs = a :: b :: c :: d :: more ∧ hexFour? [a, b, c, d] = some n ∧
      (width = 4 ∧ ch = charOf n ∧ ¬ (isHigh n = true ∧ more.drop 6 ≠ [] ∧ LowNext more) ∨
        width = 10 ∧ isHigh n = true ∧ ∃ a' b' c' d' low rest,
          more = '\\' :: 'u' :: a' :: b' :: c' :: d' :: rest ∧
          hexFour? [a', b', c', d'] = some low ∧ isLow low = true ∧
          ch = Char.ofNat (0x10000 + (n - 0xd800) * 0x400 + (low - 0xdc00))) := by
  unfold escapedPoint? at h
  split at h
  · cases h
  · split at h
    · cases h
    · next n found =>
      obtain ⟨a, b, c, d, more, rfl, hex⟩ := hexFour?_eq_some found
      refine ⟨a, b, c, d, n, more, rfl, hex, ?_⟩
      simp only [List.drop_succ_cons, List.drop_zero] at h
      split at h
      · next m both =>
        obtain ⟨high, -⟩ := Bool.and_eq_true_iff.mp both
        split at h
        · cases h
        · next low found' =>
          obtain ⟨a', b', c', d', rest, rfl, hex'⟩ := hexFour?_eq_some found'
          split at h
          · next isLow =>
            obtain ⟨rfl, rfl⟩ := Prod.mk.inj (Except.ok.inj h)
            exact Or.inr ⟨rfl, high, a', b', c', d', low, rest, rfl, hex', isLow, rfl⟩
          · next other =>
            cases h
            refine Or.inl ⟨rfl, rfl, ?_⟩
            rintro ⟨-, -, e, f, g, i, m, rest', split, hex'', isLow⟩
            cases split
            rw [hex'] at hex''
            cases hex''
            exact other isLow
      · next apart =>
        cases h
        refine Or.inl ⟨rfl, rfl, ?_⟩
        rintro ⟨high, some, e, f, g, i, m, rest', rfl, -⟩
        refine apart _ ?_ rfl
        rw [high]
        simpa using some

/-- The rest of a string has no low half in front of its closing quote unless it begins with one. -/
theorem StringText.single {t s : List Char} (h : StringText t s) (none : ¬ LowNext t)
    {rest m : List Char} (same : t ++ '"' :: rest = '\\' :: 'u' :: m) :
    ∃ low, hexFour? m = some low ∧ isLow low = false := by
  cases h with
  | nil => cases same
  | plain _ backslash => exact absurd (List.cons.inj same).1 backslash
  | escape escaped =>
    obtain ⟨rfl, -⟩ := List.cons.inj (List.cons.inj same).2
    cases escaped
  | @point a b c d n t s hex =>
    obtain rfl := (List.cons.inj (List.cons.inj same).2).2
    exact ⟨n, hex, Bool.eq_false_iff.mpr fun low => none ⟨a, b, c, d, n, t, rfl, hex, low⟩⟩
  | @pair a b c d a' b' c' d' n _ t s hex =>
    obtain rfl := (List.cons.inj (List.cons.inj same).2).2
    exact ⟨n, hex, Bool.eq_false_iff.mpr fun low => none ⟨a, b, c, d, n, _, rfl, hex, low⟩⟩

/-- A string is read up to its closing quote. -/
theorem readChars_of_stringText {t s : List Char} (h : StringText t s) (start : Nat) {fuel : Nat}
    (enough : t.length < fuel) (offset : Nat) (rest read : List Char) :
    readChars start fuel ⟨t ++ '"' :: rest, offset⟩ read =
      .ok (read.reverse ++ s, ⟨rest, offset + (t.length + 1)⟩) := by
  induction h generalizing fuel offset read with
  | nil =>
    obtain ⟨fuel, rfl⟩ := Nat.exists_eq_add_one.mpr (Nat.zero_lt_of_lt enough)
    rw [List.append_nil]
    rfl
  | @plain c t s quote backslash printed _ ih =>
    obtain ⟨fuel, rfl⟩ := Nat.exists_eq_add_one.mpr (Nat.zero_lt_of_lt enough)
    rw [List.cons_append, readChars_plain quote backslash printed,
      ih (Nat.lt_of_succ_lt_succ enough)]
    simp only [List.reverse_cons, List.append_assoc, List.singleton_append, List.length_cons]
    congr 3
    omega
  | @escape e ch t s escaped _ ih =>
    obtain ⟨fuel, rfl⟩ := Nat.exists_eq_add_one.mpr (Nat.zero_lt_of_lt enough)
    simp only [List.length_cons] at enough
    rw [List.cons_append, List.cons_append, readChars_escape escaped, ih (by omega)]
    simp only [List.reverse_cons, List.append_assoc, List.singleton_append, List.length_cons]
    congr 3
    omega
  | @point a b c d n t s hex single text ih =>
    obtain ⟨fuel, rfl⟩ := Nat.exists_eq_add_one.mpr (Nat.zero_lt_of_lt enough)
    simp only [List.length_cons] at enough
    have some : t ++ '"' :: rest ≠ [] := by simp
    have point := escapedPoint?_point hex some
      (fun high m same => text.single (fun low => single ⟨high, low⟩) same) (offset + 2)
    simp only [List.cons_append]
    rw [readChars_point point, List.drop_succ_cons, List.drop_succ_cons, List.drop_succ_cons,
      List.drop_succ_cons, List.drop_zero, ih (by omega)]
    simp only [List.reverse_cons, List.append_assoc, List.singleton_append, List.length_cons]
    congr 3
    omega
  | @pair a b c d a' b' c' d' n low t s hex high hex' isLow _ ih =>
    obtain ⟨fuel, rfl⟩ := Nat.exists_eq_add_one.mpr (Nat.zero_lt_of_lt enough)
    simp only [List.length_cons] at enough
    have some : t ++ '"' :: rest ≠ [] := by simp
    have pair := escapedPoint?_pair hex high hex' isLow some (offset + 2)
    simp only [List.cons_append]
    rw [readChars_point pair]
    change readChars start fuel ⟨t ++ '"' :: rest, _⟩ _ = _
    rw [ih (by omega)]
    simp only [List.reverse_cons, List.append_assoc, List.singleton_append, List.length_cons]
    congr 3
    omega

/-- Whatever is read as a string is one of the grammar. -/
theorem stringText_of_readChars {start fuel : Nat} {c after : Cursor} {read cs : List Char}
    (h : readChars start fuel c read = .ok (cs, after)) :
    ∃ t s, StringText t s ∧ cs = read.reverse ++ s ∧ c.Passes (t ++ ['"']) after := by
  induction fuel generalizing c read with
  | zero => cases h
  | succ fuel ih =>
    obtain ⟨text, offset⟩ := c
    have whole := h
    rw [readChars.eq_def] at h
    simp only at h
    split at h
    · cases h
    · next rest =>
      cases h
      exact ⟨[], [], .nil, (List.append_nil _).symm, rfl, rfl⟩
    · next more =>
      cases found : escapedPoint? (offset + 2) more with
      | error e =>
        rw [found] at h
        cases h
      | ok read' =>
        obtain ⟨ch, width⟩ := read'
        rw [readChars_point found] at whole
        obtain ⟨t, s, text, rfl, passes⟩ := ih whole
        obtain ⟨a, b, c, d, n, more, rfl, hex, meaning⟩ := escapedPoint?_cases found
        rcases meaning with ⟨rfl, rfl, single⟩ | ⟨rfl, high, a', b', c', d', low, rest, rfl, hex',
          isLow, paired⟩
        · have split : more = t ++ '"' :: after.rest := by
            have rest := passes.rest
            rwa [List.append_assoc] at rest
          refine ⟨_, _, .point hex ?_ text, by simp,
            passes.append (u := ['\\', 'u', a, b, c, d]) rfl⟩
          rintro ⟨high, low⟩
          refine single ⟨high, ?_, split ▸ low.append _⟩
          obtain ⟨e, f, g, i, m, rest, rfl, -⟩ := low
          simp [split]
        · refine ⟨_, _, .pair hex high hex' isLow text, by simp [paired], ?_⟩
          exact passes.append (u := ['\\', 'u', a, b, c, d, '\\', 'u', a', b', c', d']) rfl
    · next e rest apart =>
      split at h
      · next ch escaped =>
        obtain ⟨t, s, text, rfl, passes⟩ := ih h
        exact ⟨_, _, .escape escaped text, by simp, passes.append (u := ['\\', e]) rfl⟩
      · cases h
    · cases h
    · next ch rest quote _ escape last =>
      split at h
      · cases h
      · next printed =>
        have backslash : ch ≠ '\\' := by
          intro same
          cases rest with
          | nil => exact last same rfl
          | cons e rest => exact escape e rest same rfl
        obtain ⟨t, s, text, rfl, passes⟩ := ih h
        exact ⟨_, _, .plain quote backslash (by omega) text, by simp, passes.append (u := [ch]) rfl⟩

theorem readString_of_stringText {t s : List Char} (h : StringText t s) {fuel : Nat}
    (enough : t.length < fuel) (offset : Nat) (rest : List Char) :
    readString fuel ⟨'"' :: (t ++ '"' :: rest), offset⟩ =
      .ok (String.ofList s, ⟨rest, offset + (t.length + 2)⟩) := by
  have read := readChars_of_stringText h offset enough (offset + 1) rest []
  change (readChars offset fuel ⟨t ++ '"' :: rest, offset + 1⟩ [] >>= fun p =>
    pure (String.ofList p.1, p.2)) = _
  rw [read, Nat.add_assoc, Nat.add_comm 1]
  rfl

theorem stringText_of_readString {fuel : Nat} {c after : Cursor} {key : String}
    (h : readString fuel c = .ok (key, after)) (quote : c.head? = some '"') :
    ∃ t s, StringText t s ∧ key = String.ofList s ∧ c.Passes ('"' :: (t ++ ['"'])) after := by
  obtain ⟨text, offset⟩ := c
  obtain ⟨rest, rfl⟩ := List.head?_eq_some_iff.mp quote
  obtain ⟨⟨cs, behind⟩, read, done⟩ := exists_of_bind h
  cases done
  obtain ⟨t, s, text, same, passes⟩ := stringText_of_readChars read
  exact ⟨t, s, text, congrArg String.ofList same, passes.append (u := ['"']) rfl⟩

/-! ### Words -/

theorem readWord?_of_mem {w : String} {v : Value} (mem : (w, v) ∈ words) (rest : List Char)
    (offset : Nat) :
    readWord? ⟨w.toList ++ rest, offset⟩ = some (v, ⟨rest, offset + w.toList.length⟩) := by
  simp only [words, List.mem_cons, Prod.mk.injEq, List.not_mem_nil, or_false] at mem
  rcases mem with ⟨rfl, rfl⟩ | ⟨rfl, rfl⟩ | ⟨rfl, rfl⟩ | ⟨rfl, rfl⟩ | ⟨rfl, rfl⟩ | ⟨rfl, rfl⟩ <;>
    rfl

theorem word_of_readWord? {c after : Cursor} {v : Value} (h : readWord? c = some (v, after)) :
    ∃ w : String, (w, v) ∈ words ∧ c.Passes w.toList after := by
  obtain ⟨⟨w, v'⟩, mem, found⟩ := List.exists_of_findSome?_eq_some h
  simp only at found
  split at found
  · next starts =>
    obtain ⟨rest, split⟩ := List.isPrefixOf_iff_prefix.mp starts
    cases found
    refine ⟨w, mem, ?_⟩
    rw [← String.length_toList]
    exact .of_skip split.symm
  · cases found

/-! ### Numbers -/

open Reading (Ends naturalOf)

theorem Ends.of_not_continues {rest : List Char} (h : ¬ Continues rest) : Ends rest := by
  cases rest with
  | nil => exact nofun
  | cons c rest =>
    rintro _ ⟨⟩
    exact Bool.eq_false_iff.mpr fun digit => h (.digit digit)

theorem Run.takeWhile {ds rest : List Char} (h : Run ds) (ends : Ends rest) :
    (ds ++ rest).takeWhile Char.isDigit = ds :=
  (Prod.mk.inj (Reading.digits_append h.digits ends)).1

/-- The digits at the front, of which there are some, and what follows them. -/
theorem run_of_takeWhile {cs : List Char} (some : cs.takeWhile Char.isDigit ≠ []) :
    ∃ rest, Run (cs.takeWhile Char.isDigit) ∧ cs = cs.takeWhile Char.isDigit ++ rest ∧
      Ends rest := by
  refine ⟨cs.dropWhile Char.isDigit, ⟨some, fun _ mem => List.mem_takeWhile_imp mem⟩,
    List.takeWhile_append_dropWhile.symm, ?_⟩
  intro c first
  have stops := List.head?_dropWhile_not Char.isDigit cs
  rw [Option.mem_def.mp first] at stops
  simpa using stops

theorem whole_append {ds rest : List Char} (h : WholeText ds) (ends : Ends rest) :
    whole (ds ++ rest) = ds := by
  rcases h with rfl | ⟨run, first⟩
  · rfl
  · have taken := run.takeWhile ends
    unfold whole
    split
    · next same =>
      obtain ⟨c, cs, rfl, -⟩ := run.first
      cases same
      exact absurd rfl first
    · exact taken

theorem whole_cases {cs : List Char} (some : whole cs ≠ []) :
    ∃ rest, WholeText (whole cs) ∧ cs = whole cs ++ rest ∧ (whole cs = ['0'] ∨ Ends rest) := by
  unfold whole at *
  split at *
  · next rest => exact ⟨rest, Or.inl rfl, rfl, Or.inl rfl⟩
  · next apart =>
    obtain ⟨rest, run, split, ends⟩ := run_of_takeWhile some
    refine ⟨rest, Or.inr ⟨run, fun zero => ?_⟩, split, Or.inr ends⟩
    obtain ⟨tail, same⟩ := List.head?_eq_some_iff.mp zero
    rw [same] at split
    exact apart _ split

theorem fraction_digits {d : Char} {cs : List Char} (digit : d.isDigit = true) :
    fraction ('.' :: d :: cs) = d :: cs.takeWhile Char.isDigit := if_pos digit

theorem fraction_append {f part rest : List Char} (h : FractionText f part) (ends : Ends rest)
    (none : fraction rest = []) : fraction (f ++ rest) = part := by
  cases h with
  | none => exact none
  | some run =>
    obtain ⟨d, ds, rfl, digit⟩ := run.first
    have taken := run.takeWhile ends
    rw [List.cons_append, List.takeWhile_cons_of_pos digit] at taken
    rw [List.cons_append, List.cons_append, fraction_digits digit, taken]

theorem passes_fraction (c : Cursor) : ∃ f, FractionText f (fraction c.rest) ∧
    c.Passes f (if (fraction c.rest).isEmpty then c
      else c.skip (1 + (fraction c.rest).length)) := by
  by_cases none : fraction c.rest = []
  · rw [none]
    exact ⟨[], .none, .refl c⟩
  · obtain ⟨text, offset⟩ := c
    simp only at none ⊢
    unfold fraction at none
    split at none
    · next d rest =>
      split at none
      · next digit =>
        have some : (d :: rest).takeWhile Char.isDigit ≠ [] := by
          rw [List.takeWhile_cons_of_pos digit]
          exact none
        obtain ⟨behind, run, split, -⟩ := run_of_takeWhile some
        rw [fraction_digits digit, ← List.takeWhile_cons_of_pos digit, if_neg (by simpa using some),
          Nat.add_comm]
        exact ⟨_, .some run, .of_skip (congrArg ('.' :: ·) split)⟩
      · exact absurd rfl none
    · exact absurd rfl none

theorem SignText.digits {sign : List Char} {neg : Bool} (h : SignText sign neg) {d : Char}
    (digit : d.isDigit = true) (cs : List Char) :
    Reading.sign (sign ++ d :: cs) = (neg, d :: cs) := by
  cases h with
  | none => exact Reading.sign_of_isDigit cs digit
  | plus => rfl
  | minus => rfl

theorem SignText.length {sign : List Char} {neg : Bool} (h : SignText sign neg) {d : Char}
    (digit : d.isDigit = true) (cs : List Char) :
    (neg || (sign ++ d :: cs).head? == some '+').toNat = sign.length := by
  cases h with
  | none =>
    have plain : d ≠ '+' := by
      rintro rfl
      cases digit
    simp [plain]
  | plus => rfl
  | minus => rfl

theorem signText_of_sign {cs body : List Char} {neg : Bool} (h : Reading.sign cs = (neg, body)) :
    ∃ sign, SignText sign neg ∧ cs = sign ++ body := by
  unfold Reading.sign at h
  split at h
  · cases h
    exact ⟨_, .minus, rfl⟩
  · cases h
    exact ⟨_, .plus, rfl⟩
  · cases h
    exact ⟨_, .none, rfl⟩

theorem exponent_letter {e : Char} (letter : e = 'e' ∨ e = 'E') (rest : List Char) :
    exponent (e :: rest) =
      let (neg, body) := Reading.sign rest
      let ds := body.takeWhile Char.isDigit
      if ds.isEmpty then none
      else some (if neg then -(naturalOf ds : Int) else naturalOf ds,
        1 + (neg || rest.head? == some '+').toNat + ds.length) := by
  rcases letter with rfl | rfl <;> rfl

theorem exponent_append {e rest : List Char} {power : Int} (h : ExponentText e power)
    (found : e ≠ []) (ends : Ends rest) : exponent (e ++ rest) = some (power, e.length) := by
  cases h with
  | none => exact absurd rfl found
  | @some e sign ds neg letter signed run =>
    obtain ⟨d, more, rfl, digit⟩ := run.first
    have taken : (d :: (more ++ rest)).takeWhile Char.isDigit = d :: more := run.takeWhile ends
    rw [List.cons_append, List.append_assoc, List.cons_append, exponent_letter letter,
      signed.digits digit]
    simp only [taken, signed.length digit, List.isEmpty_cons, Bool.false_eq_true, if_false,
      List.length_cons, List.length_append, Option.some.injEq, Prod.mk.injEq, true_and]
    omega

theorem exponentText_of_exponent {cs : List Char} {power : Int} {width : Nat}
    (h : exponent cs = some (power, width)) :
    ∃ e rest, ExponentText e power ∧ e ≠ [] ∧ cs = e ++ rest ∧ e.length = width ∧ Ends rest := by
  obtain ⟨e, rest, letter, rfl⟩ : ∃ e rest, (e = 'e' ∨ e = 'E') ∧ cs = e :: rest := by
    unfold exponent at h
    split at h
    · exact ⟨_, _, Or.inl rfl, rfl⟩
    · exact ⟨_, _, Or.inr rfl, rfl⟩
    · cases h
  have whole := h
  rw [exponent_letter letter] at h
  cases signed : Reading.sign rest with
  | mk neg body =>
    obtain ⟨sign, text, rfl⟩ := signText_of_sign signed
    rw [signed] at h
    simp only at h
    split at h
    · cases h
    · next found =>
      obtain ⟨behind, run, split, ends⟩ := run_of_takeWhile (by simpa using found)
      have read := exponent_append (.some letter text run) (by simp) ends
      have same : e :: (sign ++ body) =
          e :: (sign ++ body.takeWhile Char.isDigit) ++ behind := by
        rw [List.cons_append, List.append_assoc, ← split]
      rw [← same, whole] at read
      cases read
      exact ⟨_, behind, .some letter text run, by simp, same, rfl, ends⟩

theorem not_continues_iff {rest : List Char} :
    ¬ Continues rest ↔ Ends rest ∧ fraction rest = [] ∧ exponent rest = none := by
  constructor
  · intro stops
    refine ⟨Ends.of_not_continues stops, ?_, ?_⟩
    · obtain ⟨f, text, passes⟩ := passes_fraction ⟨rest, 0⟩
      have split : rest = f ++ _ := passes.rest
      have none : f = [] := by
        by_contra found
        exact stops (split ▸ .fraction text found)
      generalize fraction rest = part at text
      cases text with
      | none => rfl
      | some => cases none
    · rw [Option.eq_none_iff_forall_not_mem]
      rintro ⟨power, width⟩ read
      obtain ⟨e, behind, text, found, rfl, -⟩ := exponentText_of_exponent read
      exact stops (.exponent text found)
  · rintro ⟨ends, noFraction, noExponent⟩ continues
    cases continues with
    | digit digit => exact Bool.false_ne_true ((ends _ rfl).symm.trans digit)
    | fraction text found =>
      cases text with
      | none => exact found rfl
      | some run =>
        obtain ⟨d, ds, rfl, digit⟩ := run.first
        rw [List.cons_append, List.cons_append, fraction_digits digit] at noFraction
        cases noFraction
    | exponent text found =>
      cases text with
      | none => exact found rfl
      | some letter signed run =>
        obtain ⟨d, ds, rfl, digit⟩ := run.first
        rw [List.cons_append, List.append_assoc, List.cons_append, exponent_letter letter,
          signed.digits digit] at noExponent
        simp [List.takeWhile_cons_of_pos digit] at noExponent

theorem fraction_exponent {e rest : List Char} {power : Int} (h : ExponentText e power)
    (none : fraction rest = []) : fraction (e ++ rest) = [] := by
  cases h with
  | none => exact none
  | some letter => rcases letter with rfl | rfl <;> rfl

theorem ends_exponentText {e rest : List Char} {power : Int} (h : ExponentText e power)
    (ends : Ends rest) : Ends (e ++ rest) := by
  cases h with
  | none => exact ends
  | some letter =>
    rintro _ ⟨⟩
    rcases letter with rfl | rfl <;> rfl

theorem ends_fractionText {f part rest : List Char} (h : FractionText f part) (ends : Ends rest) :
    Ends (f ++ rest) := by
  cases h with
  | none => exact ends
  | some =>
    rintro _ ⟨⟩
    rfl

/-- Digits alone. -/
theorem afterWhole_digits {rest : List Char} (stops : ¬ Continues rest) (neg : Bool)
    (ds : List Char) (offset : Nat) :
    afterWhole neg ds ⟨rest, offset⟩ =
      if maxDigits < ds.length then .error (.tooManyDigits ds.length)
      else .ok (.int (if neg then -(naturalOf ds : Int) else naturalOf ds), ⟨rest, offset⟩) := by
  obtain ⟨-, noFraction, noExponent⟩ := not_continues_iff.mp stops
  simp only [afterWhole, noFraction, noExponent, List.isEmpty_nil, if_true]

/-- Digits and a fraction, an exponent or both. -/
theorem afterWhole_double {f part e rest : List Char} {power : Int}
    (fractional : FractionText f part) (exponential : ExponentText e power) (found : f ++ e ≠ [])
    (stops : ¬ Continues rest) (neg : Bool) (ds : List Char) (offset : Nat) :
    afterWhole neg ds ⟨f ++ (e ++ rest), offset⟩ =
      .ok (.dbl (Double.ofDecimal neg (naturalOf (ds ++ part)) (power - part.length)),
        ⟨rest, offset + (f ++ e).length⟩) := by
  obtain ⟨ends, noFraction, noExponent⟩ := not_continues_iff.mp stops
  have taken := fraction_append fractional (ends_exponentText exponential ends)
    (fraction_exponent exponential noFraction)
  have behind : (if part.isEmpty then Cursor.mk (f ++ (e ++ rest)) offset
      else (Cursor.mk (f ++ (e ++ rest)) offset).skip (1 + part.length)) =
      ⟨e ++ rest, offset + f.length⟩ := by
    cases fractional with
    | none => rfl
    | some run =>
      rw [if_neg (by simpa using run.some), Nat.add_comm]
      exact Cursor.skip_append _ _ _
  simp only [afterWhole, taken, behind]
  by_cases none : e = []
  · subst none
    cases exponential
    cases fractional with
    | none => exact absurd rfl found
    | some run =>
      have some : part.isEmpty = false := by simpa using run.some
      rw [List.nil_append, noExponent, some, List.append_nil]
      rfl
  · rw [exponent_append exponential none ends]
    rw [List.length_append, ← Nat.add_assoc, ← Cursor.skip_append e rest]
    cases part.isEmpty <;> rfl

/-- What may be read behind a whole part, and what is left then. -/
theorem afterWhole_cases (neg : Bool) {ds : List Char} {c : Cursor}
    (ends : Ends c.rest ∨ ds = ['0']) :
    (∃ f part e power after, FractionText f part ∧ ExponentText e power ∧ f ++ e ≠ [] ∧
      c.Passes (f ++ e) after ∧ afterWhole neg ds c =
        .ok (.dbl (Double.ofDecimal neg (naturalOf (ds ++ part)) (power - part.length)), after)) ∨
    (afterWhole neg ds c =
      if maxDigits < ds.length then .error (.tooManyDigits ds.length)
      else .ok (.int (if neg then -(naturalOf ds : Int) else naturalOf ds), c)) ∧
      (maxDigits < ds.length → ¬ Continues c.rest) := by
  obtain ⟨f, fractional, passes⟩ := passes_fraction c
  generalize taken : fraction c.rest = part at *
  generalize reached : (if part.isEmpty then c else c.skip (1 + part.length)) = behind at *
  cases read : exponent behind.rest with
  | none =>
    cases fractional with
    | none =>
      have here : c = behind := reached
      subst here
      refine Or.inr ⟨by simp only [afterWhole, taken, List.isEmpty_nil, if_true, read], ?_⟩
      intro long
      have digits : Ends c.rest := by
        rcases ends with ends | rfl
        · exact ends
        · exact absurd long (by decide)
      exact not_continues_iff.mpr ⟨digits, taken, read⟩
    | some run =>
      have some : part.isEmpty = false := by simpa using run.some
      rw [some] at reached
      refine Or.inl ⟨'.' :: part, part, [], 0, behind, .some run, .none, by simp, ?_, ?_⟩
      · rwa [List.append_nil]
      · simp only [afterWhole, taken, reached, read, some]
        rfl
  | some found =>
    obtain ⟨power, width⟩ := found
    obtain ⟨e, rest, exponential, some, split, rfl, -⟩ := exponentText_of_exponent read
    refine Or.inl ⟨f, part, e, power, behind.skip e.length, fractional, exponential, by simp [some],
      passes.trans (.of_skip split), ?_⟩
    simp only [afterWhole, taken, reached, read]
    cases part.isEmpty <;> rfl

theorem readNumber_unsigned {c body : Cursor} (h : c.Passes (minus (c.head? == some '-')) body) :
    readNumber c = if (whole body.rest).isEmpty then c.fail .expectingValue
      else afterWhole (c.head? == some '-') (whole body.rest)
        (body.skip (whole body.rest).length) := by
  have same : body = if c.head? == some '-' then c.skip 1 else c := by
    generalize (c.head? == some '-') = neg at h
    cases neg with
    | true => exact h.unique (.of_skip h.rest)
    | false => exact h.unique (.refl c)
  rw [same]
  rfl

theorem readNumber_signed (neg : Bool) {ds rest : List Char} (h : WholeText ds)
    (taken : whole (ds ++ rest) = ds) (offset : Nat) :
    readNumber ⟨minus neg ++ (ds ++ rest), offset⟩ =
      afterWhole neg ds ⟨rest, offset + (minus neg ++ ds).length⟩ := by
  have found : ds.isEmpty = false := by simpa using h.run.some
  have sign : ((Cursor.mk (minus neg ++ (ds ++ rest)) offset).head? == some '-') = neg := by
    cases neg with
    | true => rfl
    | false =>
      obtain ⟨d, ds, rfl, digit⟩ := h.run.first
      rw [beq_eq_false_iff_ne]
      rintro ⟨⟩
      cases digit
  have behind : (Cursor.mk (minus neg ++ (ds ++ rest)) offset).Passes
      (minus ((Cursor.mk (minus neg ++ (ds ++ rest)) offset).head? == some '-'))
      ⟨ds ++ rest, offset + (minus neg).length⟩ := by
    rw [sign]
    exact ⟨rfl, rfl⟩
  rw [readNumber_unsigned behind, sign]
  simp only [taken, found, Bool.false_eq_true, if_false]
  rw [Cursor.skip_append, Nat.add_assoc, List.length_append]

/-- A number is read where nothing behind it goes on as one. -/
theorem readNumber_of_numberText {t rest : List Char} {v : Value} (h : NumberText t v)
    (stops : ¬ Continues rest) (offset : Nat) :
    readNumber ⟨t ++ rest, offset⟩ = .ok (v, ⟨rest, offset + t.length⟩) := by
  have ends := Ends.of_not_continues stops
  cases h with
  | whole neg text few =>
    rw [List.append_assoc, readNumber_signed neg text (whole_append text ends),
      afterWhole_digits stops, if_neg (by omega)]
  | double neg text fractional exponential found =>
    have after := ends_fractionText fractional (ends_exponentText exponential ends)
    simp only [List.append_assoc]
    rw [readNumber_signed neg text (whole_append text after),
      afterWhole_double fractional exponential found stops]
    simp only [List.length_append, Nat.add_assoc]

/-- A whole number at the front has so many digits that it is not computed. -/
def Long (cs : List Char) (n : Nat) : Prop :=
  ∃ neg ds rest, cs = minus neg ++ (ds ++ rest) ∧ WholeText ds ∧ ds.length = n ∧ maxDigits < n ∧
    ¬ Continues rest

theorem readNumber_split (c : Cursor) : readNumber c = c.fail .expectingValue ∨
    ∃ neg ds after, WholeText ds ∧ c.Passes (minus neg ++ ds) after ∧
      (Ends after.rest ∨ ds = ['0']) ∧ readNumber c = afterWhole neg ds after := by
  obtain ⟨body, signed⟩ : ∃ body, c.Passes (minus (c.head? == some '-')) body := by
    by_cases first : c.head? = some '-'
    · rw [first]
      exact ⟨_, .of_head first⟩
    · have none : (c.head? == some '-') = false := by simpa using first
      rw [none]
      exact ⟨c, .refl c⟩
  rw [readNumber_unsigned signed]
  by_cases none : whole body.rest = []
  · rw [none]
    exact Or.inl rfl
  · obtain ⟨rest, text, split, ends⟩ := whole_cases none
    have passes := Cursor.Passes.of_skip split
    have same : rest = _ := List.append_cancel_left (split.symm.trans passes.rest)
    rw [if_neg (by simpa using none)]
    exact Or.inr ⟨_, _, _, text, signed.trans passes, same ▸ ends.symm, rfl⟩

theorem readNumber_cases (c : Cursor) :
    (∃ t v after, NumberText t v ∧ c.Passes t after ∧ readNumber c = .ok (v, after)) ∨
    (∃ n, Long c.rest n ∧ readNumber c = .error (.tooManyDigits n)) ∨
    readNumber c = c.fail .expectingValue := by
  rcases readNumber_split c with none | ⟨neg, ds, behind, text, passes, ends, same⟩
  · exact Or.inr (Or.inr none)
  rcases afterWhole_cases neg ends with
    ⟨f, part, e, power, after, fractional, exponential, found, more, read⟩ | ⟨read, stops⟩
  · refine Or.inl ⟨_, _, after, .double neg text fractional exponential found, ?_, same.trans read⟩
    rw [← List.append_assoc]
    exact passes.trans more
  · by_cases long : maxDigits < ds.length
    · rw [if_pos long] at read
      refine Or.inr (Or.inl ⟨ds.length, ⟨neg, ds, behind.rest, ?_, text, rfl, long, stops long⟩,
        same.trans read⟩)
      rw [← List.append_assoc]
      exact passes.rest
    · rw [if_neg long] at read
      exact Or.inl ⟨_, _, behind, .whole neg text (by omega), passes, same.trans read⟩

end MetricDesk.Json
