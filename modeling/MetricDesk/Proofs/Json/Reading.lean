import MetricDesk.Proofs.Json.Token

/-! Reading values against the grammar. Main statements: `reads_of_spells`, what the grammar has is
read; `sound`, whatever is read the grammar has; and `readDeep_eq_ok_iff`, so a text is read as a
value exactly where it is a document that spells it. -/
namespace MetricDesk.Json

/-! ### One step -/

theorem readValue_quote (fuel : Nat) (cs : List Char) (offset : Nat) :
    readValue (fuel + 1) ⟨'"' :: cs, offset⟩ =
      (readString fuel ⟨'"' :: cs, offset⟩ >>= fun p => pure (.str p.1, p.2)) := rfl

theorem readValue_bracket (fuel : Nat) (cs : List Char) (offset : Nat) :
    readValue (fuel + 1) ⟨'[' :: cs, offset⟩ =
      let inside := (Cursor.mk cs (offset + 1)).spaces
      if inside.head? = some ']' then .ok (.list [], inside.skip 1)
      else readItems fuel inside [] >>= fun p => pure (.list p.1, p.2) := by
  rw [readValue.eq_def]
  rfl

theorem readValue_brace (fuel : Nat) (cs : List Char) (offset : Nat) :
    readValue (fuel + 1) ⟨'\x7b' :: cs, offset⟩ =
      let inside := (Cursor.mk cs (offset + 1)).spaces
      if inside.head? = some '\x7d' then .ok (.obj [], inside.skip 1)
      else readFields fuel inside [] >>= fun p => pure (.obj p.1, p.2) := by
  rw [readValue.eq_def]
  rfl

/-- Neither a string nor a container begins at the front. -/
def Bare (cs : List Char) : Prop := ∀ c ∈ cs.head?, c ∉ ['"', '[', '\x7b']

theorem front_cases (cs : List Char) : (∃ rest, cs = '"' :: rest) ∨ (∃ rest, cs = '[' :: rest) ∨
    (∃ rest, cs = '\x7b' :: rest) ∨ Bare cs := by
  by_cases bare : Bare cs
  · exact Or.inr (Or.inr (Or.inr bare))
  · simp only [Bare, not_forall, not_not] at bare
    obtain ⟨c, first, mem⟩ := bare
    obtain ⟨rest, rfl⟩ := List.head?_eq_some_iff.mp first
    simp only [List.mem_cons, List.not_mem_nil, or_false] at mem
    rcases mem with rfl | rfl | rfl
    · exact Or.inl ⟨rest, rfl⟩
    · exact Or.inr (Or.inl ⟨rest, rfl⟩)
    · exact Or.inr (Or.inr (Or.inl ⟨rest, rfl⟩))

theorem readValue_bare {c : Cursor} (bare : Bare c.rest) (fuel : Nat) :
    readValue (fuel + 1) c =
      match readWord? c with
      | some found => .ok found
      | none => readNumber c := by
  rw [readValue.eq_def]
  simp only
  split
  · next first => exact absurd (by decide) (bare _ first)
  · next first => exact absurd (by decide) (bare _ first)
  · next first => exact absurd (by decide) (bare _ first)
  · rfl

theorem readItems_succ (fuel : Nat) (c : Cursor) (read : List Value) :
    readItems (fuel + 1) c read = (readValue fuel c >>= fun p =>
      let next := p.2.spaces
      match next.head? with
      | some ']' => .ok ((p.1 :: read).reverse, next.skip 1)
      | some ',' => readItems fuel (next.skip 1).spaces (p.1 :: read)
      | _ => next.fail .expectingComma) := rfl

theorem readFields_succ (fuel : Nat) (c : Cursor) (read : List (String × Value)) :
    readFields (fuel + 1) c read =
      if c.head? ≠ some '"' then c.fail .expectingName
      else readString fuel c >>= fun p =>
        let colon := p.2.spaces
        if colon.head? ≠ some ':' then colon.fail .expectingColon
        else readValue fuel (colon.skip 1).spaces >>= fun q =>
          let next := q.2.spaces
          match next.head? with
          | some '\x7d' => .ok (Fields.ofEntries ((p.1, q.1) :: read).reverse, next.skip 1)
          | some ',' => readFields fuel (next.skip 1).spaces ((p.1, q.1) :: read)
          | _ => next.fail .expectingComma := by
  rw [readFields.eq_def]
  rfl

/-! ### Around a value -/

theorem Continues.first {cs : List Char} (h : Continues cs) :
    ∃ c rest, cs = c :: rest ∧ (c.isDigit = true ∨ c = '.' ∨ c = 'e' ∨ c = 'E') := by
  cases h with
  | digit digit => exact ⟨_, _, rfl, Or.inl digit⟩
  | fraction text found =>
    cases text with
    | none => exact absurd rfl found
    | some => exact ⟨_, _, rfl, Or.inr (Or.inl rfl)⟩
  | exponent text found =>
    cases text with
    | none => exact absurd rfl found
    | some letter => exact ⟨_, _, rfl, Or.inr (Or.inr letter)⟩

/-- Spaces and what divides values put an end to a number. -/
theorem not_continues_of_first {cs : List Char}
    (h : ∀ c ∈ cs.head?, Cursor.isSpace c = true ∨ c = ',' ∨ c = ']' ∨ c = '\x7d') :
    ¬ Continues cs := by
  intro continues
  obtain ⟨c, rest, rfl, first⟩ := continues.first
  have apart := h c rfl
  simp only [Cursor.isSpace, Bool.or_eq_true, decide_eq_true_eq] at apart
  rcases apart with (((rfl | rfl) | rfl) | rfl) | rfl | rfl | rfl <;> revert first <;> decide

theorem not_continues_mark {sp : List Char} (spaces : Spaces sp) {c : Char}
    (mark : c = ',' ∨ c = ']' ∨ c = '\x7d') (rest : List Char) : ¬ Continues (sp ++ c :: rest) := by
  apply not_continues_of_first
  cases sp with
  | nil =>
    rintro _ ⟨⟩
    exact Or.inr mark
  | cons d sp =>
    rintro _ ⟨⟩
    exact Or.inl (spaces d List.mem_cons_self)

theorem not_continues_spaces {sp : List Char} (spaces : Spaces sp) : ¬ Continues sp :=
  not_continues_of_first fun _ first => Or.inl (spaces _ (List.mem_of_mem_head? first))

/-- What stands at the front is neither a space, nor the end of a container, nor a mark. -/
structure Begins (cs : List Char) : Prop where
  spaceless : Spaceless cs
  list : cs.head? ≠ some ']'
  object : cs.head? ≠ some '\x7d'
  unmarked : cs.head? ≠ some '\ufeff'

theorem begins_of_mem_firsts {c : Char} (first : c ∈ firsts) (cs : List Char) :
    Begins (c :: cs) := by
  have none : ∀ c ∈ firsts, Cursor.isSpace c = false ∧ c ≠ ']' ∧ c ≠ '\x7d' ∧ c ≠ '\ufeff' :=
    List.all_iff_forall_prop.mp (by decide)
  obtain ⟨spaceless, list, object, unmarked⟩ := none c first
  refine ⟨?_, mt Option.some.inj list, mt Option.some.inj object, mt Option.some.inj unmarked⟩
  rintro _ ⟨⟩
  exact spaceless

theorem Spells.begins {room : Nat} {t : List Char} {p : Part} (h : Spells room t p)
    (rest : List Char) : Begins (t ++ rest) := by
  obtain ⟨c, cs, rfl, first⟩ := h.first
  exact begins_of_mem_firsts first (cs ++ rest)

theorem Spaces.unmarked {sp cs : List Char} (spaces : Spaces sp) (begins : Begins cs) :
    (sp ++ cs).head? ≠ some '\ufeff' := by
  cases sp with
  | nil => exact begins.unmarked
  | cons c sp =>
    rintro ⟨⟩
    cases spaces '\ufeff' List.mem_cons_self

/-- No word begins as a number, a string or a container does. -/
theorem word_apart : ∀ w ∈ words, ∃ c cs, w.1.toList = c :: cs ∧ c ∉ ['"', '[', '\x7b'] ∧
    c.isDigit = false ∧ (c = '-' → cs.head? = some 'I') := by
  simp only [words, List.forall_mem_cons]
  exact ⟨⟨'n', _, rfl, by decide, rfl, by decide⟩, ⟨'t', _, rfl, by decide, rfl, by decide⟩,
    ⟨'f', _, rfl, by decide, rfl, by decide⟩, ⟨'N', _, rfl, by decide, rfl, by decide⟩,
    ⟨'I', _, rfl, by decide, rfl, by decide⟩, ⟨'-', _, rfl, by decide, rfl, by decide⟩,
    List.forall_mem_nil _⟩

theorem readWord?_signed (neg : Bool) {ds : List Char} (h : WholeText ds) (rest : List Char)
    (offset : Nat) : readWord? ⟨minus neg ++ (ds ++ rest), offset⟩ = none := by
  obtain ⟨d, ds, rfl, digit⟩ := h.run.first
  unfold readWord?
  rw [List.findSome?_eq_none_iff]
  intro w mem
  refine if_neg fun starts => ?_
  obtain ⟨behind, same⟩ := List.isPrefixOf_iff_prefix.mp starts
  obtain ⟨c, cs, word, -, apart, sign⟩ := word_apart w mem
  rw [word] at same
  cases neg with
  | true =>
    obtain ⟨minus, same⟩ := List.cons.inj same
    obtain ⟨cs, rfl⟩ := List.head?_eq_some_iff.mp (sign minus)
    obtain ⟨rfl, -⟩ := List.cons.inj same
    cases digit
  | false =>
    obtain ⟨rfl, -⟩ := List.cons.inj same
    exact Bool.false_ne_true (apart.symm.trans digit)

theorem readValue_word {w : String} {v : Value} (mem : (w, v) ∈ words) (fuel : Nat)
    (rest : List Char) (offset : Nat) :
    readValue (fuel + 1) ⟨w.toList ++ rest, offset⟩ =
      .ok (v, ⟨rest, offset + w.toList.length⟩) := by
  have bare : Bare (w.toList ++ rest) := by
    obtain ⟨c, cs, word, bare, -⟩ := word_apart _ mem
    rw [word]
    rintro _ ⟨⟩
    exact bare
  rw [readValue_bare bare, readWord?_of_mem mem]

/-- Where a sign and digits stand, a number is read. -/
theorem readValue_signed (neg : Bool) {ds : List Char} (h : WholeText ds) (fuel : Nat)
    (rest : List Char) (offset : Nat) :
    readValue (fuel + 1) ⟨minus neg ++ (ds ++ rest), offset⟩ =
      readNumber ⟨minus neg ++ (ds ++ rest), offset⟩ := by
  have bare : Bare (minus neg ++ (ds ++ rest)) := by
    obtain ⟨d, ds, rfl, digit⟩ := h.run.first
    cases neg with
    | true =>
      rintro _ ⟨⟩
      decide
    | false =>
      have apart : ∀ c ∈ ['"', '[', '\x7b'], c.isDigit = false :=
        List.all_iff_forall_prop.mp (by decide)
      rintro _ ⟨⟩ mem
      exact Bool.false_ne_true ((apart d mem).symm.trans digit)
  rw [readValue_bare bare, readWord?_signed neg h]

theorem readValue_number {t rest : List Char} {v : Value} (h : NumberText t v)
    (stops : ¬ Continues rest) (fuel offset : Nat) :
    readValue (fuel + 1) ⟨t ++ rest, offset⟩ = .ok (v, ⟨rest, offset + t.length⟩) := by
  rw [← readNumber_of_numberText h stops]
  cases h with
  | whole neg text =>
    rw [List.append_assoc]
    exact readValue_signed neg text fuel _ offset
  | double neg text =>
    simp only [List.append_assoc]
    exact readValue_signed neg text fuel _ offset

/-! ### Containers -/

theorem spaceless_cons {c : Char} (cs : List Char) (h : Cursor.isSpace c = false) :
    Spaceless (c :: cs) := by
  rintro _ ⟨⟩
  exact h

/-- Behind a mark, and the spaces on both sides of it. -/
theorem spaces_mark {sp sp' rest : List Char} (spaces : Spaces sp') (none : Spaceless rest)
    (mark : Char) (offset : Nat) :
    ((Cursor.mk (mark :: (sp' ++ rest)) (offset + sp.length)).skip 1).spaces =
      ⟨rest, offset + (sp ++ mark :: sp').length⟩ := by
  have length : offset + (sp ++ mark :: sp').length = offset + sp.length + 1 + sp'.length := by
    rw [List.length_append, List.length_cons]
    omega
  rw [length, ← spaces_append spaces none]
  rfl

theorem readValue_noItems {sp : List Char} (spaces : Spaces sp) (fuel : Nat) (rest : List Char)
    (offset : Nat) :
    readValue (fuel + 1) ⟨'[' :: (sp ++ ']' :: rest), offset⟩ =
      .ok (.list [], ⟨rest, offset + (sp.length + 2)⟩) := by
  have place : offset + (sp.length + 2) = offset + 1 + sp.length + 1 := by omega
  rw [readValue_bracket, spaces_append spaces (spaceless_cons rest (c := ']') rfl), place]
  rfl

theorem readValue_items {sp cs : List Char} (spaces : Spaces sp) (begins : Begins cs)
    (fuel offset : Nat) :
    readValue (fuel + 1) ⟨'[' :: (sp ++ cs), offset⟩ =
      (readItems fuel ⟨cs, offset + (sp.length + 1)⟩ [] >>= fun p => .ok (.list p.1, p.2)) := by
  have place : offset + (sp.length + 1) = offset + 1 + sp.length := by omega
  rw [readValue_bracket, spaces_append spaces begins.spaceless, place]
  exact if_neg begins.list

theorem readValue_noFields {sp : List Char} (spaces : Spaces sp) (fuel : Nat) (rest : List Char)
    (offset : Nat) :
    readValue (fuel + 1) ⟨'\x7b' :: (sp ++ '\x7d' :: rest), offset⟩ =
      .ok (.obj [], ⟨rest, offset + (sp.length + 2)⟩) := by
  have place : offset + (sp.length + 2) = offset + 1 + sp.length + 1 := by omega
  rw [readValue_brace, spaces_append spaces (spaceless_cons rest (c := '\x7d') rfl), place]
  rfl

theorem readValue_fields {sp cs : List Char} (spaces : Spaces sp) (begins : Begins cs)
    (fuel offset : Nat) :
    readValue (fuel + 1) ⟨'\x7b' :: (sp ++ cs), offset⟩ =
      (readFields fuel ⟨cs, offset + (sp.length + 1)⟩ [] >>= fun p => .ok (.obj p.1, p.2)) := by
  have place : offset + (sp.length + 1) = offset + 1 + sp.length := by omega
  rw [readValue_brace, spaces_append spaces begins.spaceless, place]
  exact if_neg begins.object

theorem readItems_last {fuel offset : Nat} {c : Cursor} {v : Value} {sp rest : List Char}
    (h : readValue fuel c = .ok (v, ⟨sp ++ ']' :: rest, offset⟩)) (spaces : Spaces sp)
    (read : List Value) :
    readItems (fuel + 1) c read =
      .ok (read.reverse ++ [v], ⟨rest, offset + (sp.length + 1)⟩) := by
  rw [readItems_succ, h, ← List.reverse_cons]
  simp only [Except.bind, bind, spaces_append spaces (spaceless_cons rest (c := ']') rfl)]
  rfl

theorem readItems_next {fuel offset : Nat} {c : Cursor} {v : Value} {sp sp' rest : List Char}
    (h : readValue fuel c = .ok (v, ⟨sp ++ ',' :: (sp' ++ rest), offset⟩)) (spaces : Spaces sp)
    (spaces' : Spaces sp') (none : Spaceless rest) (read : List Value) :
    readItems (fuel + 1) c read =
      readItems fuel ⟨rest, offset + (sp ++ ',' :: sp').length⟩ (v :: read) := by
  rw [readItems_succ, h, ← spaces_mark spaces' none]
  simp only [Except.bind, bind,
    spaces_append spaces (spaceless_cons (sp' ++ rest) (c := ',') rfl)]
  rfl

theorem readFields_name {n rest : List Char} {key : String} (h : NameText n key)
    (none : Spaceless rest) {fuel : Nat} (enough : n.length ≤ fuel) (offset : Nat)
    (read : List (String × Value)) :
    readFields (fuel + 1) ⟨n ++ rest, offset⟩ read =
      (readValue fuel ⟨rest, offset + n.length⟩ >>= fun q =>
        let next := q.2.spaces
        match next.head? with
        | some '\x7d' => .ok (Fields.ofEntries ((key, q.1) :: read).reverse, next.skip 1)
        | some ',' => readFields fuel (next.skip 1).spaces ((key, q.1) :: read)
        | _ => next.fail .expectingComma) := by
  cases h with
  | @intro t s sp sp' text spaces spaces' =>
    simp only [List.length_cons, List.length_append] at enough
    have name := readString_of_stringText text (show t.length < fuel by omega) offset
      (sp ++ ':' :: (sp' ++ rest))
    have colon := spaces_append spaces (spaceless_cons (sp' ++ rest) (c := ':') rfl)
      (offset + (t.length + 2))
    have length : offset + ('"' :: (t ++ '"' :: (sp ++ ':' :: sp'))).length =
        offset + (t.length + 2) + (sp ++ ':' :: sp').length := by
      simp only [List.length_cons, List.length_append]
      omega
    rw [length, ← spaces_mark spaces' none, readFields_succ]
    simp only [List.cons_append, List.append_assoc]
    rw [if_neg (by simp [Cursor.head?]), name]
    simp only [Except.bind, bind, colon]
    rfl

theorem readFields_last {n behind sp rest : List Char} {key : String} {v : Value}
    {fuel offset offset' : Nat} (name : NameText n key) (none : Spaceless behind)
    (enough : n.length ≤ fuel)
    (h : readValue fuel ⟨behind, offset + n.length⟩ = .ok (v, ⟨sp ++ '\x7d' :: rest, offset'⟩))
    (spaces : Spaces sp) (read : List (String × Value)) :
    readFields (fuel + 1) ⟨n ++ behind, offset⟩ read =
      .ok (Fields.ofEntries (read.reverse ++ [(key, v)]), ⟨rest, offset' + (sp.length + 1)⟩) := by
  rw [readFields_name name none enough, h, ← List.reverse_cons]
  simp only [Except.bind, bind, spaces_append spaces (spaceless_cons rest (c := '\x7d') rfl)]
  rfl

theorem readFields_next {n behind sp sp' rest : List Char} {key : String} {v : Value}
    {fuel offset offset' : Nat} (name : NameText n key) (none : Spaceless behind)
    (enough : n.length ≤ fuel)
    (h : readValue fuel ⟨behind, offset + n.length⟩ =
      .ok (v, ⟨sp ++ ',' :: (sp' ++ rest), offset'⟩))
    (spaces : Spaces sp) (spaces' : Spaces sp') (none' : Spaceless rest)
    (read : List (String × Value)) :
    readFields (fuel + 1) ⟨n ++ behind, offset⟩ read =
      readFields fuel ⟨rest, offset' + (sp ++ ',' :: sp').length⟩ ((key, v) :: read) := by
  rw [readFields_name name none enough, h, ← spaces_mark spaces' none']
  simp only [Except.bind, bind,
    spaces_append spaces (spaceless_cons (sp' ++ rest) (c := ',') rfl)]
  rfl

/-! ### What is spelled is read -/

/-- A text is read as what it spells, whatever follows it. -/
def Reads (t : List Char) : Part → Prop
  | .value v => ∀ fuel rest offset, 2 * t.length ≤ fuel → ¬ Continues rest →
      readValue fuel ⟨t ++ rest, offset⟩ = .ok (v, ⟨rest, offset + t.length⟩)
  | .items vs => ∀ fuel rest offset read, 2 * t.length < fuel →
      readItems fuel ⟨t ++ ']' :: rest, offset⟩ read =
        .ok (read.reverse ++ vs, ⟨rest, offset + (t.length + 1)⟩)
  | .fields fs => ∀ fuel rest offset read, 2 * t.length < fuel →
      readFields fuel ⟨t ++ '\x7d' :: rest, offset⟩ read =
        .ok (Fields.ofEntries (read.reverse ++ fs), ⟨rest, offset + (t.length + 1)⟩)

theorem reads_of_spells {room : Nat} {t : List Char} {p : Part} (h : Spells room t p) :
    Reads t p := by
  -- A value with its place in a container takes two steps, and one character at least.
  induction h with
  | @string _ t s text =>
    intro fuel rest offset enough _
    simp only [List.cons_append, List.append_assoc, List.nil_append, List.length_cons,
      List.length_append, List.length_nil] at enough ⊢
    obtain ⟨fuel, rfl⟩ := Nat.exists_eq_add_one.mpr (show 0 < fuel by omega)
    have read := readString_of_stringText text (show t.length < fuel by omega) offset rest
    rw [readValue_quote, read]
    rfl
  | @word _ w v mem =>
    intro fuel rest offset enough _
    obtain ⟨c, cs, some, -⟩ := word_first _ mem
    have length := congrArg List.length some
    simp only [List.length_cons] at length
    obtain ⟨fuel, rfl⟩ := Nat.exists_eq_add_one.mpr (show 0 < fuel by omega)
    exact readValue_word mem fuel rest offset
  | @number _ t v text =>
    intro fuel rest offset enough stops
    obtain ⟨c, cs, rfl, -⟩ := text.first
    obtain ⟨fuel, rfl⟩ := Nat.exists_eq_add_one.mpr (Nat.zero_lt_of_lt enough)
    exact readValue_number text stops fuel offset
  | @noItems _ sp spaces =>
    intro fuel rest offset enough _
    simp only [List.cons_append, List.append_assoc, List.nil_append, List.length_cons,
      List.length_append, List.length_nil] at enough ⊢
    obtain ⟨fuel, rfl⟩ := Nat.exists_eq_add_one.mpr (show 0 < fuel by omega)
    exact readValue_noItems spaces fuel rest offset
  | @list _ sp t vs spaces items ih =>
    intro fuel rest offset enough _
    simp only [List.cons_append, List.append_assoc, List.nil_append, List.length_cons,
      List.length_append, List.length_nil] at enough ⊢
    obtain ⟨fuel, rfl⟩ := Nat.exists_eq_add_one.mpr (show 0 < fuel by omega)
    rw [readValue_items spaces (items.begins _), ih fuel rest _ _ (by omega)]
    simp only [Except.bind, bind, List.reverse_nil, List.nil_append]
    congr 3
    omega
  | @noFields _ sp spaces =>
    intro fuel rest offset enough _
    simp only [List.cons_append, List.append_assoc, List.nil_append, List.length_cons,
      List.length_append, List.length_nil] at enough ⊢
    obtain ⟨fuel, rfl⟩ := Nat.exists_eq_add_one.mpr (show 0 < fuel by omega)
    exact readValue_noFields spaces fuel rest offset
  | @object _ sp t fs spaces fields ih =>
    intro fuel rest offset enough _
    simp only [List.cons_append, List.append_assoc, List.nil_append, List.length_cons,
      List.length_append, List.length_nil] at enough ⊢
    obtain ⟨fuel, rfl⟩ := Nat.exists_eq_add_one.mpr (show 0 < fuel by omega)
    rw [readValue_fields spaces (fields.begins _), ih fuel rest _ _ (by omega)]
    simp only [Except.bind, bind, List.reverse_nil, List.nil_append]
    congr 3
    omega
  | @lastItem _ t sp v value spaces ih =>
    intro fuel rest offset read enough
    simp only [List.append_assoc, List.length_append] at enough ⊢
    obtain ⟨fuel, rfl⟩ := Nat.exists_eq_add_one.mpr (Nat.zero_lt_of_lt enough)
    have here := ih fuel (sp ++ ']' :: rest) offset (by omega)
      (not_continues_mark spaces (by simp) rest)
    rw [readItems_last here spaces]
    congr 3
    omega
  | @item _ t sp sp' u v vs value spaces spaces' items ihv ihs =>
    intro fuel rest offset read enough
    simp only [List.append_assoc, List.cons_append, List.length_append, List.length_cons]
      at enough ⊢
    obtain ⟨fuel, rfl⟩ := Nat.exists_eq_add_one.mpr (Nat.zero_lt_of_lt enough)
    have here := ihv fuel (sp ++ ',' :: (sp' ++ (u ++ ']' :: rest))) offset (by omega)
      (not_continues_mark spaces (by simp) _)
    rw [readItems_next here spaces spaces' (items.begins _).spaceless, ihs fuel rest _ _ (by omega),
      List.reverse_cons, List.append_assoc, List.length_append, List.length_cons]
    congr 3
    omega
  | @lastField _ n t sp key v name value spaces ih =>
    intro fuel rest offset read enough
    simp only [List.append_assoc, List.length_append] at enough ⊢
    obtain ⟨fuel, rfl⟩ := Nat.exists_eq_add_one.mpr (Nat.zero_lt_of_lt enough)
    have here := ih fuel (sp ++ '\x7d' :: rest) (offset + n.length) (by omega)
      (not_continues_mark spaces (by simp) rest)
    rw [readFields_last name (value.begins _).spaceless (by omega) here spaces]
    congr 3
    omega
  | @field _ n t sp sp' u key v fs name value spaces spaces' fields ihv ihs =>
    intro fuel rest offset read enough
    simp only [List.append_assoc, List.cons_append, List.length_append, List.length_cons]
      at enough ⊢
    obtain ⟨fuel, rfl⟩ := Nat.exists_eq_add_one.mpr (Nat.zero_lt_of_lt enough)
    have here := ihv fuel (sp ++ ',' :: (sp' ++ (u ++ '\x7d' :: rest))) (offset + n.length)
      (by omega) (not_continues_mark spaces (by simp) _)
    rw [readFields_next name (value.begins _).spaceless (by omega) here spaces spaces'
      (fields.begins _).spaceless, ihs fuel rest _ _ (by omega), List.reverse_cons,
      List.append_assoc, List.length_append, List.length_cons]
    congr 3
    omega

/-! ### What is read is spelled -/

theorem nameText_of_readString {fuel : Nat} {c after : Cursor} {key : String}
    (h : readString fuel c = .ok (key, after)) (quote : c.head? = some '"')
    (colon : after.spaces.head? = some ':') :
    ∃ n, NameText n key ∧ c.Passes n (after.spaces.skip 1).spaces := by
  obtain ⟨t, s, text, rfl, passes⟩ := stringText_of_readString h quote
  obtain ⟨sp, spaces, before⟩ := passes_spaces after
  obtain ⟨sp', spaces', behind⟩ := passes_spaces (after.spaces.skip 1)
  refine ⟨_, .intro text spaces spaces', ?_⟩
  have all := (passes.trans before).trans ((Cursor.Passes.of_head colon).trans behind)
  simpa only [List.cons_append, List.append_assoc, List.nil_append] using all

theorem spells_of_readValue_bare {fuel : Nat} {c after : Cursor} {v : Value} (bare : Bare c.rest)
    (h : readValue (fuel + 1) c = .ok (v, after)) :
    ∃ t, Spells 0 t (.value v) ∧ c.Passes t after := by
  rw [readValue_bare bare] at h
  split at h
  · next found read =>
    cases h
    obtain ⟨w, mem, passes⟩ := word_of_readWord? read
    exact ⟨_, .word mem, passes⟩
  · rcases readNumber_cases c with ⟨t, v, after, text, passes, read⟩ | ⟨n, -, read⟩ | read
    · rw [read] at h
      cases h
      exact ⟨t, .number text, passes⟩
    · rw [read] at h
      cases h
    · rw [read] at h
      cases h

/-- Whatever is read with so much fuel is spelled by what has been passed. -/
structure Sound (fuel : Nat) : Prop where
  value {c after : Cursor} {v : Value} : readValue fuel c = .ok (v, after) →
    ∃ room t, Spells room t (.value v) ∧ c.Passes t after
  items {c after : Cursor} {read vs : List Value} : readItems fuel c read = .ok (vs, after) →
    ∃ room t us, Spells room t (.items us) ∧ c.Passes (t ++ [']']) after ∧ vs = read.reverse ++ us
  fields {c after : Cursor} {read fs : List (String × Value)} :
    readFields fuel c read = .ok (fs, after) →
    ∃ room t us, Spells room t (.fields us) ∧ c.Passes (t ++ ['\x7d']) after ∧
      fs = Fields.ofEntries (read.reverse ++ us)

namespace Sound

variable {fuel : Nat} {c after : Cursor}

theorem value_succ (sound : Sound fuel) {v : Value} (h : readValue (fuel + 1) c = .ok (v, after)) :
    ∃ room t, Spells room t (.value v) ∧ c.Passes t after := by
  obtain ⟨text, offset⟩ := c
  rcases front_cases text with ⟨cs, rfl⟩ | ⟨cs, rfl⟩ | ⟨cs, rfl⟩ | bare
  · rw [readValue_quote] at h
    obtain ⟨⟨key, behind⟩, read, h⟩ := exists_of_bind h
    cases h
    obtain ⟨t, s, text, rfl, passes⟩ := stringText_of_readString read rfl
    exact ⟨0, _, .string text, passes⟩
  · rw [readValue_bracket] at h
    obtain ⟨sp, spaces, inside⟩ := passes_spaces ⟨cs, offset + 1⟩
    simp only at h
    split at h
    · next closed =>
      cases h
      exact ⟨1, _, .noItems spaces,
        (Cursor.Passes.of_head rfl).trans (inside.trans (.of_head closed))⟩
    · obtain ⟨⟨vs, behind⟩, here, h⟩ := exists_of_bind h
      obtain ⟨room, t, us, text, passes, rfl⟩ := sound.items here
      cases h
      exact ⟨room + 1, _, .list spaces text,
        (Cursor.Passes.of_head rfl).trans (inside.trans passes)⟩
  · rw [readValue_brace] at h
    obtain ⟨sp, spaces, inside⟩ := passes_spaces ⟨cs, offset + 1⟩
    simp only at h
    split at h
    · next closed =>
      cases h
      exact ⟨1, _, .noFields spaces,
        (Cursor.Passes.of_head rfl).trans (inside.trans (.of_head closed))⟩
    · obtain ⟨⟨fs, behind⟩, here, h⟩ := exists_of_bind h
      obtain ⟨room, t, us, text, passes, rfl⟩ := sound.fields here
      cases h
      exact ⟨room + 1, _, .object spaces text,
        (Cursor.Passes.of_head rfl).trans (inside.trans passes)⟩
  · exact ⟨0, spells_of_readValue_bare bare h⟩

theorem items_succ (sound : Sound fuel) {read vs : List Value}
    (h : readItems (fuel + 1) c read = .ok (vs, after)) :
    ∃ room t us, Spells room t (.items us) ∧ c.Passes (t ++ [']']) after ∧
      vs = read.reverse ++ us := by
  rw [readItems_succ] at h
  obtain ⟨⟨v, behind⟩, here, h⟩ := exists_of_bind h
  obtain ⟨room, t, text, passes⟩ := sound.value here
  obtain ⟨sp, spaces, next⟩ := passes_spaces behind
  simp only at h
  split at h
  · next closed =>
    cases h
    refine ⟨room, t ++ sp, [v], .lastItem text spaces, ?_, List.reverse_cons⟩
    exact (passes.trans next).trans (.of_head closed)
  · next comma =>
    obtain ⟨room', u, us, rest, passes', rfl⟩ := sound.items h
    obtain ⟨sp', spaces', next'⟩ := passes_spaces (behind.spaces.skip 1)
    refine ⟨max room room', _, v :: us, .item (text.mono (Nat.le_max_left ..)) spaces spaces'
      (rest.mono (Nat.le_max_right ..)), ?_, by simp⟩
    have all := (passes.trans next).trans
      ((Cursor.Passes.of_head comma).trans (next'.trans passes'))
    simpa only [List.cons_append, List.append_assoc, List.nil_append] using all
  · cases h

theorem fields_succ (sound : Sound fuel) {read fs : List (String × Value)}
    (h : readFields (fuel + 1) c read = .ok (fs, after)) :
    ∃ room t us, Spells room t (.fields us) ∧ c.Passes (t ++ ['\x7d']) after ∧
      fs = Fields.ofEntries (read.reverse ++ us) := by
  rw [readFields_succ] at h
  split at h
  · cases h
  next quote =>
  obtain ⟨⟨key, behind⟩, name, h⟩ := exists_of_bind h
  simp only at h
  split at h
  · cases h
  next colon =>
  obtain ⟨n, name, before⟩ := nameText_of_readString name (by simpa using quote)
    (by simpa using colon)
  obtain ⟨⟨v, behind⟩, here, h⟩ := exists_of_bind h
  obtain ⟨room, t, text, passes⟩ := sound.value here
  obtain ⟨sp, spaces, next⟩ := passes_spaces behind
  simp only at h
  split at h
  · next closed =>
    cases h
    refine ⟨room, n ++ (t ++ sp), [(key, v)], .lastField name text spaces, ?_,
      congrArg Fields.ofEntries List.reverse_cons⟩
    exact (before.trans (passes.trans next)).trans (.of_head closed)
  · next comma =>
    obtain ⟨room', u, us, rest, passes', rfl⟩ := sound.fields h
    obtain ⟨sp', spaces', next'⟩ := passes_spaces (behind.spaces.skip 1)
    refine ⟨max room room', _, (key, v) :: us, .field name (text.mono (Nat.le_max_left ..))
      spaces spaces' (rest.mono (Nat.le_max_right ..)), ?_, by simp⟩
    have all := (before.trans (passes.trans next)).trans
      ((Cursor.Passes.of_head comma).trans (next'.trans passes'))
    simpa only [List.cons_append, List.append_assoc, List.nil_append] using all
  · cases h

end Sound

theorem sound (fuel : Nat) : Sound fuel := by
  induction fuel with
  | zero => exact ⟨nofun, nofun, nofun⟩
  | succ fuel ih => exact ⟨ih.value_succ, ih.items_succ, ih.fields_succ⟩

/-! ### Documents -/

theorem readDeep_eq (s : List Char) :
    readDeep s = if s.head? = some '\ufeff' then .error (.syntaxAt .mark 0)
      else readValue (2 * s.length + 2) (Cursor.mk s 0).spaces >>= fun p =>
        if p.2.spaces.rest.isEmpty then .ok p.1 else p.2.spaces.fail .extraData := rfl

/-- A text is read as a value exactly where it spells it, however deep. -/
theorem readDeep_eq_ok_iff {s : List Char} {v : Value} :
    readDeep s = .ok v ↔ ∃ room, Document room s v := by
  constructor
  · intro h
    rw [readDeep_eq] at h
    split at h
    · cases h
    · obtain ⟨⟨v, after⟩, read, h⟩ := exists_of_bind h
      obtain ⟨sp, spaces, before⟩ := passes_spaces ⟨s, 0⟩
      obtain ⟨room, t, text, passes⟩ := (sound _).value read
      obtain ⟨sp', spaces', behind⟩ := passes_spaces after
      simp only at h
      split at h
      · next closed =>
        cases h
        refine ⟨room, sp, t, sp', spaces, text, spaces', ?_⟩
        have all := (before.trans (passes.trans behind)).rest
        rwa [List.isEmpty_iff.mp closed, List.append_nil] at all
      · cases h
  · rintro ⟨room, document⟩
    obtain ⟨sp, t, sp', spaces, text, spaces', rfl⟩ := document
    have read := reads_of_spells text (2 * (sp ++ (t ++ sp')).length + 2) sp' (0 + sp.length)
      (by simp only [List.length_append]; omega) (not_continues_spaces spaces')
    have none : Spaceless [] := nofun
    have behind := spaces_append spaces' none (0 + sp.length + t.length)
    rw [List.append_nil] at behind
    rw [readDeep_eq, if_neg (spaces.unmarked (text.begins sp')),
      spaces_append spaces (text.begins _).spaceless, read]
    simp only [Except.bind, bind, behind, List.isEmpty_nil, if_true]

end MetricDesk.Json
