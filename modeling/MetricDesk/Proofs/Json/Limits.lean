import MetricDesk.Proofs.Json.Depth

/-! What a text has to stand in front of a limit. `Reached` says what is due behind a text that can
still become a document, and in how many containers. Main statements: `Reached.fails`, whatever
cannot be read where a value is due is the fault of the whole; `blame_readDeep`, each fault of the
whole is one where something was due; and so `read_tooManyDigits_iff` and `read_tooDeep_iff`, which
texts run into a limit. -/
namespace MetricDesk.Json

/-- What is due: a value, the next item of a list, or the next field of an object. -/
inductive Due where
  | value
  | item
  | field

/-- A text can still become a document. Something is due behind it, inside of so many containers,
of which there may be `limit` at most. -/
inductive Reached (limit : Nat) : Due → Nat → List Char → Prop
  | start {sp : List Char} : Spaces sp → Reached limit .value 0 sp
  | list {depth : Nat} {a sp : List Char} : Reached limit .value depth a → depth < limit →
      Spaces sp → Reached limit .item (depth + 1) (a ++ '[' :: sp)
  | object {depth : Nat} {a sp : List Char} : Reached limit .value depth a → depth < limit →
      Spaces sp → Reached limit .field (depth + 1) (a ++ '\x7b' :: sp)
  | value {depth : Nat} {a : List Char} : Reached limit .item depth a →
      Reached limit .value depth a
  | name {depth : Nat} {a n : List Char} {key : String} : Reached limit .field depth a →
      NameText n key → Reached limit .value depth (a ++ n)
  | item {depth : Nat} {a t sp sp' : List Char} {v : Value} : Reached limit .item depth a →
      Spells (limit - depth) t (.value v) → Spaces sp → Spaces sp' →
      Reached limit .item depth (a ++ (t ++ (sp ++ ',' :: sp')))
  | field {depth : Nat} {a n t sp sp' : List Char} {key : String} {v : Value} :
      Reached limit .field depth a → NameText n key → Spells (limit - depth) t (.value v) →
      Spaces sp → Spaces sp' → Reached limit .field depth (a ++ (n ++ (t ++ (sp ++ ',' :: sp'))))

theorem Reached.le {limit depth : Nat} {due : Due} {a : List Char}
    (h : Reached limit due depth a) : depth ≤ limit := by
  induction h with
  | start => exact Nat.zero_le limit
  | list _ room => exact room
  | object _ room => exact room
  | value _ ih | name _ _ ih | item _ _ _ _ ih | field _ _ _ _ _ ih => exact ih

theorem Reached.mono {limit more depth : Nat} {due : Due} {a : List Char}
    (h : Reached limit due depth a) (le : limit ≤ more) : Reached more due depth a := by
  induction h with
  | start spaces => exact .start spaces
  | list _ room spaces ih => exact .list ih (Nat.lt_of_lt_of_le room le) spaces
  | object _ room spaces ih => exact .object ih (Nat.lt_of_lt_of_le room le) spaces
  | value _ ih => exact .value ih
  | name _ name ih => exact .name ih name
  | item _ text spaces spaces' ih => exact .item ih (text.mono (by omega)) spaces spaces'
  | field _ name text spaces spaces' ih =>
    exact .field ih name (text.mono (by omega)) spaces spaces'

/-! ### From a part to the whole -/

theorem NameText.begins {n : List Char} {key : String} (h : NameText n key) (rest : List Char) :
    Begins (n ++ rest) := by
  obtain ⟨cs, rfl⟩ := h.first
  exact begins_of_mem_firsts (by decide) (cs ++ rest)

/-- What is due cannot be read at the front, whatever has been read before. -/
def Fails (cs : List Char) (offset : Nat) (e : ReadError) : Due → Prop
  | .value => ∀ fuel, 2 * cs.length < fuel → readValue fuel ⟨cs, offset⟩ = .error e
  | .item => ∀ fuel read, 2 * cs.length + 1 < fuel → readItems fuel ⟨cs, offset⟩ read = .error e
  | .field => ∀ fuel read, 2 * cs.length + 1 < fuel → readFields fuel ⟨cs, offset⟩ read = .error e

/-- Where what is due cannot be read, the whole cannot be read for the same reason. -/
theorem Reached.fails {limit depth : Nat} {due : Due} {a cs : List Char} {e : ReadError}
    (h : Reached limit due depth a) (begins : Begins cs) (fails : Fails cs a.length e due) :
    readDeep (a ++ cs) = .error e := by
  -- From the inside out: each case hands the failure on to what was due one step before.
  induction h generalizing cs with
  | @start sp spaces =>
    have here := fails (2 * (sp ++ cs).length + 2) (by rw [List.length_append]; omega)
    rw [readDeep_eq, if_neg (spaces.unmarked begins), spaces_append spaces begins.spaceless,
      Nat.zero_add, here]
    rfl
  | @list _ a sp _ _ spaces ih =>
    rw [List.append_assoc]
    refine ih (begins_of_mem_firsts (by decide) (sp ++ cs)) fun fuel enough => ?_
    simp only [List.cons_append, List.length_cons, List.length_append] at enough ⊢
    obtain ⟨fuel, rfl⟩ := Nat.exists_eq_add_one.mpr (Nat.zero_lt_of_lt enough)
    have here := fails fuel [] (by omega)
    rw [List.length_append, List.length_cons] at here
    rw [readValue_items spaces begins, here]
    rfl
  | @object _ a sp _ _ spaces ih =>
    rw [List.append_assoc]
    refine ih (begins_of_mem_firsts (by decide) (sp ++ cs)) fun fuel enough => ?_
    simp only [List.cons_append, List.length_cons, List.length_append] at enough ⊢
    obtain ⟨fuel, rfl⟩ := Nat.exists_eq_add_one.mpr (Nat.zero_lt_of_lt enough)
    have here := fails fuel [] (by omega)
    rw [List.length_append, List.length_cons] at here
    rw [readValue_fields spaces begins, here]
    rfl
  | value _ ih =>
    refine ih begins fun fuel read enough => ?_
    obtain ⟨fuel, rfl⟩ := Nat.exists_eq_add_one.mpr (Nat.zero_lt_of_lt enough)
    rw [readItems_succ, fails fuel (by omega)]
    rfl
  | @name _ a n key _ name ih =>
    rw [List.append_assoc]
    refine ih (name.begins cs) fun fuel read enough => ?_
    simp only [List.length_append] at enough
    obtain ⟨fuel, rfl⟩ := Nat.exists_eq_add_one.mpr (Nat.zero_lt_of_lt enough)
    have here := fails fuel (by omega)
    rw [List.length_append] at here
    rw [readFields_name name begins.spaceless (by omega), here]
    rfl
  | @item _ a t sp sp' v _ text spaces spaces' ih =>
    simp only [List.append_assoc, List.cons_append]
    refine ih (text.begins _) fun fuel read enough => ?_
    simp only [List.length_append, List.length_cons] at enough
    obtain ⟨fuel, rfl⟩ := Nat.exists_eq_add_one.mpr (Nat.zero_lt_of_lt enough)
    have value := reads_of_spells text fuel (sp ++ ',' :: (sp' ++ cs)) a.length (by omega)
      (not_continues_mark spaces (by simp) _)
    have here := fails fuel (v :: read) (by omega)
    rw [List.length_append, List.length_append, ← Nat.add_assoc] at here
    rw [readItems_next value spaces spaces' begins.spaceless, here]
  | @field _ a n t sp sp' key v _ name text spaces spaces' ih =>
    simp only [List.append_assoc, List.cons_append]
    refine ih (name.begins _) fun fuel read enough => ?_
    simp only [List.length_append, List.length_cons] at enough
    obtain ⟨fuel, rfl⟩ := Nat.exists_eq_add_one.mpr (Nat.zero_lt_of_lt enough)
    have value := reads_of_spells text fuel (sp ++ ',' :: (sp' ++ cs)) (a.length + n.length)
      (by omega) (not_continues_mark spaces (by simp) _)
    have here := fails fuel ((key, v) :: read) (by omega)
    rw [List.length_append, List.length_append, List.length_append, ← Nat.add_assoc,
      ← Nat.add_assoc] at here
    rw [readFields_next name (text.begins _).spaceless (by omega) value spaces spaces'
      begins.spaceless, here]

/-! ### From the whole to a part -/

/-- Why a text cannot be read, and what was due there if it was a value. -/
inductive Blame (s : List Char) : ReadError → Prop
  | long {limit depth n : Nat} {a b : List Char} : s = a ++ b → Reached limit .value depth a →
      Long b n → Blame s (.tooManyDigits n)
  | missing {limit depth : Nat} {a b : List Char} : s = a ++ b → Reached limit .value depth a →
      Blame s (.syntaxAt .expectingValue a.length)
  | other {reason : Reason} (offset : Nat) : reason ≠ .expectingValue →
      Blame s (.syntaxAt reason offset)

theorem escapedPoint?_error {offset : Nat} {cs : List Char} {e : ReadError}
    (h : escapedPoint? offset cs = .error e) : ∃ place, e = .syntaxAt .codePoint place := by
  unfold escapedPoint? at h
  split at h
  · cases h
    exact ⟨_, rfl⟩
  · split at h
    · cases h
      exact ⟨_, rfl⟩
    · split at h
      · split at h
        · cases h
          exact ⟨_, rfl⟩
        · split at h <;> cases h
      · cases h

theorem blame_readChars {s : List Char} {start fuel : Nat} {c : Cursor} {read : List Char}
    {e : ReadError} (h : readChars start fuel c read = .error e) : Blame s e := by
  induction fuel generalizing c read with
  | zero =>
    cases h
    exact .other start (by decide)
  | succ fuel ih =>
    rw [readChars.eq_def] at h
    simp only at h
    split at h
    · cases h
      exact .other start (by decide)
    · cases h
    · rcases error_of_bind h with failed | ⟨_, -, h⟩
      · obtain ⟨place, rfl⟩ := escapedPoint?_error failed
        exact .other place (by decide)
      · exact ih h
    · split at h
      · exact ih h
      · cases h
        exact .other _ (by decide)
    · cases h
      exact .other start (by decide)
    · split at h
      · cases h
        exact .other _ (by decide)
      · exact ih h

theorem blame_readString {s : List Char} {fuel : Nat} {c : Cursor} {e : ReadError}
    (h : readString fuel c = .error e) : Blame s e := by
  rcases error_of_bind h with failed | ⟨_, -, h⟩
  · exact blame_readChars failed
  · cases h

/-- With so much fuel nothing fails without blame, wherever it is due. -/
structure Blames (s : List Char) (fuel : Nat) : Prop where
  value {limit depth : Nat} {a : List Char} {c : Cursor} {e : ReadError} :
    Reached limit .value depth a → (Cursor.mk s 0).Passes a c → readValue fuel c = .error e →
    Blame s e
  items {limit depth : Nat} {a : List Char} {c : Cursor} {read : List Value} {e : ReadError} :
    Reached limit .item depth a → (Cursor.mk s 0).Passes a c → readItems fuel c read = .error e →
    Blame s e
  fields {limit depth : Nat} {a : List Char} {c : Cursor} {read : List (String × Value)}
    {e : ReadError} :
    Reached limit .field depth a → (Cursor.mk s 0).Passes a c →
    readFields fuel c read = .error e → Blame s e

theorem blame_missing {s a : List Char} {limit depth : Nat} {c : Cursor}
    (reached : Reached limit .value depth a) (passes : (Cursor.mk s 0).Passes a c) :
    Blame s (.syntaxAt .expectingValue c.offset) := by
  have place : c.offset = a.length := passes.offset.trans (Nat.zero_add _)
  rw [place]
  exact .missing passes.rest reached

namespace Blames

variable {s : List Char} {fuel limit depth : Nat} {a : List Char} {c : Cursor} {e : ReadError}

theorem value_succ (blames : Blames s fuel) (reached : Reached limit .value depth a)
    (passes : (Cursor.mk s 0).Passes a c) (h : readValue (fuel + 1) c = .error e) : Blame s e := by
  -- Reading itself knows no limit, so the limit gives way to each container that opens.
  have deeper := reached.mono (Nat.le_max_left limit (depth + 1))
  have room : depth < max limit (depth + 1) := Nat.le_max_right limit (depth + 1)
  obtain ⟨text, offset⟩ := c
  rcases front_cases text with ⟨cs, rfl⟩ | ⟨cs, rfl⟩ | ⟨cs, rfl⟩ | bare
  · rw [readValue_quote] at h
    rcases error_of_bind h with failed | ⟨_, -, h⟩
    · exact blame_readString failed
    · cases h
  · rw [readValue_bracket] at h
    obtain ⟨sp, spaces, inside⟩ := passes_spaces ⟨cs, offset + 1⟩
    simp only at h
    split at h
    · cases h
    · rcases error_of_bind h with failed | ⟨_, -, h⟩
      · exact blames.items (.list deeper room spaces)
          (passes.trans ((Cursor.Passes.of_head rfl).trans inside)) failed
      · cases h
  · rw [readValue_brace] at h
    obtain ⟨sp, spaces, inside⟩ := passes_spaces ⟨cs, offset + 1⟩
    simp only at h
    split at h
    · cases h
    · rcases error_of_bind h with failed | ⟨_, -, h⟩
      · exact blames.fields (.object deeper room spaces)
          (passes.trans ((Cursor.Passes.of_head rfl).trans inside)) failed
      · cases h
  · rw [readValue_bare bare] at h
    split at h
    · cases h
    · rcases readNumber_cases ⟨text, offset⟩ with ⟨_, _, _, -, -, read⟩ | ⟨n, long, read⟩ | read
      · rw [read] at h
        cases h
      · rw [read] at h
        cases h
        exact .long passes.rest reached long
      · rw [read] at h
        cases h
        exact blame_missing reached passes

theorem items_succ (blames : Blames s fuel) (reached : Reached limit .item depth a)
    (passes : (Cursor.mk s 0).Passes a c) {read : List Value}
    (h : readItems (fuel + 1) c read = .error e) : Blame s e := by
  rw [readItems_succ] at h
  rcases error_of_bind h with failed | ⟨⟨v, behind⟩, here, h⟩
  · exact blames.value (.value reached) passes failed
  obtain ⟨room, t, text, passes'⟩ := (sound fuel).value here
  obtain ⟨sp, spaces, next⟩ := passes_spaces behind
  simp only at h
  split at h
  · cases h
  · next comma =>
    obtain ⟨sp', spaces', next'⟩ := passes_spaces (behind.spaces.skip 1)
    have wider := reached.mono (Nat.le_max_left limit (room + depth))
    have fits := text.mono (Nat.le_sub_of_add_le (Nat.le_max_right limit (room + depth)))
    refine blames.items (.item wider fits spaces spaces') (passes.trans ?_) h
    exact passes'.trans (next.trans ((Cursor.Passes.of_head comma).trans next'))
  · cases h
    exact .other _ nofun

theorem fields_succ (blames : Blames s fuel) (reached : Reached limit .field depth a)
    (passes : (Cursor.mk s 0).Passes a c) {read : List (String × Value)}
    (h : readFields (fuel + 1) c read = .error e) : Blame s e := by
  rw [readFields_succ] at h
  split at h
  · cases h
    exact .other _ nofun
  next quote =>
  rcases error_of_bind h with failed | ⟨⟨key, behind⟩, name, h⟩
  · exact blame_readString failed
  simp only at h
  split at h
  · cases h
    exact .other _ nofun
  next colon =>
  obtain ⟨n, name, before⟩ := nameText_of_readString name (by simpa using quote)
    (by simpa using colon)
  rcases error_of_bind h with failed | ⟨⟨v, behind⟩, here, h⟩
  · exact blames.value (.name reached name) (passes.trans before) failed
  obtain ⟨room, t, text, passes'⟩ := (sound fuel).value here
  obtain ⟨sp, spaces, next⟩ := passes_spaces behind
  simp only at h
  split at h
  · cases h
  · next comma =>
    obtain ⟨sp', spaces', next'⟩ := passes_spaces (behind.spaces.skip 1)
    have wider := reached.mono (Nat.le_max_left limit (room + depth))
    have fits := text.mono (Nat.le_sub_of_add_le (Nat.le_max_right limit (room + depth)))
    refine blames.fields (.field wider name fits spaces spaces') (passes.trans ?_) h
    exact before.trans (passes'.trans (next.trans ((Cursor.Passes.of_head comma).trans next')))
  · cases h
    exact .other _ nofun

end Blames

theorem blames (s : List Char) (fuel : Nat) : Blames s fuel := by
  induction fuel with
  | zero =>
    refine ⟨?_, ?_, ?_⟩
    · rintro limit depth a c _ reached passes ⟨⟩
      exact blame_missing reached passes
    · rintro limit depth a c _ _ reached passes ⟨⟩
      exact blame_missing (.value reached) passes
    · rintro limit depth a c _ _ - - ⟨⟩
      exact .other _ nofun
  | succ fuel ih =>
    exact ⟨ih.value_succ, fun reached passes => ih.items_succ reached passes,
      fun reached passes => ih.fields_succ reached passes⟩

theorem blame_readDeep {s : List Char} {e : ReadError} (h : readDeep s = .error e) : Blame s e := by
  rw [readDeep_eq] at h
  split at h
  · cases h
    exact .other 0 nofun
  · rcases error_of_bind h with failed | ⟨_, -, h⟩
    · obtain ⟨sp, spaces, before⟩ := passes_spaces ⟨s, 0⟩
      have start : Reached 0 .value 0 sp := .start spaces
      exact (blames s _).value start before failed
    · split at h
      · cases h
      · cases h
        exact .other _ nofun

/-! ### Behind what has been read -/

/-- Up to the end of a text no container opens too deep, and so many are open there. -/
def Leads (depth : Nat) (a : List Char) : Prop :=
  ∀ place rest, firstTooDeep place 0 false (a ++ rest) =
    firstTooDeep (place + a.length) depth false rest

namespace Leads

variable {depth : Nat} {a t : List Char}

theorem crosses (h : Leads depth a) (crosses : Crosses depth false t) : Leads depth (a ++ t) := by
  intro place rest
  rw [List.append_assoc, h, crosses, List.length_append, Nat.add_assoc]

theorem opening (h : Leads depth a) (k : Container) (room : depth < maxDepth)
    (crosses : Crosses (depth + 1) false t) : Leads (depth + 1) (a ++ k.opening :: t) := by
  intro place rest
  rw [List.append_assoc, h, List.cons_append, firstTooDeep_opening, if_pos room, crosses,
    List.length_append, List.length_cons]
  congr 1
  omega

theorem exceeds (h : Leads depth a) (exceeds : Exceeds depth t) : Exceeds 0 (a ++ t) := by
  intro place rest
  obtain ⟨q, k, found, before⟩ := exceeds (place + a.length) rest
  refine ⟨q, k, ?_, by rw [List.length_append]; omega⟩
  rw [List.append_assoc, h, found]

end Leads

theorem Reached.leads {depth : Nat} {due : Due} {a : List Char}
    (h : Reached maxDepth due depth a) : Leads depth a := by
  induction h with
  | start spaces => exact spaces.crosses 0
  | list _ room spaces ih => exact ih.opening .list room (spaces.crosses _)
  | object _ room spaces ih => exact ih.opening .object room (spaces.crosses _)
  | value _ ih => exact ih
  | name _ name ih => exact ih.crosses (name.crosses _)
  | item reached text spaces spaces' ih =>
    have le := reached.le
    exact ih.crosses ((text.crosses (by omega)).append (crosses_comma spaces spaces' _))
  | field reached name text spaces spaces' ih =>
    have le := reached.le
    exact ih.crosses ((name.crosses _).append
      ((text.crosses (by omega)).append (crosses_comma spaces spaces' _)))

/-- What is reached without a container too deep is reached within the limit. -/
theorem Reached.fits {limit depth : Nat} {due : Due} {a : List Char}
    (h : Reached limit due depth a) : Reached maxDepth due depth a ∨ Exceeds 0 a := by
  induction h with
  | start spaces => exact Or.inl (.start spaces)
  | @list depth a sp _ _ spaces ih =>
    rcases ih with reached | exceeds
    · rcases room_or_exceeds .list reached.le sp with ⟨room, -⟩ | exceeds
      · exact Or.inl (.list reached room spaces)
      · exact Or.inr (reached.leads.exceeds exceeds)
    · exact Or.inr (exceeds.append _)
  | @object depth a sp _ _ spaces ih =>
    rcases ih with reached | exceeds
    · rcases room_or_exceeds .object reached.le sp with ⟨room, -⟩ | exceeds
      · exact Or.inl (.object reached room spaces)
      · exact Or.inr (reached.leads.exceeds exceeds)
    · exact Or.inr (exceeds.append _)
  | value _ ih => exact ih.imp_left .value
  | name _ name ih => exact ih.imp (.name · name) (·.append _)
  | item _ text spaces spaces' ih =>
    rcases ih with reached | exceeds
    · rcases text.fits reached.le with fits | exceeds
      · exact Or.inl (.item reached fits spaces spaces')
      · exact Or.inr (reached.leads.exceeds (exceeds.append _))
    · exact Or.inr (exceeds.append _)
  | field _ name text spaces spaces' ih =>
    rcases ih with reached | exceeds
    · rcases text.fits reached.le with fits | exceeds
      · exact Or.inl (.field reached name fits spaces spaces')
      · exact Or.inr (reached.leads.exceeds (.behind (name.crosses _) (exceeds.append _)))
    · exact Or.inr (exceeds.append _)

/-- What stands in front of the first container too deep is reached within the limit. -/
theorem Reached.within {limit depth : Nat} {due : Due} {a b rest : List Char} {k : Container}
    (h : Reached limit due depth a)
    (found : firstTooDeep 0 0 false (a ++ b ++ k.opening :: rest) = some ((a ++ b).length, k)) :
    Reached maxDepth due depth a := by
  refine h.fits.resolve_right fun exceeds => ?_
  obtain ⟨q, k', deep, before⟩ := exceeds 0 (b ++ k.opening :: rest)
  rw [← List.append_assoc, found] at deep
  cases deep
  rw [List.length_append] at before
  omega

/-! ### Long numbers -/

theorem Long.begins {b : List Char} {n : Nat} (h : Long b n) : Begins b := by
  obtain ⟨neg, ds, rest, rfl, text, -⟩ := h
  cases neg with
  | true => exact begins_of_mem_firsts (by decide) _
  | false =>
    obtain ⟨d, ds, rfl, digit⟩ := text.run.first
    exact begins_of_mem_firsts (mem_firsts_of_isDigit digit) _

/-- A number of too many digits is not read. -/
theorem Long.fails {b : List Char} {n : Nat} (h : Long b n) (offset : Nat) :
    Fails b offset (.tooManyDigits n) .value := by
  obtain ⟨neg, ds, rest, rfl, text, rfl, long, stops⟩ := h
  intro fuel enough
  obtain ⟨fuel, rfl⟩ := Nat.exists_eq_add_one.mpr (Nat.zero_lt_of_lt enough)
  rw [readValue_signed neg text, readNumber_signed neg text
    (whole_append text (Ends.of_not_continues stops)), afterWhole_digits stops, if_pos long]

theorem Continues.append {cs : List Char} (h : Continues cs) (rest : List Char) :
    Continues (cs ++ rest) := by
  cases h with
  | digit digit => exact .digit digit
  | fraction text found =>
    rw [List.append_assoc]
    exact .fraction text found
  | exponent text found =>
    rw [List.append_assoc]
    exact .exponent text found

/-- A plain text at the front ends before the first bracket. -/
theorem split_of_plain {t behind cs rest : List Char} {c : Char} (plain : ∀ d ∈ t, Plain d)
    (bracket : ¬ Plain c) (same : cs ++ c :: rest = t ++ behind) :
    ∃ middle, cs = t ++ middle ∧ behind = middle ++ c :: rest := by
  rcases List.append_eq_append_iff.mp same with ⟨middle, rfl, split⟩ | found
  · cases middle with
    | nil => exact ⟨[], by simp, split.symm⟩
    | cons d middle =>
      obtain ⟨rfl, -⟩ := List.cons.inj split
      exact absurd (plain _ (by simp)) bracket
  · exact found

/-- Whether a number goes on is settled in front of a bracket. -/
theorem Continues.of_append {cs rest : List Char} {c : Char} (bracket : ¬ Plain c)
    (h : Continues (cs ++ c :: rest)) : Continues cs := by
  generalize same : cs ++ c :: rest = whole at h
  cases h with
  | @digit d _ digit =>
    have plain : ∀ c ∈ [d], Plain c := List.forall_mem_singleton.mpr (plain_of_isDigit digit)
    obtain ⟨middle, rfl, -⟩ := split_of_plain plain bracket same
    exact .digit digit
  | fraction text found =>
    obtain ⟨middle, rfl, -⟩ := split_of_plain text.plain bracket same
    exact .fraction text found
  | exponent text found =>
    obtain ⟨middle, rfl, -⟩ := split_of_plain text.plain bracket same
    exact .exponent text found

/-- A number of too many digits stands in front of a container too deep, or behind it. -/
theorem Long.of_append {b rest : List Char} {n : Nat} {c : Char} (bracket : ¬ Plain c)
    (h : Long b n) : Long (b ++ c :: rest) n := by
  obtain ⟨neg, ds, behind, rfl, text, length, long, stops⟩ := h
  exact ⟨neg, ds, behind ++ c :: rest, by simp only [List.append_assoc], text, length, long,
    fun goes => stops (goes.of_append bracket)⟩

theorem Long.of_cut {b rest : List Char} {n : Nat} {c : Char} (bracket : ¬ Plain c)
    (h : Long (b ++ c :: rest) n) : Long b n := by
  obtain ⟨neg, ds, behind, split, text, length, long, stops⟩ := h
  rw [← List.append_assoc] at split
  obtain ⟨middle, rfl, rfl⟩ := split_of_plain (signed_plain neg text) bracket split
  exact ⟨neg, ds, middle, List.append_assoc _ _ _, text, length, long,
    fun goes => stops (goes.append _)⟩

/-! ### The limits -/

theorem opening_not_plain (k : Container) : ¬ Plain k.opening := by
  cases k <;> decide

/-- A number of too many digits stands where a value is due. -/
def TooLong (s : List Char) (n : Nat) : Prop :=
  ∃ depth a b, s = a ++ b ∧ Reached maxDepth .value depth a ∧ Long b n

/-- A container opens where a value is due, inside of as many as there may be. -/
def TooDeep (s : List Char) (k : Container) : Prop :=
  ∃ a rest, s = a ++ k.opening :: rest ∧ Reached maxDepth .value maxDepth a

theorem begins_nil : Begins [] := ⟨nofun, nofun, nofun, nofun⟩

/-- Nothing is read at the end of a text. -/
theorem fails_nil (offset : Nat) : Fails [] offset (.syntaxAt .expectingValue offset) .value := by
  intro fuel enough
  obtain ⟨fuel, rfl⟩ := Nat.exists_eq_add_one.mpr (Nat.zero_lt_of_lt enough)
  have bare : Bare [] := nofun
  rw [readValue_bare bare]
  rfl

theorem read_tooManyDigits_iff {s : List Char} {n : Nat} :
    read s = .error (.tooManyDigits n) ↔ TooLong s n := by
  constructor
  · intro h
    rcases read_split s with none | ⟨front, k, rest, rfl, some⟩
    · rw [read_of_none none] at h
      cases blame_readDeep h with
      | @long _ depth _ a b split reached long =>
        subst split
        refine ⟨depth, a, b, rfl, reached.fits.resolve_right fun exceeds => ?_, long⟩
        obtain ⟨q, k, deep, -⟩ := exceeds 0 b
        rw [none] at deep
        cases deep
    · have whole : readDeep front = .error (.tooManyDigits n) := by
        rcases read_of_some some with ⟨offset, -, same⟩ | ⟨-, same⟩
        · rw [same] at h
          split_ifs at h <;> cases h
        · exact same.symm.trans h
      cases blame_readDeep whole with
      | @long _ depth _ a b split reached long =>
        subst split
        exact ⟨depth, a, b ++ k.opening :: rest, List.append_assoc _ _ _, reached.within some,
          long.of_append (opening_not_plain k)⟩
  · rintro ⟨depth, a, b, rfl, reached, long⟩
    have scan := reached.leads 0 b
    rw [Nat.zero_add] at scan
    cases found : firstTooDeep a.length depth false b with
    | none => rw [read_of_none (scan.trans found), reached.fails long.begins (long.fails _)]
    | some first =>
      obtain ⟨q, k⟩ := first
      obtain ⟨middle, rest, rfl, rfl⟩ := opensAt_of_firstTooDeep found
      have cut := long.of_cut (opening_not_plain k)
      rw [← List.append_assoc, ← List.length_append] at *
      have failed := reached.fails cut.begins (cut.fails _)
      rcases read_of_some (scan.trans found) with ⟨offset, apart, -⟩ | ⟨-, same⟩
      · rw [failed] at apart
        cases apart
      · exact same.trans failed

theorem read_tooDeep_iff {s : List Char} {k : Container} :
    read s = .error (.tooDeep k) ↔ TooDeep s k := by
  constructor
  · intro h
    rcases read_split s with none | ⟨front, k', rest, rfl, some⟩
    · rw [read_of_none none] at h
      cases blame_readDeep h
    · rcases read_of_some some with ⟨offset, failed, same⟩ | ⟨-, same⟩
      · rw [same] at h
        split_ifs at h with here
        · cases h
          cases blame_readDeep failed with
          | @missing _ depth a b split reached =>
            subst split
            obtain rfl : b = [] := by simpa using here
            have within := reached.within some
            rw [List.append_nil] at some ⊢
            have full : depth = maxDepth := by
              refine Nat.le_antisymm within.le (Nat.le_of_not_lt fun room => ?_)
              rw [within.leads, firstTooDeep_opening, if_pos room] at some
              have later := opensAt_ge some
              omega
            exact ⟨a, rest, rfl, full ▸ within⟩
          | other _ apart => exact absurd rfl apart
        · cases h
      · cases blame_readDeep (same.symm.trans h)
  · rintro ⟨a, rest, rfl, reached⟩
    have deep : firstTooDeep 0 0 false (a ++ k.opening :: rest) = some (a.length, k) := by
      rw [reached.leads, firstTooDeep_opening, if_neg (Nat.lt_irrefl _), Nat.zero_add]
    have failed := reached.fails begins_nil (fails_nil a.length)
    rw [List.append_nil] at failed
    rcases read_of_some deep with ⟨offset, here, same⟩ | ⟨other, -⟩
    · rw [failed] at here
      cases here
      rw [same, if_pos rfl]
    · exact absurd failed (other _)

end MetricDesk.Json
