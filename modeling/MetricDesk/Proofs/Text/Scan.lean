import Mathlib.Data.List.TakeWhile
import MetricDesk.Text.Digit
import MetricDesk.Text.Scan

/-! Searching a text in pieces. Main statement: `Parted.search_append`, what a pattern finds in a
text with a gap it finds before the gap or else behind it, if no match goes over the gap. -/
namespace MetricDesk.Text

variable {α : Type} {cs rest word : List Char}

/-! ### Readings at the front of a text, with another one behind it -/

section
variable {p : Char → Bool} (stops : ∀ c ∈ rest.head?, p c = false)
include stops

theorem takeWhile_append (cs : List Char) : (cs ++ rest).takeWhile p = cs.takeWhile p := by
  induction cs with
  | nil =>
    cases rest with
    | nil => rfl
    | cons c rest => simp [stops c rfl]
  | cons c cs ih => simp only [List.cons_append, List.takeWhile_cons, ih]

theorem dropWhile_append (cs : List Char) : (cs ++ rest).dropWhile p = cs.dropWhile p ++ rest := by
  induction cs with
  | nil =>
    cases rest with
    | nil => rfl
    | cons c rest => simp [stops c rfl]
  | cons c cs ih =>
    simp only [List.cons_append, List.dropWhile_cons, ih]
    split <;> rfl

end

theorem after?_cons (w c : Char) (word cs : List Char) :
    after? (w :: word) (c :: cs) = if w = c then after? word cs else none := by
  unfold after?
  by_cases same : w = c
  · simp [same]
  · simp [same]

theorem after?_nil (some : word ≠ []) : after? word [] = none := by
  cases word with
  | nil => exact absurd rfl some
  | cons w word => rfl

theorem after?_of_head?_ne (some : word ≠ []) (other : word.head? ≠ cs.head?) :
    after? word cs = none := by
  cases word with
  | nil => exact absurd rfl some
  | cons w word =>
    cases cs with
    | nil => rfl
    | cons c cs => rw [after?_cons, if_neg fun same => other (congrArg Option.some same)]

theorem after?_append (stops : ∀ c ∈ rest.head?, c ∉ word) (cs : List Char) :
    after? word (cs ++ rest) = (after? word cs).map (· ++ rest) := by
  induction word generalizing cs with
  | nil => rfl
  | cons w word ih =>
    have others : ∀ c ∈ rest.head?, c ∉ word := fun c mem there =>
      stops c mem (List.mem_cons_of_mem w there)
    cases cs with
    | nil =>
      cases rest with
      | nil => rfl
      | cons c rest =>
        have other : w ≠ c := fun same => stops c rfl (same ▸ List.mem_cons_self)
        rw [List.nil_append, after?_cons, if_neg other]
        rfl
    | cons c cs =>
      rw [List.cons_append, after?_cons, after?_cons, ih others]
      split <;> rfl

/-- A word is looked for in as many characters as it has. -/
theorem after?_of_length_le (le : word.length ≤ cs.length) :
    after? word (cs ++ rest) = (after? word cs).map (· ++ rest) := by
  induction word generalizing cs with
  | nil => rfl
  | cons w word ih =>
    cases cs with
    | nil => cases le
    | cons c cs =>
      rw [List.cons_append, after?_cons, after?_cons, ih (Nat.le_of_succ_le_succ le)]
      split <;> rfl

/-! ### White space -/

theorem exists_of_covers {ranges : List (Nat × Nat)} {n : Nat} (h : covers ranges n = true) :
    ∃ r ∈ ranges, r.1 ≤ n ∧ n ≤ r.2 := by
  induction ranges with
  | nil => cases h
  | cons r ranges ih =>
    rw [covers] at h
    split at h
    · cases h
    · next low =>
      rcases Bool.or_eq_true_iff.mp h with high | others
      · exact ⟨r, List.mem_cons_self, Nat.not_lt.mp low, of_decide_eq_true high⟩
      · obtain ⟨r', mem, within⟩ := ih others
        exact ⟨r', List.mem_cons_of_mem r mem, within⟩

theorem afterBlanks?_cons {c : Char} (blank : isBlank c = true)
    (first : ∀ c ∈ cs.head?, isBlank c = false) : afterBlanks? (c :: cs) = some cs := by
  rw [afterBlanks?, if_pos blank]
  cases cs with
  | nil => rfl
  | cons d cs => rw [List.dropWhile_cons_of_neg (by simp [first d rfl])]

/-- White space is no digit and goes on with no word. -/
theorem apart_of_isBlank {c : Char} (blank : isBlank c = true) :
    isDigit c = false ∧ isWordChar c = false := by
  have all : ∀ r ∈ blankRanges, ∀ n ∈ List.range' r.1 (r.2 + 1 - r.1),
      (digitFrom zeroDigits n).isSome = false ∧ covers wordRanges n = false := by decide +kernel
  obtain ⟨r, mem, low, high⟩ := exists_of_covers blank
  exact all r mem c.toNat (List.mem_range'_1.mpr ⟨low, by omega⟩)

/-- What goes on behind white space goes on in the same way with another text behind, if it does not
begin in that one. -/
theorem bind_afterBlanks?_append {next : List Char → Option α} (nothing : next [] = none)
    (apart : next (rest.dropWhile isBlank) = none) (same : ∀ cs, next (cs ++ rest) = next cs)
    (cs : List Char) : (afterBlanks? (cs ++ rest)).bind next = (afterBlanks? cs).bind next := by
  cases cs with
  | nil =>
    cases rest with
    | nil => rfl
    | cons c rest =>
      rw [List.nil_append, afterBlanks?]
      by_cases blank : isBlank c = true
      · rw [if_pos blank]
        rwa [List.dropWhile_cons_of_pos blank] at apart
      · rw [if_neg blank]
        rfl
  | cons c cs =>
    rw [List.cons_append, afterBlanks?, afterBlanks?]
    by_cases blank : isBlank c = true
    · rw [if_pos blank, if_pos blank, Option.bind_some, Option.bind_some, List.dropWhile_append]
      cases left : cs.dropWhile isBlank with
      | nil => exact apart.trans nothing.symm
      | cons d ds => exact same (d :: ds)
    · rw [if_neg blank, if_neg blank]

/-! ### Searches -/

/-- A gap in a text, and what follows it: the word before it is over, and behind white space, if
there is some, nothing stands that a match could go on with. -/
structure Gap (goesOn : Char → Bool) (rest : List Char) : Prop where
  ends : ∀ c ∈ rest.head?, isDigit c = false ∧ isWordChar c = false
  behind : ∀ c ∈ (rest.dropWhile isBlank).head?, goesOn c = false

theorem Gap.of_blank {goesOn : Char → Bool} (blank : ∀ c ∈ rest, isBlank c = true) :
    Gap goesOn rest where
  ends c mem := apart_of_isBlank (blank c (List.mem_of_mem_head? mem))
  behind := by
    rw [List.dropWhile_eq_nil_iff.mpr blank]
    rintro c ⟨⟩

/-- A pattern that finds something only at the first letter of a word, behind white space just what
it finds with nothing in front, and before a gap just what it finds at the end of a text. -/
structure Parted (goesOn : Char → Bool) (pattern : Option Char → List Char → Option α) : Prop where
  nothing : ∀ before, pattern before [] = none
  blank : ∀ before {c} cs, isBlank c = true → pattern before (c :: cs) = none
  fresh : ∀ {c} cs, isBlank c = true → pattern (some c) cs = pattern none cs
  gap : ∀ {rest}, Gap goesOn rest → ∀ before cs, pattern before (cs ++ rest) = pattern before cs

namespace Parted

variable {goesOn : Char → Bool} {pattern : Option Char → List Char → Option α}

theorem search_fresh (parted : Parted goesOn pattern) {c : Char} (blank : isBlank c = true)
    (cs : List Char) : search pattern (some c) cs = search pattern none cs := by
  cases cs with
  | nil => exact parted.fresh [] blank
  | cons d cs => rw [search, search, parted.fresh (d :: cs) blank]

/-- White space in front of a text is passed over. -/
theorem search_blanks (parted : Parted goesOn pattern) {blanks : List Char}
    (blank : ∀ c ∈ blanks, isBlank c = true) (cs : List Char) :
    search pattern none (blanks ++ cs) = search pattern none cs := by
  induction blanks with
  | nil => rfl
  | cons c blanks ih =>
    obtain ⟨here, others⟩ := List.forall_mem_cons.mp blank
    rw [List.cons_append, search, parted.blank none _ here, Option.orElse_none,
      parted.search_fresh here, ih others]

/-- Where nothing stands it does not matter what is in front. -/
theorem search_before (absent : ∀ before, pattern before rest = none) (before : Option Char) :
    search pattern before rest = search pattern none rest := by
  cases rest with
  | nil => rw [search, search, absent, absent]
  | cons c rest => rw [search, search, absent, absent]

/-- What is found in a text with a gap is found before the gap or else behind it. -/
theorem search_append (parted : Parted goesOn pattern) (gap : Gap goesOn rest)
    (before : Option Char) (cs : List Char) : search pattern before (cs ++ rest) =
      (search pattern before cs).or (search pattern none rest) := by
  have absent (before : Option Char) : pattern before rest = none :=
    (parted.gap gap before []).trans (parted.nothing before)
  induction cs generalizing before with
  | nil =>
    rw [List.nil_append, search, parted.nothing, Option.none_or, search_before absent]
  | cons c cs ih =>
    have here := parted.gap gap before (c :: cs)
    rw [List.cons_append] at here ⊢
    rw [search, here, ih, search]
    cases pattern before (c :: cs) <;> rfl

theorem search_trimmed (parted : Parted goesOn pattern) (cs : List Char) :
    search pattern none (trimmed cs) = search pattern none cs := by
  have front : ∀ c ∈ cs.takeWhile isBlank, isBlank c = true := fun c mem =>
    List.mem_takeWhile_imp mem
  obtain ⟨back, blank, cut⟩ : ∃ back : List Char, (∀ c ∈ back, isBlank c = true) ∧
      trimmed cs ++ back = cs.dropWhile isBlank := by
    refine ⟨((cs.dropWhile isBlank).reverse.takeWhile isBlank).reverse, ?_, ?_⟩
    · exact fun c mem => List.mem_takeWhile_imp (List.mem_reverse.mp mem)
    · rw [trimmed, ← List.reverse_append, List.takeWhile_append_dropWhile, List.reverse_reverse]
  have blanks : search pattern none back = none := by
    rw [← List.append_nil back, parted.search_blanks blank]
    exact parted.nothing none
  calc search pattern none (trimmed cs)
      = (search pattern none (trimmed cs)).or (search pattern none back) := by
        rw [blanks, Option.or_none]
    _ = search pattern none (trimmed cs ++ back) :=
        (parted.search_append (.of_blank blank) none _).symm
    _ = search pattern none (cs.takeWhile isBlank ++ cs.dropWhile isBlank) := by
        rw [cut, parted.search_blanks front]
    _ = search pattern none cs := by rw [List.takeWhile_append_dropWhile]

end Parted
end MetricDesk.Text
