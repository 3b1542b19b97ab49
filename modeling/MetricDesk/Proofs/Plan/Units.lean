import MetricDesk.Proofs.Cache.Words
import MetricDesk.Proofs.Plan.Sentence
import MetricDesk.Proofs.Text.Case

/-! Numbers of days, weeks and months in questions. Main statement: `Draft.past_eq_last_iff`, among
words that are no phrases of time a number of days or of weeks is the same window behind "last" and
behind "past". Of months it is not: behind "past" they are no phrase. -/
namespace MetricDesk

namespace Phrase
open Text

/-! ### A number of units -/

/-- The words in front of a number. -/
def openings : List String := ["last", "past"]

/-- The units behind it, and their days. -/
def units : List (String × Nat) :=
  [("day", 1), ("days", 1), ("week", 7), ("weeks", 7), ("month", 30), ("months", 30)]

/-- A number of units. -/
def spelled (lead : String) (ds : List Char) (unit : String) : List Char :=
  lead.toList ++ ' ' :: (ds ++ ' ' :: unit.toList)

/-- The word of a phrase is looked for in the opening. -/
theorem after?_spelled {lead : String} {word : List Char} (le : word.length ≤ lead.toList.length)
    (ds : List Char) (unit : String) (rest : List Char) :
    after? word (spelled lead ds unit ++ rest) =
      (after? word lead.toList).map (· ++ ' ' :: (ds ++ ' ' :: (unit.toList ++ rest))) := by
  have joined : ' ' :: (ds ++ ' ' :: unit.toList) ++ rest =
      ' ' :: (ds ++ ' ' :: (unit.toList ++ rest)) := by simp
  rw [spelled, List.append_assoc, after?_of_length_le le, joined]

theorem digitOf?_of_isDigit {c : Char} (digit : c.isDigit = true) :
    digitOf? c = some (c.toNat - 48) := by
  simp only [Char.isDigit, Bool.and_eq_true, decide_eq_true_eq, ge_iff_le,
    UInt32.le_iff_toNat_le] at digit
  have low : ¬ c.toNat < 48 := Nat.not_lt.mpr digit.1
  have high : c.toNat < 48 + 10 := Nat.lt_succ_of_le digit.2
  rw [digitOf?, zeroDigits, digitFrom, if_neg low, if_pos high]

section
variable {ds : List Char} (filled : ds ≠ []) (ascii : ∀ c ∈ ds, c.isDigit = true)
include ascii

theorem isDigit_of_ascii : ∀ c ∈ ds, isDigit c = true := by
  intro c mem
  rw [isDigit, digitOf?_of_isDigit (ascii c mem)]
  rfl

theorem isBlank_of_ascii : ∀ c ∈ ds, isBlank c = false := by
  intro c mem
  apply Key.isBlank_of_counts
  rw [Key.counts, ascii c mem, Bool.or_true]

theorem numberOf_of_ascii : numberOf ds = Nat.ofDigitChars 10 ds 0 := by
  rw [numberOf, Nat.ofDigitChars_eq_foldl]
  apply List.foldl_ext
  intro n c mem
  rw [digitOf?_of_isDigit (ascii c mem)]
  rfl

theorem quiet_digits (before : Option Char) : quiet before ds = true := by
  induction ds generalizing before with
  | nil => rfl
  | cons c ds ih =>
    obtain ⟨digit, others⟩ := List.forall_mem_cons.mp ascii
    have silent : begins before c = false := by
      have other (d : Char) (letter : d.isDigit = false) : c ≠ d := by
        rintro rfl
        rw [letter] at digit
        cases digit
      simp [begins, other 'l' rfl, other 'p' rfl, other 't' rfl, other 'y' rfl]
    rw [quiet, silent, ih others]
    rfl

/-- A phrase has its only beginning at its first character. -/
theorem quiet_spelled {lead : String} (leading : lead ∈ openings) {u : String × Nat}
    (unit : u ∈ units) : ∃ c cs, spelled lead ds u.1 = c :: cs ∧ isBlank c = false ∧
      goesOn c = false ∧ quiet (some c) cs = true := by
  have letters : ∀ u ∈ units, quiet (some ' ') u.1.toList = true := by decide +kernel
  have behind (before : Option Char) : quiet before (' ' :: (ds ++ ' ' :: u.1.toList)) = true := by
    rw [quiet_space]
    apply quiet_append (quiet_digits ascii _)
    intro before
    rw [quiet_space, letters u unit]
  have front : quiet (some 'l') "ast".toList = true ∧ quiet (some 'p') "ast".toList = true := by
    decide +kernel
  simp only [openings, List.mem_cons, List.not_mem_nil, or_false] at leading
  rcases leading with rfl | rfl
  · exact ⟨'l', _, rfl, by decide +kernel, by decide +kernel, quiet_append front.1 behind⟩
  · exact ⟨'p', _, rfl, by decide +kernel, by decide +kernel, quiet_append front.2 behind⟩

include filled

theorem afterBlanks?_number (rest : List Char) :
    afterBlanks? (' ' :: (ds ++ rest)) = some (ds ++ rest) := by
  apply afterBlanks?_cons (by decide)
  intro c mem
  cases ds with
  | nil => exact absurd rfl filled
  | cons d ds => exact isBlank_of_ascii ascii c (by cases mem; exact List.mem_cons_self)

theorem Counted.number?_spelled {p : Counted} (listed : p ∈ counted) {u : String × Nat}
    (unit : u ∈ units) (rest : List Char) : p.number? (ds ++ ' ' :: (u.1.toList ++ rest)) =
      if p.unit.toList.isPrefixOf u.1.toList then some ds else none := by
  have stops : ∀ c ∈ (' ' :: (u.1.toList ++ rest)).head?, isDigit c = false := by
    rintro c ⟨⟩
    decide
  have digits : ds.takeWhile isDigit = ds := List.takeWhile_eq_self_iff.mpr (isDigit_of_ascii ascii)
  have left : ds.dropWhile isDigit = [] := List.dropWhile_eq_nil_iff.mpr (isDigit_of_ascii ascii)
  have blanks : afterBlanks? (' ' :: (u.1.toList ++ rest)) = some (u.1.toList ++ rest) := by
    have letters : ∀ u ∈ units, u.1.toList ≠ [] ∧ u.1.toList.head?.any isBlank = false := by
      decide +kernel
    apply afterBlanks?_cons (by decide)
    rw [List.head?_append_of_ne_nil _ (letters u unit).1]
    exact (Option.any_eq_false _ _).mp (letters u unit).2
  have found : (after? p.unit.toList (u.1.toList ++ rest)).isSome =
      p.unit.toList.isPrefixOf u.1.toList := by
    simp only [counted, List.mem_cons, List.not_mem_nil, or_false] at listed
    simp only [units, List.mem_cons, List.not_mem_nil, or_false] at unit
    rcases listed with rfl | rfl | rfl | rfl | rfl <;>
      rcases unit with rfl | rfl | rfl | rfl | rfl | rfl <;> rfl
  rw [number?, takeWhile_append stops, dropWhile_append stops, digits, left, List.nil_append,
    blanks, if_neg (by simpa using filled), Option.bind_some, ← found]
  cases after? p.unit.toList (u.1.toList ++ rest) <;> rfl

/-- A counted phrase is a number of its own units behind its own word. -/
theorem Counted.digits?_spelled {p : Counted} (listed : p ∈ counted) {lead : String}
    (leading : lead ∈ openings) {u : String × Nat} (unit : u ∈ units) (rest : List Char) :
    p.digits? (spelled lead ds u.1 ++ rest) =
      if p.lead = lead ∧ p.unit.toList.isPrefixOf u.1.toList = true then some ds else none := by
  have words : ∀ p ∈ counted, ∀ lead ∈ openings, p.lead.toList.length ≤ lead.toList.length ∧
      after? p.lead.toList lead.toList = if p.lead = lead then some [] else none := by
    decide +kernel
  obtain ⟨le, word⟩ := words p listed lead leading
  rw [digits?_eq, after?_spelled le, word]
  by_cases same : p.lead = lead
  · rw [if_pos same, Option.map_some, Option.bind_some, List.nil_append,
      afterBlanks?_number filled ascii, Option.bind_some,
      number?_spelled filled ascii listed unit]
    simp only [same, true_and]
  · rw [if_neg same, if_neg fun both => same both.1]
    rfl

/-- No fixed phrase has a number in it. -/
theorem Fixed.standsAt_spelled {p : Fixed} (listed : p ∈ fixed) {lead : String}
    (leading : lead ∈ openings) (unit : String) (rest : List Char) (before : Option Char) :
    p.standsAt before (spelled lead ds unit ++ rest) = none := by
  have words : ∀ p ∈ fixed, ∀ word ∈ p.leads, ∀ lead ∈ openings, word.toList ≠ [] ∧
      (word.toList.head? ≠ lead.toList.head? ∨ word = lead ∧
        ∃ u ∈ p.unit, u.toList ≠ [] ∧ u.toList.head?.any Char.isDigit = false) := by
    decide +kernel
  have whole : ∀ lead ∈ openings, lead.toList ≠ [] ∧ after? lead.toList lead.toList = some [] := by
    decide +kernel
  obtain ⟨lettered, word⟩ := whole lead leading
  apply standsAt_eq_none
  intro w mem
  obtain ⟨someWord, other | ⟨rfl, u, named, someUnit, letter⟩⟩ := words p listed w mem lead leading
  · apply rest?_of_after?
    apply after?_of_head?_ne someWord
    rwa [spelled, List.append_assoc, List.head?_append_of_ne_nil _ lettered]
  · have absent : after? u.toList (ds ++ ' ' :: (unit.toList ++ rest)) = none := by
      apply after?_of_head?_ne someUnit
      rw [List.head?_append_of_ne_nil _ filled]
      intro same
      have first := List.head?_eq_some_head someUnit
      have digit := ascii _ (List.mem_of_head? (same ▸ first))
      rw [(Option.any_eq_false _ _).mp letter _ first] at digit
      cases digit
    rw [rest?, named, after?_spelled (Nat.le_refl _), word, Option.map_some, Option.bind_some,
      List.nil_append, afterBlanks?_number filled ascii]
    exact absent

end

/-! ### Windows -/

/-- No phrase of time occurs. -/
structure Timeless (q : List Char) : Prop where
  counted : ∀ p ∈ counted, search (fun _ => p.digits?) none q = none
  fixed : ∀ p ∈ fixed, search p.standsAt none q = none

/-- A text between two others, with so many spaces before it and behind it. -/
def between (front : List Char) (i : Nat) (cs : List Char) (j : Nat) (back : List Char) :
    List Char :=
  front ++ (List.replicate i ' ' ++ (cs ++ (List.replicate j ' ' ++ back)))

/-- Texts without phrases, apart from what is between them. -/
structure Around (front : List Char) (i j : Nat) (back : List Char) : Prop where
  before : Timeless front
  behind : Timeless back
  apart : i = 0 → front = []
  apartToo : j = 0 → back = []

/-- Among texts without a phrase of the pattern, it is found where the number of units is. -/
theorem search_spelled {α : Type} {pattern : Option Char → List Char → Option α}
    (parted : Parted goesOn pattern)
    (silent : ∀ before c cs, begins before c = false → pattern before (c :: cs) = none)
    {front back : List Char} {i j : Nat} (around : Around front i j back)
    (before : search pattern none front = none) (behind : search pattern none back = none)
    {ds : List Char} (ascii : ∀ c ∈ ds, c.isDigit = true) {lead : String}
    (leading : lead ∈ openings) {u : String × Nat} (unit : u ∈ units) :
    search pattern none (between front i (spelled lead ds u.1) j back) =
      pattern none (spelled lead ds u.1 ++ (List.replicate j ' ' ++ back)) := by
  obtain ⟨c, cs, whole, text, apart, quietly⟩ := quiet_spelled ascii leading unit
  rw [between, whole]
  exact search_between parted silent before behind around.apart around.apartToo ⟨text, apart⟩
    quietly

theorem findSome?_if {α β : Type} (c : α → Bool) (b : β) (xs : List α) :
    (xs.findSome? fun x => (if c x then some b else none).map (x, ·)) =
      (xs.find? c).map (·, b) := by
  induction xs with
  | nil => rfl
  | cons x xs ih =>
    rw [List.findSome?_cons, List.find?_cons, ih]
    cases c x <;> rfl

/-- A number of days or of weeks makes the window, and one of months does behind "last". -/
theorem days_between {front back : List Char} {i j : Nat} (around : Around front i j back)
    {ds : List Char} (filled : ds ≠ []) (ascii : ∀ c ∈ ds, c.isDigit = true)
    (few : ds.length ≤ Json.maxDigits) {lead : String} (leading : lead ∈ openings)
    {u : String × Nat} (unit : u ∈ units) :
    days (between front i (spelled lead ds u.1) j back) =
      .ok (if lead = "past" ∧ u.2 = 30 then defaultDays
        else max (Nat.ofDigitChars 10 ds 0 * u.2) 1) := by
  have counts : (counted.findSome? fun p => (search (fun _ => p.digits?) none
      (between front i (spelled lead ds u.1) j back)).map (p, ·)) =
      (counted.find? fun p => decide (p.lead = lead ∧
        p.unit.toList.isPrefixOf u.1.toList = true)).map (·, ds) := by
    rw [← findSome?_if]
    apply findSome?_congr
    intro p mem
    have found := search_spelled (parted_of_counted mem) (silent_of_counted mem) around
      (around.before.counted p mem) (around.behind.counted p mem) ascii leading unit
    rw [found, Counted.digits?_spelled filled ascii mem leading unit]
    simp only [decide_eq_true_eq]
  have fixes : (fixed.find? fun p => (search p.standsAt none
      (between front i (spelled lead ds u.1) j back)).isSome) = none := by
    rw [List.find?_eq_none]
    intro p mem
    have found := search_spelled (parted_of_fixed mem) (silent_of_fixed mem) around
      (around.before.fixed p mem) (around.behind.fixed p mem) ascii leading unit
    rw [found, Fixed.standsAt_spelled filled ascii mem leading]
    exact Bool.false_ne_true
  have table : ∀ lead ∈ openings, ∀ u ∈ units, (counted.find? fun p => decide (p.lead = lead ∧
      p.unit.toList.isPrefixOf u.1.toList = true)).map (·.days) =
        if lead = "past" ∧ u.2 = 30 then none else some u.2 := by decide +kernel
  have entry := table lead leading u unit
  rw [days, counts, fixes]
  generalize (counted.find? _) = kind at entry ⊢
  by_cases pastMonths : lead = "past" ∧ u.2 = 30
  · rw [if_pos pastMonths] at entry ⊢
    rw [Option.map_eq_none_iff.mp entry]
    rfl
  · rw [if_neg pastMonths] at entry ⊢
    obtain ⟨p, rfl, same⟩ := Option.map_eq_some_iff.mp entry
    change (if Json.maxDigits < ds.length then _ else
      Except.ok (max (numberOf ds * p.days) 1)) = _
    rw [if_neg (Nat.not_lt.mpr few), numberOf_of_ascii ascii, same]

end Phrase

namespace Draft
open Text Phrase

/-- A question with a number of units in it, between two texts that spaces set apart. -/
def asking (front : String) (i : Nat) (lead digits unit : String) (j : Nat) (back : String) :
    String :=
  front ++ String.ofList (List.replicate i ' ') ++ (lead ++ " " ++ digits ++ " " ++ unit) ++
    String.ofList (List.replicate j ' ') ++ back

variable {front back digits : String} {i j : Nat}

theorem lower_asking (apart : i = 0 → front = "") (apartToo : j = 0 → back = "")
    (ascii : ∀ c ∈ digits.toList, c.isDigit = true) {lead : String} (leading : lead ∈ openings)
    {u : String × Nat} (unit : u ∈ units) :
    (lower (asking front i lead digits u.1 j back)).toList =
      between (lower front).toList i (spelled lead digits.toList u.1) j (lower back).toList := by
  have letters : (∀ lead ∈ openings, lead.toList.all Key.counts = true) ∧
      ∀ u ∈ units, u.1.toList.all Key.counts = true := by decide +kernel
  have small : ∀ c ∈ spelled lead digits.toList u.1, Key.counts c = true ∨ c = ' ' := by
    simp only [spelled, List.mem_append, List.mem_cons]
    rintro c (mem | rfl | mem | rfl | mem)
    · exact .inl (List.all_eq_true.mp (letters.1 lead leading) c mem)
    · exact .inr rfl
    · exact .inl (by rw [Key.counts, ascii c mem, Bool.or_true])
    · exact .inr rfl
    · exact .inl (List.all_eq_true.mp (letters.2 u unit) c mem)
  have empty {n : Nat} {s : String} (h : n = 0 → s = "") (zero : n = 0) : s.toList = [] := by
    rw [h zero]
    rfl
  have spread : (asking front i lead digits u.1 j back).toList =
      between front.toList i (spelled lead digits.toList u.1) j back.toList := by
    simp [asking, between, spelled]
  rw [lower, lower, lower, String.toList_ofList, String.toList_ofList, String.toList_ofList, spread,
    between, lowerFrom_spaces fun zero => .inl (empty apart zero),
    lowerFrom_spaces fun zero => .inr (empty apartToo zero), Key.lowerFrom_eq [] small]
  rfl

/-- A draft has the days of its question's phrase. -/
theorem exists_of_days {question : String} {n : Nat}
    (read : Phrase.days (lower question).toList = .ok n) :
    ∃ p, of question = .ok p ∧ p.days = n ∧
      Value.getD p.toFields "time_range" = .obj [("type", .str "last_n_days"), ("n", .nat n)] := by
  rw [← days_trimmed] at read
  rw [of_eq_ofWords, ofWords, wording, read]
  exact ⟨_, rfl, rfl, rfl⟩

/-- Among words that are no phrases of time, "last" with a number of units makes a window of that
many days, one at least. So does "past" with days or with weeks, but with months it makes the window
of a question without a phrase, which is the same for one month only. -/
theorem past_eq_last_iff (before : Timeless (lower front).toList)
    (behind : Timeless (lower back).toList) (apart : i = 0 → front = "")
    (apartToo : j = 0 → back = "") (filled : digits ≠ "")
    (ascii : ∀ c ∈ digits.toList, c.isDigit = true) (few : digits.length ≤ 4300) {unit : String}
    {days : Nat} (named : (unit, days) ∈ units) :
    ∃ last past, of (asking front i "last" digits unit j back) = .ok last ∧
      of (asking front i "past" digits unit j back) = .ok past ∧
      last.days = max (Nat.ofDigitChars 10 digits.toList 0 * days) 1 ∧
      past.days = (if days = 30 then 30 else last.days) ∧
      (Value.getD past.toFields "time_range" = Value.getD last.toFields "time_range" ↔
        (days = 30 → Nat.ofDigitChars 10 digits.toList 0 = 1)) := by
  have around : Around (lower front).toList i j (lower back).toList := by
    refine ⟨before, behind, fun zero => ?_, fun zero => ?_⟩
    · rw [apart zero]
      rfl
    · rw [apartToo zero]
      rfl
  have listed : digits.toList ≠ [] := by simpa using filled
  have read (lead : String) (leading : lead ∈ openings) :
      ∃ p n, of (asking front i lead digits unit j back) = .ok p ∧ p.days = n ∧
        Value.getD p.toFields "time_range" = .obj [("type", .str "last_n_days"), ("n", .nat n)] ∧
        n = if lead = "past" ∧ days = 30 then 30
          else max (Nat.ofDigitChars 10 digits.toList 0 * days) 1 := by
    have window := days_between around listed ascii few leading named
    rw [← lower_asking apart apartToo ascii leading named] at window
    obtain ⟨p, made, same, range⟩ := exists_of_days window
    exact ⟨p, _, made, same, range, rfl⟩
  obtain ⟨last, n, madeLast, rfl, lastRange, lastDays⟩ := read "last" (by decide)
  obtain ⟨past, n, madePast, rfl, pastRange, pastDays⟩ := read "past" (by decide)
  rw [if_neg fun both => absurd both.1 (by decide)] at lastDays
  simp only [true_and] at pastDays
  refine ⟨last, past, madeLast, madePast, lastDays, by rw [pastDays, lastDays], ?_⟩
  have level : Value.getD past.toFields "time_range" = Value.getD last.toFields "time_range" ↔
      past.days = last.days := by
    rw [pastRange, lastRange]
    simp [Value.nat]
  rw [level, pastDays, lastDays]
  by_cases months : days = 30
  · rw [if_pos months, months]
    simp only [true_implies]
    omega
  · simp [months]

/-- The last three months are ninety days, and the past three months are thirty. -/
theorem past_ne_last_months :
    Timeless (lower "Revenue").toList ∧ Timeless (lower "").toList ∧
      (∀ c ∈ "3".toList, c.isDigit = true) ∧ "3".length ≤ 4300 ∧ ("months", 30) ∈ units ∧
      asking "Revenue" 1 "past" "3" "months" 0 "" = "Revenue past 3 months" ∧
      ∃ last past, of (asking "Revenue" 1 "last" "3" "months" 0 "") = .ok last ∧
        of (asking "Revenue" 1 "past" "3" "months" 0 "") = .ok past ∧
        last.days = 90 ∧ past.days = 30 ∧
        Value.getD past.toFields "time_range" ≠ Value.getD last.toFields "time_range" := by
  have before : Timeless (lower "Revenue").toList := ⟨by decide +kernel, by decide +kernel⟩
  have behind : Timeless (lower "").toList := ⟨by decide +kernel, by decide +kernel⟩
  have ascii : ∀ c ∈ "3".toList, c.isDigit = true := List.all_eq_true.mp (by decide)
  have few : "3".length ≤ 4300 := by decide
  have named : ("months", 30) ∈ units := by decide
  have number : Nat.ofDigitChars 10 "3".toList 0 = 3 := by decide
  obtain ⟨last, past, madeLast, madePast, lastDays, pastDays, same⟩ :=
    past_eq_last_iff (i := 1) (j := 0) before behind (by decide) (by decide) (by decide) ascii few
      named
  rw [number] at lastDays same
  refine ⟨before, behind, ascii, few, named, by decide +kernel, last, past, madeLast, madePast,
    lastDays, pastDays, fun level => ?_⟩
  exact absurd (same.mp level rfl) (by decide)

end Draft
end MetricDesk
