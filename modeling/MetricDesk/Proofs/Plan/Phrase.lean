import Mathlib.Data.List.Find
import MetricDesk.Plan.Phrase
import MetricDesk.Proofs.Text.Scan

/-! Phrases of time in a text. Main statements: `parted_of_counted` and `parted_of_fixed`, no phrase
goes over a gap between two texts; and `search_between`, among texts without phrases one is found
where it begins. -/
namespace MetricDesk.Phrase
open Text

/-- What a phrase goes on with behind white space: a number, or the first letter of a unit. -/
def goesOn (c : Char) : Bool := isDigit c || ['d', 'w', 'm', 'q'].contains c

/-- A word, of word characters. -/
def IsWord (word : List Char) : Prop := word ≠ [] ∧ ∀ c ∈ word, isWordChar c = true

-- Over the word, since characters are finitely many too and would be tried one by one.
instance (word : List Char) : Decidable (IsWord word) :=
  decidable_of_iff (word ≠ [] ∧ word.all isWordChar = true)
    (and_congr_right fun _ => List.all_eq_true)

/-- A word that a phrase goes on with. -/
def IsUnit (word : List Char) : Prop := IsWord word ∧ ∀ c ∈ word.head?, goesOn c = true

instance (word : List Char) : Decidable (IsUnit word) :=
  decidable_of_iff (IsWord word ∧ word.head?.all goesOn = true)
    (and_congr_right fun _ => Option.all_eq_true _ _)

section
variable {word rest : List Char}

theorem IsWord.after?_blank (h : IsWord word) {c : Char} (blank : isBlank c = true)
    (cs : List Char) : after? word (c :: cs) = none := by
  apply after?_of_head?_ne h.1
  intro same
  have letter := h.2 c (List.mem_of_head? same)
  rw [(apart_of_isBlank blank).2] at letter
  cases letter

theorem IsWord.after?_gap (h : IsWord word) (gap : Gap goesOn rest) (cs : List Char) :
    after? word (cs ++ rest) = (after? word cs).map (· ++ rest) := by
  apply after?_append
  intro c mem there
  have letter := h.2 c there
  rw [(gap.ends c mem).2] at letter
  cases letter

/-- Nothing goes on behind a gap. -/
theorem IsUnit.after?_behind (h : IsUnit word) (gap : Gap goesOn rest) :
    after? word (rest.dropWhile isBlank) = none := by
  apply after?_of_head?_ne h.1.1
  intro same
  have first := List.head?_eq_some_head h.1.1
  have goes := h.2 _ first
  rw [gap.behind _ (same ▸ first)] at goes
  cases goes

end

/-! ### Counted phrases -/

namespace Counted

/-- The digits at the front, if the unit follows them. -/
def number? (p : Counted) (cs : List Char) : Option (List Char) :=
  if (cs.takeWhile isDigit).isEmpty then none
  else (afterBlanks? (cs.dropWhile isDigit)).bind fun unit =>
    (after? p.unit.toList unit).map fun _ => cs.takeWhile isDigit

theorem digits?_eq (p : Counted) (cs : List Char) :
    p.digits? cs =
      (after? p.lead.toList cs).bind fun rest => (afterBlanks? rest).bind p.number? := by
  unfold digits?
  cases after? p.lead.toList cs with
  | none => rfl
  | some rest => rfl

variable {p : Counted}

theorem number?_nil : p.number? [] = none := rfl

theorem number?_gap (unit : IsUnit p.unit.toList) {rest : List Char} (gap : Gap goesOn rest)
    (cs : List Char) : p.number? (cs ++ rest) = p.number? cs := by
  have stops : ∀ c ∈ rest.head?, isDigit c = false := fun c mem => (gap.ends c mem).1
  unfold number?
  rw [takeWhile_append stops, dropWhile_append stops]
  split
  · rfl
  · apply bind_afterBlanks?_append
    · rw [after?_nil unit.1.1, Option.map_none]
    · rw [unit.after?_behind gap, Option.map_none]
    · intro cs
      rw [unit.1.after?_gap gap, Option.map_map]
      rfl

theorem number?_behind {rest : List Char} (gap : Gap goesOn rest) :
    p.number? (rest.dropWhile isBlank) = none := by
  have behind := gap.behind
  generalize rest.dropWhile isBlank = left at behind
  unfold number?
  cases left with
  | nil => rfl
  | cons c cs =>
    have here := behind c rfl
    simp only [goesOn, Bool.or_eq_false_iff] at here
    rw [List.takeWhile_cons_of_neg (by simp [here.1])]
    rfl

theorem parted_digits? (lead : IsWord p.lead.toList) (unit : IsUnit p.unit.toList) :
    Parted goesOn fun _ => p.digits? where
  nothing := by
    intro before
    rw [digits?_eq, after?_nil lead.1, Option.bind_none]
  blank := by
    intro before c cs blank
    rw [digits?_eq, lead.after?_blank blank, Option.bind_none]
  fresh := fun _ _ => rfl
  gap := by
    intro rest gap before cs
    rw [digits?_eq, digits?_eq, lead.after?_gap gap, Option.bind_map]
    apply congrArg
    funext left
    exact bind_afterBlanks?_append number?_nil (number?_behind gap) (number?_gap unit gap) _

end Counted

/-! ### Fixed phrases -/

theorem endsWord_gap {rest : List Char} (gap : Gap goesOn rest) (cs : List Char) :
    endsWord (cs ++ rest) = endsWord cs := by
  cases cs with
  | cons c cs => rfl
  | nil =>
    cases rest with
    | nil => rfl
    | cons c rest => simp [endsWord, (gap.ends c rfl).2]

namespace Fixed

variable {p : Fixed}

/-- What follows a fixed phrase that begins with one of its words. -/
def rest? (p : Fixed) (lead : String) (cs : List Char) : Option (List Char) :=
  match p.unit with
  | none => after? lead.toList cs
  | some unit => ((after? lead.toList cs).bind afterBlanks?).bind (after? unit.toList)

/-- The phrase with one of its words, as a whole. -/
def follows (p : Fixed) (lead : String) (cs : List Char) : Bool :=
  ((p.rest? lead cs).map endsWord).any id

theorem standsAt_eq (p : Fixed) (before : Option Char) (cs : List Char) :
    p.standsAt before cs =
      if startsWord before && p.leads.any fun lead => p.follows lead cs then some () else none := by
  simp only [follows, Option.any_map]
  rfl

theorem standsAt_eq_none {before : Option Char} {cs : List Char}
    (absent : ∀ lead ∈ p.leads, p.rest? lead cs = none) : p.standsAt before cs = none := by
  have silent : (p.leads.any fun lead => p.follows lead cs) = false := by
    rw [List.any_eq_false]
    intro lead mem
    rw [follows, absent lead mem]
    exact Bool.false_ne_true
  rw [standsAt_eq, silent, Bool.and_false]
  rfl

theorem rest?_of_after? {lead : String} {cs : List Char} (absent : after? lead.toList cs = none) :
    p.rest? lead cs = none := by
  unfold rest?
  rw [absent]
  cases p.unit <;> rfl

theorem rest?_gap {lead : String} (word : IsWord lead.toList)
    (unit : ∀ u ∈ p.unit, IsUnit u.toList) {rest : List Char} (gap : Gap goesOn rest)
    (cs : List Char) :
    (p.rest? lead (cs ++ rest)).map endsWord = (p.rest? lead cs).map endsWord := by
  have ends : endsWord ∘ (· ++ rest) = endsWord := funext (endsWord_gap gap)
  unfold rest?
  rw [word.after?_gap gap]
  cases named : p.unit with
  | none => simp only [Option.map_map, ends]
  | some u =>
    have isUnit := unit u named
    cases after? lead.toList cs with
    | none => rfl
    | some left =>
      simp only [Option.map_some, Option.bind_some, Option.map_bind]
      apply bind_afterBlanks?_append
      · rw [Function.comp, after?_nil isUnit.1.1, Option.map_none]
      · rw [Function.comp, isUnit.after?_behind gap, Option.map_none]
      · intro cs
        rw [Function.comp, Function.comp, isUnit.1.after?_gap gap, Option.map_map, ends]

theorem parted_standsAt (leads : ∀ lead ∈ p.leads, IsWord lead.toList)
    (unit : ∀ u ∈ p.unit, IsUnit u.toList) : Parted goesOn p.standsAt where
  nothing := fun before =>
    standsAt_eq_none fun lead mem => rest?_of_after? (after?_nil (leads lead mem).1)
  blank := fun before c cs blank =>
    standsAt_eq_none fun lead mem => rest?_of_after? ((leads lead mem).after?_blank blank cs)
  fresh := by
    intro c cs blank
    have starts : startsWord (some c) = startsWord none := by
      simp [startsWord, (apart_of_isBlank blank).2]
    rw [standsAt_eq, standsAt_eq, starts]
  gap := by
    intro rest gap before cs
    have same : (p.leads.any fun lead => p.follows lead (cs ++ rest)) =
        p.leads.any fun lead => p.follows lead cs := by
      rw [Bool.eq_iff_iff, List.any_eq_true, List.any_eq_true]
      refine exists_congr fun lead => and_congr_right fun mem => ?_
      rw [follows, rest?_gap (leads lead mem) unit gap, follows]
    rw [standsAt_eq, standsAt_eq, same]

end Fixed

/-! ### A phrase among other words -/

theorem isBlank_spaces (n : Nat) : ∀ c ∈ List.replicate n ' ', isBlank c = true := by
  intro c mem
  rw [List.eq_of_mem_replicate mem]
  decide

/-- A phrase may begin with the character. -/
def begins (before : Option Char) (c : Char) : Bool :=
  ['l', 'p'].contains c || ['t', 'y'].contains c && startsWord before

/-- No phrase begins in the text. -/
def quiet (before : Option Char) : List Char → Bool
  | [] => true
  | c :: cs => !begins before c && quiet (some c) cs

theorem quiet_space (before : Option Char) (cs : List Char) :
    quiet before (' ' :: cs) = quiet (some ' ') cs := by
  have silent : begins before ' ' = false := by simp [begins]
  rw [quiet, silent]
  rfl

theorem quiet_append {before : Option Char} {cs rest : List Char}
    (front : quiet before cs = true) (back : ∀ before, quiet before rest = true) :
    quiet before (cs ++ rest) = true := by
  induction cs generalizing before with
  | nil => exact back before
  | cons c cs ih =>
    rw [quiet, Bool.and_eq_true] at front
    rw [List.cons_append, quiet, front.1, ih front.2]
    rfl

section
variable {α : Type} {pattern : Option Char → List Char → Option α}

theorem search_quiet
    (silent : ∀ before c cs, begins before c = false → pattern before (c :: cs) = none)
    {before : Option Char} {cs : List Char} (h : quiet before cs = true) :
    ∃ last, ∀ rest, search pattern before (cs ++ rest) = search pattern last rest := by
  induction cs generalizing before with
  | nil => exact ⟨before, fun rest => rfl⟩
  | cons c cs ih =>
    simp only [quiet, Bool.and_eq_true, Bool.not_eq_true'] at h
    obtain ⟨last, others⟩ := ih h.2
    refine ⟨last, fun rest => ?_⟩
    rw [List.cons_append, search, silent before c _ h.1, Option.orElse_none, others]

variable {front back : List Char} {i j : Nat} {c : Char} {cs : List Char}

/-- Between texts in which nothing is found only the first character of a phrase counts. -/
theorem search_between (parted : Parted goesOn pattern)
    (silent : ∀ before c cs, begins before c = false → pattern before (c :: cs) = none)
    (before : search pattern none front = none) (behind : search pattern none back = none)
    (apart : i = 0 → front = []) (apartToo : j = 0 → back = [])
    (first : isBlank c = false ∧ goesOn c = false) (h : quiet (some c) cs = true) :
    search pattern none (front ++ (List.replicate i ' ' ++
        (c :: cs ++ (List.replicate j ' ' ++ back)))) =
      pattern none (c :: cs ++ (List.replicate j ' ' ++ back)) := by
  generalize tail : c :: cs ++ (List.replicate j ' ' ++ back) = phrase
  have ahead : search pattern none (front ++ (List.replicate i ' ' ++ phrase)) =
      search pattern none phrase := by
    by_cases none : i = 0
    · rw [apart none, none]
      rfl
    · have gap : Gap goesOn (List.replicate i ' ' ++ phrase) := by
        refine ⟨?_, ?_⟩
        · intro c mem
          cases i with
          | zero => exact absurd rfl none
          | succ i =>
            cases mem
            decide
        · rw [List.dropWhile_append_of_pos (isBlank_spaces i), ← tail, List.cons_append,
            List.dropWhile_cons_of_neg (by simp [first.1])]
          rintro _ ⟨⟩
          exact first.2
      rw [parted.search_append gap, before, Option.none_or, parted.search_blanks (isBlank_spaces i)]
  have after (last : Option Char) : search pattern last (List.replicate j ' ' ++ back) = none := by
    have absent (before : Option Char) :
        pattern before (List.replicate j ' ' ++ back) = none := by
      cases j with
      | zero =>
        rw [apartToo rfl]
        exact parted.nothing before
      | succ j => exact parted.blank before _ (by decide)
    rw [Parted.search_before absent, parted.search_blanks (isBlank_spaces j), behind]
  obtain ⟨last, skipped⟩ := search_quiet silent h
  rw [ahead, ← tail, List.cons_append, search, skipped, after]
  cases pattern none _ <;> rfl

end

/-! ### The phrases that are looked for -/

theorem parted_of_counted {p : Counted} (listed : p ∈ counted) :
    Parted goesOn fun _ => p.digits? := by
  have words : ∀ p ∈ counted, IsWord p.lead.toList ∧ IsUnit p.unit.toList := by decide +kernel
  exact Counted.parted_digits? (words p listed).1 (words p listed).2

theorem parted_of_fixed {p : Fixed} (listed : p ∈ fixed) : Parted goesOn p.standsAt := by
  have words : ∀ p ∈ fixed, (∀ lead ∈ p.leads, IsWord lead.toList) ∧
      ∀ u ∈ p.unit, IsUnit u.toList := by decide +kernel
  exact Fixed.parted_standsAt (words p listed).1 (words p listed).2

theorem silent_of_counted {p : Counted} (listed : p ∈ counted) (before : Option Char) (c : Char)
    (cs : List Char) (h : begins before c = false) : p.digits? (c :: cs) = none := by
  have first : ∀ p ∈ counted, p.lead.toList ≠ [] ∧
      p.lead.toList.head?.all ['l', 'p'].contains = true := by decide +kernel
  obtain ⟨some, letter⟩ := first p listed
  have absent : after? p.lead.toList (c :: cs) = none := by
    apply after?_of_head?_ne some
    intro same
    rw [begins, (Option.all_eq_true _ _).mp letter c same] at h
    cases h
  rw [Counted.digits?_eq, absent, Option.bind_none]

theorem silent_of_fixed {p : Fixed} (listed : p ∈ fixed) (before : Option Char) (c : Char)
    (cs : List Char) (h : begins before c = false) : p.standsAt before (c :: cs) = none := by
  have first : ∀ p ∈ fixed, ∀ lead ∈ p.leads, lead.toList ≠ [] ∧
      lead.toList.head?.all (begins none) = true := by decide +kernel
  cases starts : startsWord before with
  | false =>
    rw [Fixed.standsAt_eq, starts]
    rfl
  | true =>
    apply Fixed.standsAt_eq_none
    intro lead mem
    obtain ⟨some, letter⟩ := first p listed lead mem
    apply Fixed.rest?_of_after?
    apply after?_of_head?_ne some
    intro same
    have fresh : begins before c = begins none c := by
      rw [begins, starts]
      rfl
    rw [fresh, (Option.all_eq_true _ _).mp letter c same] at h
    cases h

theorem findSome?_congr {α β : Type} {f g : α → Option β} {xs : List α}
    (same : ∀ x ∈ xs, f x = g x) : xs.findSome? f = xs.findSome? g := by
  induction xs with
  | nil => rfl
  | cons x xs ih =>
    obtain ⟨here, there⟩ := List.forall_mem_cons.mp same
    rw [List.findSome?_cons, List.findSome?_cons, here, ih there]

/-- Two texts in which the same phrases are found ask for the same window. -/
theorem days_congr {q other : List Char}
    (counts : ∀ p ∈ counted, search (fun _ => p.digits?) none q =
      search (fun _ => p.digits?) none other)
    (fixes : ∀ p ∈ fixed, search p.standsAt none q = search p.standsAt none other) :
    days q = days other := by
  have first : (counted.findSome? fun p => (search (fun _ => p.digits?) none q).map (p, ·)) =
      counted.findSome? fun p => (search (fun _ => p.digits?) none other).map (p, ·) := by
    apply findSome?_congr
    intro p mem
    rw [counts p mem]
  have second : (fixed.find? fun p => (search p.standsAt none q).isSome) =
      fixed.find? fun p => (search p.standsAt none other).isSome := by
    apply List.find?_congr
    intro p mem
    rw [fixes p mem]
  rw [days, first, second]
  rfl

/-- White space around a question does not matter. -/
theorem days_trimmed (q : List Char) : days (trimmed q) = days q :=
  days_congr (fun _ mem => (parted_of_counted mem).search_trimmed q) fun _ mem =>
    (parted_of_fixed mem).search_trimmed q

end MetricDesk.Phrase
