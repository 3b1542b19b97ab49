import Mathlib.Data.List.DropRight
import Mathlib.Data.List.Infix
import MetricDesk.Plan.Reply

/-! Fenced blocks in a reply. Main statements: `upToFence?_append`, what is read up to the first
closing fence; and `body_eq_trimmed_iff` and `encloses_body`, a reply is read as it stands unless
two fences follow one another in it, and else only what stands in a block. -/
namespace MetricDesk

namespace Text

/-- A part that begins with a text character outlasts the white space in front. -/
theorem infix_dropWhile {c : Char} {part cs : List Char} (text : isBlank c = false)
    (within : c :: part <:+: cs) : c :: part <:+: cs.dropWhile isBlank := by
  obtain ⟨front, back, rfl⟩ := within
  rw [List.append_assoc, List.dropWhile_append]
  split
  · rw [List.cons_append, List.dropWhile_cons_of_neg (by simp [text])]
    exact (List.prefix_append _ _).isInfix
  · exact ⟨front.dropWhile isBlank, back, by rw [List.append_assoc]⟩

/-- A part between two text characters is not trimmed. -/
theorem infix_trimmed {c d : Char} {part cs : List Char} (first : isBlank c = false)
    (last : isBlank d = false) (within : c :: (part ++ [d]) <:+: cs) :
    c :: (part ++ [d]) <:+: trimmed cs := by
  have front := List.reverse_infix.mpr (infix_dropWhile first within)
  rw [List.reverse_cons, List.reverse_append, List.reverse_singleton, List.singleton_append,
    List.cons_append] at front
  have back := List.reverse_infix.mpr (infix_dropWhile last front)
  simpa [trimmed] using back

/-- A part without a character stands on one side of it. -/
theorem infix_of_apart {c : Char} {part front back : List Char} (apart : c ∉ part)
    (within : part <:+: front ++ c :: back) : part <:+: front ∨ part <:+: back := by
  obtain ⟨before, behind, same⟩ := within
  rw [List.append_assoc] at same
  rcases List.append_eq_append_iff.mp same with ⟨middle, rfl, split⟩ | ⟨middle, rfl, split⟩
  · rcases List.append_eq_append_iff.mp split with ⟨rest, rfl, -⟩ | ⟨rest, rfl, split'⟩
    · exact Or.inl ⟨before, rest, List.append_assoc _ _ _⟩
    · cases rest with
      | nil => exact Or.inl ⟨before, [], by simp⟩
      | cons d rest =>
        obtain ⟨rfl, -⟩ := List.cons.inj split'
        exact absurd (by simp) apart
  · cases middle with
    | nil =>
      cases part with
      | nil => exact Or.inl (List.nil_infix)
      | cons d part =>
        obtain ⟨rfl, -⟩ := List.cons.inj split
        exact absurd List.mem_cons_self apart
    | cons d middle =>
      obtain ⟨-, rfl⟩ := List.cons.inj split
      exact Or.inr ⟨middle, behind, List.append_assoc _ _ _⟩

theorem rdropWhile_cons {c : Char} {cs : List Char} (some : ¬ ∀ d ∈ c :: cs, isBlank d = true) :
    (c :: cs).rdropWhile isBlank = c :: cs.rdropWhile isBlank := by
  rw [List.rdropWhile, List.reverse_cons, List.dropWhile_append]
  split
  · next none =>
    have blanks : ∀ d ∈ cs, isBlank d = true := by
      simpa [List.isEmpty_iff, List.dropWhile_eq_nil_iff] using none
    have text : ¬ isBlank c = true := fun blank => some (List.forall_mem_cons.mpr ⟨blank, blanks⟩)
    rw [List.dropWhile_cons_of_neg text, List.rdropWhile_eq_nil_iff.mpr blanks]
    rfl
  · rw [List.reverse_append]
    rfl

end Text

namespace Reply
open Text

theorem isBlank_tick : isBlank '\x60' = false := by decide

/-- No white space stands in front of a fence at the front. -/
theorem dropWhile_of_fence {cs : List Char} (opens : fence <+: cs) :
    cs.dropWhile isBlank = cs := by
  obtain ⟨rest, rfl⟩ := opens
  rfl

/-! ### The closing fence -/

/-- White space and a fence behind it stand at the front. -/
def Closes (cs : List Char) : Prop := fence <+: cs.dropWhile isBlank

theorem upToFence?_of_closes {cs : List Char} (closes : Closes cs) : upToFence? cs = some [] := by
  cases cs with
  | nil => exact absurd closes (by simp [Closes, fence])
  | cons c cs => rw [upToFence?, if_pos (List.isPrefixOf_iff_prefix.mpr closes)]

theorem upToFence?_cons {c : Char} {cs : List Char} (further : ¬ Closes (c :: cs)) :
    upToFence? (c :: cs) = (upToFence? cs).map (c :: ·) := by
  rw [upToFence?, if_neg fun closes => further (List.isPrefixOf_iff_prefix.mp closes)]

theorem upToFence?_eq_none_iff {cs : List Char} : upToFence? cs = none ↔ ¬ fence <:+: cs := by
  induction cs with
  | nil => simp [upToFence?, fence]
  | cons c cs ih =>
    by_cases closes : Closes (c :: cs)
    · have within : fence <:+: c :: cs :=
        closes.isInfix.trans (List.dropWhile_suffix isBlank).isInfix
      simp [upToFence?_of_closes closes, within]
    · have notHere : ¬ fence <+: c :: cs := by
        intro here
        rw [Closes, dropWhile_of_fence here] at closes
        exact closes here
      rw [upToFence?_cons closes, Option.map_eq_none_iff, ih, List.infix_cons_iff,
        or_iff_right notHere]

/-- White space and the first fence behind a text. -/
structure Ending (inside w : List Char) : Prop where
  blank : ∀ c ∈ w, isBlank c = true
  first : ¬ fence <:+: inside ++ (w ++ ['\x60', '\x60'])

/-- Two back-quotes are no fence. -/
theorem not_fence_of_plain {cs : List Char} (plain : '\x60' ∉ cs) :
    ¬ fence <:+: cs ++ ['\x60', '\x60'] := by
  intro within
  have count := within.sublist.count_le '\x60'
  rw [List.count_append, List.count_eq_zero.mpr plain] at count
  exact absurd count (by decide)

theorem not_mem_of_blank {w : List Char} (blank : ∀ c ∈ w, isBlank c = true) : '\x60' ∉ w :=
  fun mem => absurd (blank _ mem) (by decide)

theorem Ending.tail {c : Char} {inside w : List Char} (h : Ending (c :: inside) w) :
    Ending inside w :=
  ⟨h.blank, fun within => h.first (List.infix_cons within)⟩

/-- A fence begins in a text exactly where it does so with two of the back-quotes behind it. -/
theorem prefix_closing_iff {c : Char} {inside w back : List Char} :
    fence <+: c :: (inside ++ (w ++ (fence ++ back))) ↔
      fence <+: c :: (inside ++ (w ++ ['\x60', '\x60'])) := by
  have whole : c :: (inside ++ (w ++ ['\x60', '\x60'])) <+:
      c :: (inside ++ (w ++ (fence ++ back))) := ⟨'\x60' :: back, by simp [fence]⟩
  constructor
  · exact fun here => List.prefix_of_prefix_length_le here whole (by simp [fence]; omega)
  · exact fun here => here.trans whole

/-- Up to the first closing fence a text is read without the white space at its end. -/
theorem upToFence?_append {inside w back : List Char} (h : Ending inside w) :
    upToFence? (inside ++ (w ++ (fence ++ back))) = some (inside.rdropWhile isBlank) := by
  induction inside with
  | nil =>
    apply upToFence?_of_closes
    rw [Closes, List.nil_append, List.dropWhile_append_of_pos h.blank,
      dropWhile_of_fence (List.prefix_append _ _)]
    exact List.prefix_append _ _
  | cons c inside ih =>
    by_cases all : ∀ d ∈ c :: inside, isBlank d = true
    · rw [List.rdropWhile_eq_nil_iff.mpr all]
      apply upToFence?_of_closes
      rw [Closes, List.dropWhile_append_of_pos all, List.dropWhile_append_of_pos h.blank,
        dropWhile_of_fence (List.prefix_append _ _)]
      exact List.prefix_append _ _
    · -- The text that is left would begin with a fence, in front of the one that closes.
      have further : ¬ Closes (c :: (inside ++ (w ++ (fence ++ back)))) := by
        intro closes
        rw [Closes, ← List.cons_append, List.dropWhile_append, if_neg] at closes
        · have text : (c :: inside).dropWhile isBlank ≠ [] := by
            simpa [List.dropWhile_eq_nil_iff] using all
          obtain ⟨e, rest, split⟩ := List.exists_cons_of_ne_nil text
          have within : e :: rest <:+ c :: inside := split ▸ List.dropWhile_suffix isBlank
          rw [split, List.cons_append] at closes
          refine h.first ((prefix_closing_iff.mp closes).isInfix.trans ?_)
          exact (List.suffix_append_self_iff.mpr within).isInfix
        · simpa [List.isEmpty_iff, List.dropWhile_eq_nil_iff] using all
      rw [rdropWhile_cons all, List.cons_append, upToFence?_cons further, ih h.tail]
      rfl

/-- What is read up to a closing fence has it behind. -/
theorem ending_of_upToFence? {cs inside : List Char} (h : upToFence? cs = some inside) :
    ∃ w back, Ending inside w ∧ cs = inside ++ (w ++ (fence ++ back)) := by
  induction cs generalizing inside with
  | nil => cases h
  | cons c cs ih =>
    by_cases closes : Closes (c :: cs)
    · rw [upToFence?_of_closes closes] at h
      obtain rfl := Option.some.inj h
      obtain ⟨back, rest⟩ := closes
      have split := List.takeWhile_append_dropWhile (p := isBlank) (l := c :: cs)
      rw [← rest] at split
      have blank : ∀ d ∈ (c :: cs).takeWhile isBlank, isBlank d = true :=
        fun d mem => List.mem_takeWhile_imp mem
      exact ⟨_, back, ⟨blank, not_fence_of_plain (not_mem_of_blank blank)⟩, split.symm⟩
    · rw [upToFence?_cons closes] at h
      obtain ⟨more, found, rfl⟩ := Option.map_eq_some_iff.mp h
      obtain ⟨w, back, ending, rfl⟩ := ih found
      refine ⟨w, back, ⟨ending.blank, ?_⟩, rfl⟩
      rw [List.cons_append, List.infix_cons_iff]
      rintro (here | later)
      · have here : fence <+: c :: (more ++ (w ++ (fence ++ back))) := prefix_closing_iff.mpr here
        exact closes (by rwa [Closes, dropWhile_of_fence here])
      · exact ending.first later

/-! ### The opening fence -/

theorem afterFence?_eq_some {cs rest : List Char} :
    afterFence? cs = some rest ↔ cs = fence ++ rest := by
  unfold afterFence?
  by_cases opens : fence <+: cs
  · rw [if_pos (List.isPrefixOf_iff_prefix.mpr opens)]
    obtain ⟨behind, rfl⟩ := opens
    simp [fence]
  · rw [if_neg fun found => opens (List.isPrefixOf_iff_prefix.mp found)]
    refine iff_of_false (by rintro ⟨⟩) ?_
    rintro rfl
    exact opens (List.prefix_append fence rest)

/-- Letters that stand for others, each for one of its choices. -/
abbrev Matches (letters : List Char) (choices : List (List Char)) : Prop :=
  List.Forall₂ (fun c choices => c ∈ choices) letters choices

theorem afterLabel?_eq_some {choices : List (List Char)} {cs rest : List Char} :
    afterLabel? choices cs = some rest ↔
      ∃ letters, Matches letters choices ∧ cs = letters ++ rest := by
  induction choices generalizing cs with
  | nil =>
    rw [afterLabel?, Option.some.injEq]
    constructor
    · rintro rfl
      exact ⟨[], .nil, rfl⟩
    · rintro ⟨_, ⟨⟩, rfl⟩
      rfl
  | cons first more ih =>
    cases cs with
    | nil =>
      refine iff_of_false (by rintro ⟨⟩) ?_
      rintro ⟨_, ⟨⟩, ⟨⟩⟩
    | cons c cs =>
      rw [afterLabel?]
      by_cases mem : c ∈ first
      · rw [if_pos (List.contains_iff_mem.mpr mem), ih]
        constructor
        · rintro ⟨letters, matched, rfl⟩
          exact ⟨c :: letters, .cons mem matched, rfl⟩
        · rintro ⟨_, ⟨⟩, same⟩
          next matched =>
          obtain ⟨rfl, rfl⟩ := List.cons.inj same
          exact ⟨_, matched, rfl⟩
      · rw [if_neg fun found => mem (List.contains_iff_mem.mp found)]
        refine iff_of_false (by rintro ⟨⟩) ?_
        rintro ⟨_, ⟨⟩, same⟩
        next here _ =>
        obtain ⟨rfl, -⟩ := List.cons.inj same
        exact mem here

/-- A fence, with the label behind it if there has to be one. -/
inductive Opening : Bool → List Char → Prop
  | plain : Opening false fence
  | labelled {letters : List Char} : Matches letters label → Opening true (fence ++ letters)

theorem blockHere?_eq_some {labelled : Bool} {cs inside : List Char} :
    blockHere? labelled cs = some inside ↔ ∃ opening rest, Opening labelled opening ∧
      cs = opening ++ rest ∧ upToFence? (rest.dropWhile isBlank) = some inside := by
  cases labelled with
  | false =>
    simp only [blockHere?, bind, Option.bind_eq_some_iff, afterFence?_eq_some, Bool.false_eq_true,
      if_false, Option.some.injEq]
    constructor
    · rintro ⟨rest, rfl, _, rfl, found⟩
      exact ⟨fence, rest, .plain, rfl, found⟩
    · rintro ⟨_, rest, ⟨⟩, rfl, found⟩
      exact ⟨rest, rfl, rest, rfl, found⟩
  | true =>
    simp only [blockHere?, bind, Option.bind_eq_some_iff, afterFence?_eq_some, if_true,
      afterLabel?_eq_some]
    constructor
    · rintro ⟨_, rfl, rest, ⟨letters, matched, rfl⟩, found⟩
      exact ⟨fence ++ letters, rest, .labelled matched, (List.append_assoc _ _ _).symm, found⟩
    · rintro ⟨_, rest, ⟨⟩, rfl, found⟩
      next letters matched =>
      exact ⟨letters ++ rest, List.append_assoc _ _ _, rest, ⟨letters, matched, rfl⟩, found⟩

/-! ### Blocks -/

theorem Opening.starts {labelled : Bool} {opening : List Char}
    (h : Opening labelled opening) : ∃ letters, opening = fence ++ letters := by
  cases h with
  | plain => exact ⟨[], rfl⟩
  | labelled => exact ⟨_, rfl⟩

/-- Two fences that follow one another. -/
def Fenced (cs : List Char) : Prop :=
  ∃ front between back, cs = front ++ (fence ++ (between ++ (fence ++ back)))

/-- A part of a text stands in a block: behind a fence and its label, if it has one, and in front
of the next fence, white space aside. -/
def Encloses (cs inside : List Char) : Prop :=
  ∃ front labelled opening w w' back, Opening labelled opening ∧ (∀ c ∈ w, isBlank c = true) ∧
    Ending inside w' ∧ cs = front ++ (opening ++ (w ++ (inside ++ (w' ++ (fence ++ back)))))

theorem encloses_of_blockHere? {labelled : Bool} {cs inside : List Char}
    (h : blockHere? labelled cs = some inside) : Encloses cs inside := by
  obtain ⟨opening, rest, opens, rfl, found⟩ := blockHere?_eq_some.mp h
  obtain ⟨w', back, ending, split⟩ := ending_of_upToFence? found
  refine ⟨[], labelled, opening, rest.takeWhile isBlank, w', back, opens,
    fun c mem => List.mem_takeWhile_imp mem, ending, ?_⟩
  rw [List.nil_append, ← split, List.takeWhile_append_dropWhile]

theorem Encloses.cons {c : Char} {cs inside : List Char} (h : Encloses cs inside) :
    Encloses (c :: cs) inside := by
  obtain ⟨front, labelled, opening, w, w', back, opens, blank, ending, rfl⟩ := h
  exact ⟨c :: front, labelled, opening, w, w', back, opens, blank, ending, rfl⟩

/-- The contents of a block that is found stand in one. -/
theorem encloses_of_block? {labelled : Bool} {cs inside : List Char}
    (h : block? labelled cs = some inside) : Encloses cs inside := by
  induction cs with
  | nil => cases h
  | cons c cs ih =>
    rw [block?, Option.orElse_eq_or, Option.or_eq_some_iff] at h
    rcases h with here | ⟨-, later⟩
    · exact encloses_of_blockHere? here
    · exact (ih later).cons

theorem Encloses.fenced {cs inside : List Char} (h : Encloses cs inside) : Fenced cs := by
  obtain ⟨front, labelled, opening, w, w', back, opens, -, -, rfl⟩ := h
  obtain ⟨letters, rfl⟩ := opens.starts
  exact ⟨front, letters ++ (w ++ (inside ++ w')), back, by simp only [List.append_assoc]⟩

/-- What stands in a block is shorter than the text by two fences. -/
theorem Encloses.length_lt {cs inside : List Char} (h : Encloses cs inside) :
    inside.length < (trimmed cs).length := by
  obtain ⟨front, labelled, opening, w, w', back, opens, -, -, rfl⟩ := h
  obtain ⟨letters, rfl⟩ := opens.starts
  have within : '\x60' :: ((['\x60', '\x60'] ++ (letters ++ (w ++ (inside ++ (w' ++
      ['\x60', '\x60']))))) ++ ['\x60']) <:+:
      front ++ (fence ++ letters ++ (w ++ (inside ++ (w' ++ (fence ++ back))))) :=
    ⟨front, back, by simp [fence]⟩
  have shorter := (infix_trimmed isBlank_tick isBlank_tick within).length_le
  simp only [List.length_cons, List.length_append] at shorter
  omega

theorem block?_cons_of_none {labelled : Bool} {c : Char} {cs : List Char}
    (h : blockHere? labelled (c :: cs) = none) :
    block? labelled (c :: cs) = block? labelled cs := by
  rw [block?, h]
  rfl

/-- A fence that begins in a text does so with back-quotes alone behind it. -/
theorem prefix_ticks {c : Char} {cs back : List Char} (h : fence <+: c :: (cs ++ back)) :
    fence <+: c :: (cs ++ ['\x60', '\x60']) := by
  match cs with
  | [] =>
    simp only [fence, List.nil_append, List.cons_prefix_cons] at h ⊢
    exact ⟨h.1, by simp⟩
  | [d] =>
    simp only [fence, List.cons_append, List.nil_append, List.cons_prefix_cons] at h ⊢
    exact ⟨h.1, h.2.1, by simp⟩
  | d :: e :: more => simpa [fence] using h

/-- No block opens in a text without a fence, whatever follows it. -/
theorem block?_append {labelled : Bool} {front back : List Char}
    (unfenced : ¬ fence <:+: front ++ ['\x60', '\x60']) :
    block? labelled (front ++ back) = block? labelled back := by
  induction front with
  | nil => rfl
  | cons c front ih =>
    have here : blockHere? labelled (c :: (front ++ back)) = none := by
      rw [Option.eq_none_iff_forall_ne_some]
      intro inside found
      obtain ⟨opening, rest, opens, same, -⟩ := blockHere?_eq_some.mp found
      obtain ⟨letters, rfl⟩ := opens.starts
      have starts : fence <+: c :: (front ++ back) :=
        ⟨letters ++ rest, by rw [same, List.append_assoc]⟩
      exact unfenced (prefix_ticks starts).isInfix
    rw [List.cons_append, block?_cons_of_none here,
      ih fun within => unfenced (List.infix_cons within)]

/-- One fence alone opens no block. -/
theorem block?_of_plain {labelled : Bool} {cs : List Char} (plain : '\x60' ∉ cs) :
    block? labelled (fence ++ cs) = none := by
  rw [Option.eq_none_iff_forall_ne_some]
  intro inside found
  obtain ⟨front, between, back, same⟩ := (encloses_of_block? found).fenced
  have count := congrArg (List.count '\x60') same
  have three : fence.count '\x60' = 3 := rfl
  simp only [List.count_append, List.count_eq_zero.mpr plain, three] at count
  omega

/-- A fence opens no labelled block where no label begins behind it. -/
theorem blockHere?_unlabelled {c : Char} {cs : List Char} (unlabelled : c ∉ ['j', 'J']) :
    blockHere? true (fence ++ c :: cs) = none := by
  rw [Option.eq_none_iff_forall_ne_some]
  intro inside found
  obtain ⟨_, rest, opens, same, -⟩ := blockHere?_eq_some.mp found
  cases opens with
  | labelled matched =>
    rw [List.append_assoc] at same
    cases matched with
    | cons first =>
      obtain ⟨rfl, -⟩ := List.cons.inj (List.append_cancel_left same)
      exact unlabelled first

/-- Whatever is found of a block at the front is found. -/
theorem block?_of_here {labelled : Bool} {cs inside : List Char}
    (h : blockHere? labelled cs = some inside) : block? labelled cs = some inside := by
  cases cs with
  | nil =>
    obtain ⟨opening, rest, opens, same, -⟩ := blockHere?_eq_some.mp h
    obtain ⟨letters, rfl⟩ := opens.starts
    cases same
  | cons c cs => rw [block?, h]; rfl

theorem block?_isSome_of_fenced {cs : List Char} (h : Fenced cs) :
    (block? false cs).isSome = true := by
  obtain ⟨front, between, back, rfl⟩ := h
  induction front with
  | nil =>
    have closed : fence <:+: (between ++ (fence ++ back)).dropWhile isBlank :=
      infix_dropWhile isBlank_tick ⟨between, back, by rw [List.append_assoc]; rfl⟩
    cases found : upToFence? ((between ++ (fence ++ back)).dropWhile isBlank) with
    | none => exact absurd closed (upToFence?_eq_none_iff.mp found)
    | some inside =>
      rw [List.nil_append,
        block?_of_here (blockHere?_eq_some.mpr ⟨fence, _, .plain, rfl, found⟩)]
      rfl
  | cons c front ih =>
    rw [List.cons_append, block?, Option.orElse_eq_or, Option.isSome_or, ih, Bool.or_true]

/-! ### What is read -/

/-- Without two fences that follow one another a reply is read as it stands. -/
theorem body_of_plain {cs : List Char} (plain : ¬ Fenced cs) : body cs = trimmed cs := by
  have none (labelled : Bool) : block? labelled cs = none := by
    rw [Option.eq_none_iff_forall_ne_some]
    exact fun inside found => plain (encloses_of_block? found).fenced
  rw [body, none, none]

/-- With two such fences only what stands in a block is read. -/
theorem encloses_body {cs : List Char} (h : Fenced cs) : Encloses cs (body cs) := by
  unfold body
  split
  · next inside found => exact encloses_of_block? found
  · split
    · next inside found => exact encloses_of_block? found
    · next none =>
      have some := block?_isSome_of_fenced h
      rw [none] at some
      cases some

theorem body_eq_trimmed_iff {cs : List Char} : body cs = trimmed cs ↔ ¬ Fenced cs := by
  refine ⟨fun same fenced => ?_, body_of_plain⟩
  have shorter := (encloses_body fenced).length_lt
  rw [same] at shorter
  exact absurd shorter (Nat.lt_irrefl _)

end Reply
end MetricDesk
