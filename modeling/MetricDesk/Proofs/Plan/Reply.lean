import MetricDesk.Proofs.Json.Limits
import MetricDesk.Proofs.Plan.Fence

/-! What is read of a model's reply. Main statements: `value_of_enclosed`, a document in a fenced
block is read as what it spells, whatever stands around the block; `value_of_document`, a reply that
is a document is so read unless two fences stand in it; and `value_parsed_iff`, every reply is read
or refused as no JSON, but for two limits. -/
namespace MetricDesk.Reply
open Text

/-! ### A document in a block -/

theorem isBlank_of_isSpace {c : Char} (h : Json.Cursor.isSpace c = true) : isBlank c = true := by
  simp only [Json.Cursor.isSpace, Bool.or_eq_true, decide_eq_true_eq] at h
  rcases h with ((rfl | rfl) | rfl) | rfl <;> decide

/-- The text of a value begins with what is neither white space, nor a back-quote, nor a label. -/
theorem firsts_apart : ∀ c ∈ Json.firsts, isBlank c = false ∧ c ≠ '\x60' ∧ c ∉ ['j', 'J'] :=
  List.all_iff_forall_prop.mp (by decide)

theorem lasts_apart : ∀ c ∈ Json.lasts, isBlank c = false ∧ c ∉ fence :=
  List.all_iff_forall_prop.mp (by decide)

/-- A text that fills a block: without white space at its ends, and without a fence. -/
structure Fills (t : List Char) : Prop where
  first : ∃ c cs, t = c :: cs ∧ isBlank c = false ∧ c ≠ '\x60' ∧ c ∉ ['j', 'J']
  last : ∃ front c, t = front ++ [c] ∧ isBlank c = false ∧ c ∉ fence
  unfenced : ¬ fence <:+: t

theorem fills_of_spells {room : Nat} {t : List Char} {v : Value}
    (h : Json.Spells room t (.value v)) (unfenced : ¬ fence <:+: t) : Fills t := by
  obtain ⟨c, cs, begins, first⟩ := h.first
  obtain ⟨front, d, ends, last⟩ := h.last
  exact ⟨⟨c, cs, begins, firsts_apart c first⟩, ⟨front, d, ends, lasts_apart d last⟩, unfenced⟩

namespace Fills

variable {t w w' : List Char}

theorem ending (h : Fills t) (blank : ∀ c ∈ w', isBlank c = true) : Ending t w' := by
  refine ⟨blank, fun within => ?_⟩
  obtain ⟨front, c, rfl, -, apart⟩ := h.last
  rw [List.append_assoc] at within
  rcases infix_of_apart apart within with before | behind
  · exact h.unfenced (before.trans (List.prefix_append front [c]).isInfix)
  · exact not_fence_of_plain (not_mem_of_blank blank) behind

theorem dropWhile_eq (h : Fills t) (blank : ∀ c ∈ w, isBlank c = true) (back : List Char) :
    (w ++ (t ++ back)).dropWhile isBlank = t ++ back := by
  obtain ⟨c, cs, rfl, text, -⟩ := h.first
  rw [List.dropWhile_append_of_pos blank, List.cons_append,
    List.dropWhile_cons_of_neg (by simp [text])]

/-- What fills a block is all that is read of it. -/
theorem upToFence?_eq (h : Fills t) (blank : ∀ c ∈ w, isBlank c = true)
    (blank' : ∀ c ∈ w', isBlank c = true) (back : List Char) :
    upToFence? ((w ++ (t ++ (w' ++ (fence ++ back)))).dropWhile isBlank) = some t := by
  rw [h.dropWhile_eq blank, upToFence?_append (h.ending blank')]
  obtain ⟨front, c, rfl, text, -⟩ := h.last
  rw [List.rdropWhile_concat_neg _ _ _ (by simp [text])]

theorem blockHere?_eq (h : Fills t) (blank : ∀ c ∈ w, isBlank c = true)
    (blank' : ∀ c ∈ w', isBlank c = true) {labelled : Bool} {opening : List Char}
    (opens : Opening labelled opening) (back : List Char) :
    blockHere? labelled (opening ++ (w ++ (t ++ (w' ++ (fence ++ back))))) = some t :=
  blockHere?_eq_some.mpr ⟨opening, _, opens, rfl, h.upToFence?_eq blank blank' back⟩

/-- The block that a text fills is read, if it is labelled. -/
theorem body_labelled (h : Fills t) {p letters : List Char} (plain : '\x60' ∉ p)
    (labelled : Matches letters label) (blank : ∀ c ∈ w, isBlank c = true)
    (blank' : ∀ c ∈ w', isBlank c = true) (s : List Char) :
    body (p ++ (fence ++ (letters ++ (w ++ (t ++ (w' ++ (fence ++ s))))))) = t := by
  have found := h.blockHere?_eq blank blank' (.labelled labelled) s
  rw [List.append_assoc] at found
  rw [body, block?_append (not_fence_of_plain plain), block?_of_here found]

/-- No label follows the fence of a block that a text fills. -/
theorem head (h : Fills t) (blank : ∀ c ∈ w, isBlank c = true) (back : List Char) :
    ∃ c cs, w ++ (t ++ back) = c :: cs ∧ c ∉ fence ∧ c ∉ ['j', 'J'] := by
  cases w with
  | nil =>
    obtain ⟨c, cs, rfl, -, other, unlabelled⟩ := h.first
    exact ⟨c, cs ++ back, rfl, by simpa [fence] using other, unlabelled⟩
  | cons c w =>
    have text : ∀ c ∈ fence ++ ['j', 'J'], isBlank c = false :=
      List.all_iff_forall_prop.mp (by decide)
    have apart : c ∉ fence ++ ['j', 'J'] := fun mem =>
      Bool.false_ne_true ((text c mem).symm.trans (blank c List.mem_cons_self))
    exact ⟨c, _, rfl, not_or.mp (mt List.mem_append.mpr apart)⟩

/-- No fence begins between those of a block that a text fills. -/
theorem between (h : Fills t) (blank : ∀ c ∈ w, isBlank c = true)
    (blank' : ∀ c ∈ w', isBlank c = true) :
    ¬ fence <:+: ['\x60', '\x60'] ++ (w ++ (t ++ w')) ++ ['\x60', '\x60'] := by
  intro within
  obtain ⟨c, cs, split, apart, -⟩ := h.head blank w'
  rw [split, List.append_assoc] at within
  have sides : fence <:+: ['\x60', '\x60'] ++ c :: (cs ++ ['\x60', '\x60']) := within
  rcases infix_of_apart apart sides with before | behind
  · exact absurd before.length_le (by decide)
  · have whole := behind.trans (List.suffix_cons c _).isInfix
    rw [← List.cons_append, ← split, List.append_assoc, List.append_assoc] at whole
    have inside := infix_dropWhile isBlank_tick whole
    rw [h.dropWhile_eq blank] at inside
    exact (h.ending blank').first inside

theorem block?_labelled (h : Fills t) {s : List Char} (plain : '\x60' ∉ s)
    (blank : ∀ c ∈ w, isBlank c = true) (blank' : ∀ c ∈ w', isBlank c = true) :
    block? true (fence ++ (w ++ (t ++ (w' ++ (fence ++ s))))) = none := by
  obtain ⟨c, cs, split, -, unlabelled⟩ := h.head blank (w' ++ (fence ++ s))
  have here : blockHere? true (fence ++ (w ++ (t ++ (w' ++ (fence ++ s))))) = none := by
    rw [split]
    exact blockHere?_unlabelled unlabelled
  -- A label is looked for behind every back-quote, so also from the second one of the fence on.
  have behind : ['\x60', '\x60'] ++ (w ++ (t ++ (w' ++ (fence ++ s)))) =
      ['\x60', '\x60'] ++ (w ++ (t ++ w')) ++ (fence ++ s) := by simp only [List.append_assoc]
  calc block? true (fence ++ (w ++ (t ++ (w' ++ (fence ++ s)))))
      = block? true (['\x60', '\x60'] ++ (w ++ (t ++ (w' ++ (fence ++ s))))) :=
        block?_cons_of_none here
    _ = block? true (fence ++ s) := by rw [behind, block?_append (h.between blank blank')]
    _ = none := block?_of_plain plain

/-- The block that a text fills is read without a label, if no other block follows. -/
theorem body_unlabelled (h : Fills t) {p s : List Char} (plain : '\x60' ∉ p) (plain' : '\x60' ∉ s)
    (blank : ∀ c ∈ w, isBlank c = true) (blank' : ∀ c ∈ w', isBlank c = true) :
    body (p ++ (fence ++ (w ++ (t ++ (w' ++ (fence ++ s)))))) = t := by
  have found := h.blockHere?_eq blank blank' .plain s
  rw [body, block?_append (not_fence_of_plain plain), block?_append (not_fence_of_plain plain),
    h.block?_labelled plain' blank blank', block?_of_here found]

end Fills

/-- A letter in either case. -/
theorem eq_or_eq_of_toLower {c small capital : Char} (h : c.toLower = small)
    (pair : capital.toNat + 32 = small.toNat) : c = small ∨ c = capital := by
  subst h
  unfold Char.toLower at *
  split at pair
  · next upper =>
    have le : c.toNat ≤ 90 := UInt32.le_iff_toNat_le.mp upper.2
    change capital.toNat + 32 = (c.val + ('a'.val - 'A'.val)).toNat at pair
    rw [UInt32.toNat_add] at pair
    change capital.toNat + 32 = (c.toNat + 32) % 2 ^ 32 at pair
    exact Or.inr (Char.toNat_inj.mp (by omega))
  · next other =>
    rw [dif_neg other]
    exact Or.inl rfl

/-- The label may be written in any case. -/
theorem matches_label {letters : List Char} (h : letters.map Char.toLower = "json".toList) :
    Matches letters label := by
  have any {c small capital : Char} (same : c.toLower = small)
      (pair : capital.toNat + 32 = small.toNat) {others : List Char} :
      c ∈ small :: capital :: others := by
    rcases eq_or_eq_of_toLower same pair with rfl | rfl <;> simp
  obtain ⟨j, _, rfl, first, h⟩ := List.map_eq_cons_iff.mp h
  obtain ⟨s, _, rfl, second, h⟩ := List.map_eq_cons_iff.mp h
  obtain ⟨o, _, rfl, third, h⟩ := List.map_eq_cons_iff.mp h
  obtain ⟨n, _, rfl, fourth, h⟩ := List.map_eq_cons_iff.mp h
  obtain rfl := List.map_eq_nil_iff.mp h
  exact .cons (any first rfl) (.cons (any second rfl) (.cons (any third rfl)
    (.cons (any fourth rfl) .nil)))

/-- A document fills a block but for the white space around it. -/
theorem fills_of_read {j : List Char} {v : Value} (h : Json.read j = .ok v)
    (unfenced : ¬ fence <:+: j) : ∃ w t w', j = w ++ (t ++ w') ∧ Fills t ∧ Json.read t = .ok v ∧
      (∀ c ∈ w, isBlank c = true) ∧ ∀ c ∈ w', isBlank c = true := by
  obtain ⟨sp, t, sp', spaces, text, spaces', rfl⟩ := Json.read_eq_ok_iff.mp h
  have within : t <:+: sp ++ (t ++ sp') := ⟨sp, sp', List.append_assoc _ _ _⟩
  refine ⟨sp, t, sp', rfl, fills_of_spells text fun inside => unfenced (inside.trans within),
    Json.read_eq_ok_iff.mpr ⟨[], t, [], nofun, text, nofun, by simp⟩,
    fun c mem => isBlank_of_isSpace (spaces c mem), fun c mem => isBlank_of_isSpace (spaces' c mem)⟩

theorem spelled_eq_ok_iff {text : List Char} {v : Value} :
    spelled text = .ok v ↔ Json.read text = .ok v := by
  unfold spelled
  split
  · next read => rw [read, Except.ok.injEq, Except.ok.injEq]
  all_goals
    next read =>
    rw [read]
    exact iff_of_false nofun nofun

theorem spelled_tooManyDigits_iff {text : List Char} {n : Nat} :
    spelled text = .error (.tooManyDigits n) ↔ Json.read text = .error (.tooManyDigits n) := by
  unfold spelled
  split
  all_goals
    next read => simp [read]

theorem spelled_tooDeep_iff {text : List Char} {k : Json.Container} :
    spelled text = .error (.tooDeep k) ↔ Json.read text = .error (.tooDeep k) := by
  unfold spelled
  split
  all_goals
    next read => simp [read]

/-- A document in a block is read as what it spells, whatever white space and text stand around
it: in a labelled block whatever follows, else if no back-quote does. -/
theorem value_of_enclosed {p letters w j w' s : String} {v : Value}
    (document : Json.read j.toList = .ok v) (unfenced : ¬ fence <:+: j.toList)
    (plain : '\x60' ∉ p.toList) (labelled : letters.toList.map Char.toLower = "json".toList)
    (blank : ∀ c ∈ w.toList, isBlank c = true) (blank' : ∀ c ∈ w'.toList, isBlank c = true) :
    value (p ++ "```" ++ letters ++ w ++ j ++ w' ++ "```" ++ s) = .ok v ∧
      ('\x60' ∉ s.toList →
        value (p ++ "```" ++ w ++ j ++ w' ++ "```" ++ s) = .ok v) := by
  obtain ⟨sp, t, sp', split, fills, read, spaces, spaces'⟩ := fills_of_read document unfenced
  have white : ∀ c ∈ w.toList ++ sp, isBlank c = true := List.forall_mem_append.mpr ⟨blank, spaces⟩
  have white' : ∀ c ∈ sp' ++ w'.toList, isBlank c = true :=
    List.forall_mem_append.mpr ⟨spaces', blank'⟩
  have quotes : "```".toList = fence := rfl
  constructor
  · have inside := fills.body_labelled plain (matches_label labelled) white white' s.toList
    simp only [List.append_assoc] at inside
    simp only [value, String.toList_append, quotes, split, List.append_assoc, inside]
    exact spelled_eq_ok_iff.mpr read
  · intro plain'
    have inside := fills.body_unlabelled plain plain' white white'
    simp only [List.append_assoc] at inside
    simp only [value, String.toList_append, quotes, split, List.append_assoc, inside]
    exact spelled_eq_ok_iff.mpr read

theorem ticks_enclosed :
    value ("Here you go:\n" ++ "```" ++ "JSON" ++ "\n" ++ " [\"``\"]" ++ "\u00a0" ++ "```" ++
        "\nthanks") = .ok (.list [.str "``"]) ∧
      ('\x60' ∉ "\nthanks".toList →
        value ("Here you go:\n" ++ "```" ++ "\n" ++ " [\"``\"]" ++ "\u00a0" ++ "```" ++
          "\nthanks") = .ok (.list [.str "``"])) :=
  value_of_enclosed (by cbv) (by decide) (by decide) (by decide)
    (List.all_iff_forall_prop.mp (by decide)) (List.all_iff_forall_prop.mp (by decide))

/-! ### A reply that is a document -/

/-- A reply that is a document is read as what it spells unless two fences stand in it. Otherwise
only what stands between some of them is read, which is less than the document. -/
theorem value_of_document {reply : String} {v : Value}
    (document : Json.read (trimmed reply.toList) = .ok v) :
    (¬ Fenced reply.toList → value reply = .ok v) ∧
      (Fenced reply.toList → ∃ inside, Encloses reply.toList inside ∧
        inside.length < (trimmed reply.toList).length ∧ value reply = spelled inside) := by
  constructor
  · intro plain
    rw [value, body_of_plain plain]
    exact spelled_eq_ok_iff.mpr document
  · intro fenced
    have inside := encloses_body fenced
    exact ⟨_, inside, inside.length_lt, rfl⟩

theorem ticks_misread :
    Json.read (trimmed "\"```1```\"".toList) = .ok (.str "```1```") ∧
      (∃ inside, Encloses "\"```1```\"".toList inside ∧
        inside.length < (trimmed "\"```1```\"".toList).length ∧
        value "\"```1```\"" = spelled inside) ∧
      value "\"```1```\"" = .ok (.int 1) := by
  have document : Json.read (trimmed "\"```1```\"".toList) = .ok (.str "```1```") := by
    have whole : trimmed "\"```1```\"".toList = "\"```1```\"".toList := by decide +kernel
    rw [whole]
    cbv
  have inside : body "\"```1```\"".toList = ['1'] := by decide +kernel
  have one : Json.NumberText ['1'] (.int 1) :=
    .whole false (Or.inr ⟨⟨List.cons_ne_nil _ _, List.forall_mem_singleton.mpr rfl⟩, by decide⟩)
      (by decide)
  refine ⟨document, (value_of_document document).2 ⟨['"'], ['1'], ['"'], rfl⟩, ?_⟩
  rw [value, inside]
  exact spelled_eq_ok_iff.mpr
    (Json.read_eq_ok_iff.mpr
      ⟨[], ['1'], [], List.forall_mem_nil _, .number one, List.forall_mem_nil _, rfl⟩)

/-! ### Every reply -/

theorem spelled_parsed_iff {text : List Char} :
    ((∃ v, spelled text = .ok v) ∨ ∃ failure, spelled text = .error failure ∧
      failure.kind = .planParse) ↔
    (∀ n, Json.read text ≠ .error (.tooManyDigits n)) ∧
      ∀ k, Json.read text ≠ .error (.tooDeep k) := by
  unfold spelled
  split
  · next v read =>
    rw [read]
    exact iff_of_true (Or.inl ⟨v, rfl⟩) ⟨nofun, nofun⟩
  · next reason offset read =>
    rw [read]
    exact iff_of_true (Or.inr ⟨_, rfl, rfl⟩) ⟨nofun, nofun⟩
  · next n read =>
    refine iff_of_false ?_ fun h => h.1 n read
    rintro (⟨_, ⟨⟩⟩ | ⟨_, ⟨⟩, ⟨⟩⟩)
  · next k read =>
    refine iff_of_false ?_ fun h => h.2 k read
    rintro (⟨_, ⟨⟩⟩ | ⟨_, ⟨⟩, ⟨⟩⟩)

/-- A reply comes to a value, or is refused as no JSON, unless what is read of it has a number of
too many digits or a container too deep where a value is due. Then it fails with that. -/
theorem value_parsed_iff (reply : String) :
    (((∃ v, value reply = .ok v) ∨ ∃ failure, value reply = .error failure ∧
        failure.kind = .planParse) ↔
      (∀ n, ¬ Json.TooLong (body reply.toList) n) ∧ ∀ k, ¬ Json.TooDeep (body reply.toList) k) ∧
    (∀ v, value reply = .ok v ↔ Json.Document Json.maxDepth (body reply.toList) v) ∧
    (∀ n, value reply = .error (.tooManyDigits n) ↔ Json.TooLong (body reply.toList) n) ∧
    ∀ k, value reply = .error (.tooDeep k) ↔ Json.TooDeep (body reply.toList) k := by
  refine ⟨?_, fun v => spelled_eq_ok_iff.trans Json.read_eq_ok_iff,
    fun n => spelled_tooManyDigits_iff.trans Json.read_tooManyDigits_iff,
    fun k => spelled_tooDeep_iff.trans Json.read_tooDeep_iff⟩
  simp only [← Json.read_tooManyDigits_iff, ← Json.read_tooDeep_iff]
  exact spelled_parsed_iff

end MetricDesk.Reply
