import MetricDesk.Analysis.Cells
import MetricDesk.Proofs.Analysis.Joining
import MetricDesk.Proofs.Analysis.Totality

/-! The breakdowns of an analysis are a set: neither their order nor how often they are named
matters. Main statements: `TableRow.agree_ofSeries` and `AttributionRow.agree_ofTables`, over any
quantities a table is the same but for the order of its labels, and so is an attribution; and
`Cells.breakdowns_setwise`, so are those of rows that a caller hands in. -/
namespace MetricDesk

/-! ### Fields -/

namespace Fields

/-- The same value under every key. -/
def Same (fields others : Fields) : Prop := ∀ k, get? fields k = get? others k

theorem Same.put {fields others : Fields} (h : Same fields others) (key : String) (v : Value) :
    Same (fields.put key v) (others.put key v) := by
  intro k
  rw [get?_put, get?_put, h k]

theorem get?_map (of : String → Value) (keys : List String) (k : String) :
    get? (keys.map fun key => (key, of key)) k = if k ∈ keys then some (of k) else none := by
  induction keys with
  | nil => rfl
  | cons key keys ih =>
    rw [List.map_cons, get?_cons, ih]
    by_cases here : key = k
    · simp [here]
    · simp [here, Ne.symm here]

variable {breakdowns others : List String} (same : ∀ b, b ∈ others ↔ b ∈ breakdowns)
include same

/-- Labels by the same breakdowns are the same fields. -/
theorem same_labels {of level : String → Value} (each : ∀ b, of b = level b) :
    Same (breakdowns.map fun b => (b, of b)) (others.map fun b => (b, level b)) := by
  intro k
  rw [get?_map, get?_map, each k]
  simp only [same]

theorem same_ofEntries {of level : String → Value} (each : ∀ b, of b = level b) :
    Same (ofEntries (breakdowns.map fun b => (b, of b)))
      (ofEntries (others.map fun b => (b, level b))) := by
  intro k
  rw [get?_ofEntries_map, get?_ofEntries_map, each k]
  simp only [same]

/-- Two rows are of one group whichever way it is told. -/
theorem told_eq_iff {fields again more moreAgain : Fields} (h : Same fields again)
    (h' : Same more moreAgain) : told breakdowns fields = told breakdowns more ↔
      told others again = told others moreAgain := by
  simp only [told, groupKey, List.map_inj_left, same, h _, h' _]

end Fields

/-! ### Tables -/

/-- Rows of a series that are the same but for the order of their labels. -/
structure SeriesRow.Likewise {α : Type} (row other : SeriesRow α) : Prop where
  labels : Fields.Same row.labels other.labels
  value : row.value = other.value

/-- Rows of a table that are the same but for the order of their labels. -/
structure TableRow.Likewise {α : Type} (row other : TableRow α) : Prop where
  labels : Fields.Same row.labels other.labels
  value : row.value = other.value

section
variable {α : Type} {breakdowns others : List String}

theorem SeriesRow.Likewise.shown (same : ∀ b, b ∈ others ↔ b ∈ breakdowns)
    {row other : SeriesRow α} (h : row.Likewise other) :
    Fields.Same (row.shown breakdowns) (other.shown others) := by
  apply Fields.same_ofEntries same
  intro b
  rw [label, label, h.labels b]

namespace Bucket

/-- Buckets of one group, which is told by the labels in either. -/
structure Likewise (breakdowns others : List String) (b c : Bucket α) : Prop where
  labels : Fields.Same b.labels c.labels
  values : b.values = c.values
  key : b.key = Fields.told breakdowns b.labels
  again : c.key = Fields.told others c.labels

variable (same : ∀ b, b ∈ others ↔ b ∈ breakdowns)
include same

/-- A row goes into the same bucket. -/
theorem likewise_add {buckets again : List (Bucket α)} {row other : SeriesRow α}
    (alike : List.Forall₂ (Likewise breakdowns others) buckets again) (h : row.Likewise other) :
    List.Forall₂ (Likewise breakdowns others)
      (add (row.group breakdowns) (row.shown breakdowns) row.value buckets)
      (add (other.group others) (other.shown others) other.value again) := by
  induction alike with
  | nil =>
    refine .cons ⟨h.shown same, ?_, (row.told_shown _).symm, (other.told_shown _).symm⟩ .nil
    rw [h.value]
  | @cons b c buckets again first rest ih =>
    have level : b.key = row.group breakdowns ↔ c.key = other.group others := by
      rw [first.key, first.again]
      exact Fields.told_eq_iff same first.labels h.labels
    rw [add, add]
    by_cases here : b.key = row.group breakdowns
    · rw [if_pos here, if_pos (level.mp here)]
      refine .cons ⟨first.labels, ?_, first.key, first.again⟩ rest
      rw [first.values, h.value]
    · rw [if_neg here, if_neg (mt level.mpr here)]
      exact .cons first ih

theorem likewise_ofRows {rows again : List (SeriesRow α)}
    (alike : List.Forall₂ SeriesRow.Likewise rows again) :
    List.Forall₂ (Likewise breakdowns others) (ofRows breakdowns rows) (ofRows others again) := by
  unfold ofRows
  apply List.rel_foldl _ .nil alike
  intro buckets againBuckets alike row other h
  exact likewise_add same alike h

end Bucket

theorem isEmpty_eq_of_same (same : ∀ b, b ∈ others ↔ b ∈ breakdowns) :
    breakdowns.isEmpty = others.isEmpty := by
  rw [Bool.eq_iff_iff, List.isEmpty_iff, List.isEmpty_iff, List.eq_nil_iff_forall_not_mem,
    List.eq_nil_iff_forall_not_mem]
  simp only [same]

variable [Quantity α] (same : ∀ b, b ∈ others ↔ b ∈ breakdowns)
include same

/-- A table is the same by the same breakdowns: its rows are, in the same order. -/
theorem TableRow.agree_ofSeries (how : Rollup) {rows again : List (SeriesRow α)}
    (alike : List.Forall₂ SeriesRow.Likewise rows again) :
    Agree (List.Forall₂ Likewise) (ofSeries how breakdowns rows) (ofSeries how others again) := by
  unfold ofSeries
  rw [isEmpty_eq_of_same same]
  split
  · exact .ok .nil
  · apply (Agree.mapM (Bucket.likewise_ofRows same alike) _).bind
    · intro rows again alike
      exact Quantity.agree_descending alike fun _ _ h => h.value
    · intro b c h
      rw [h.values]
      apply (Agree.refl (aggregate how c.values)).bind
      rintro value _ rfl
      exact .ok ⟨h.labels, rfl⟩

/-! ### Attributions -/

/-- Rows of an attribution that are the same but for the order of their labels. -/
structure AttributionRow.Likewise (row other : AttributionRow α) : Prop where
  labels : Fields.Same row.labels other.labels
  current : row.current = other.current
  previous : row.previous = other.previous
  delta : row.delta = other.delta

namespace AttributionRow
omit [Quantity α]

/-- A group has the same value in a table, whichever way it is told. -/
theorem valueOf_eq_of_likewise {table again : List (TableRow α)}
    (alike : List.Forall₂ TableRow.Likewise table again) {row other : TableRow α}
    (h : row.Likewise other) : valueOf breakdowns table (row.group breakdowns) =
      valueOf others again (other.group others) := by
  have groups : List.Forall₂ TableRow.Likewise
      (TableRow.ofGroup breakdowns table (row.group breakdowns))
      (TableRow.ofGroup others again (other.group others)) := by
    apply List.rel_filter _ alike
    intro b c level
    simp only [decide_eq_true_iff]
    exact Fields.told_eq_iff same level.labels h.labels
  have values : (TableRow.ofGroup breakdowns table (row.group breakdowns)).map (·.value) =
      (TableRow.ofGroup others again (other.group others)).map (·.value) := by
    rw [← List.forall₂_eq_eq_eq, List.forall₂_map_left_iff, List.forall₂_map_right_iff]
    exact groups.imp fun _ _ level => level.value
  rw [valueOf_eq, valueOf_eq, ← List.getLast?_map, ← List.getLast?_map, values]

variable [Quantity α]

theorem agree_ofRow {earlier again : List (TableRow α)}
    (alike : List.Forall₂ TableRow.Likewise earlier again) {row other : TableRow α}
    (h : row.Likewise other) :
    Agree Likewise (ofRow breakdowns earlier row) (ofRow others again other) := by
  have before := valueOf_eq_of_likewise same alike h
  unfold ofRow
  change Agree Likewise (Quantity.sub row.value
    ((valueOf breakdowns earlier (row.group breakdowns)).getD Quantity.zero) >>= _) _
  rw [before, h.value]
  apply (Agree.refl _).bind
  rintro delta _ rfl
  exact .ok ⟨h.labels, rfl, congrArg (·.getD Quantity.zero) before, rfl⟩

omit same in
theorem agree_ranked {rows again : List (AttributionRow α)}
    (alike : List.Forall₂ Likewise rows again) :
    Agree (List.Forall₂ Likewise) (ranked rows) (ranked again) :=
  Quantity.agree_descending alike fun _ _ h => congrArg Quantity.abs h.delta

/-- An attribution is the same by the same breakdowns. -/
theorem agree_ofTables {table again earlier earlierAgain : List (TableRow α)}
    (alike : List.Forall₂ TableRow.Likewise table again)
    (alikeEarlier : List.Forall₂ TableRow.Likewise earlier earlierAgain) :
    Agree (List.Forall₂ Likewise) (ofTables breakdowns table earlier)
      (ofTables others again earlierAgain) := by
  unfold ofTables
  rw [isEmpty_eq_of_same same]
  split
  · exact .ok .nil
  · apply (Agree.mapM alike fun _ _ h => agree_ofRow same alikeEarlier h).bind
    exact fun _ _ alike => agree_ranked alike

end AttributionRow

end

/-! ### Attributions of cells -/

namespace AttributionRow

variable {table earlier : List (TableRow Value)}

theorem exists_double_of_valueOf (doubles : ∀ row ∈ earlier, ∃ x, row.value = .dbl x)
    (breakdowns : List String) (key : List String) :
    ∃ x, (valueOf breakdowns earlier key).getD Quantity.zero = .dbl x := by
  rw [valueOf_eq]
  cases last : (TableRow.ofGroup breakdowns earlier key).getLast? with
  | none => exact ⟨.zero, rfl⟩
  | some row => exact doubles row (List.mem_filter.mp (List.mem_of_getLast? last)).1

/-- Doubles can be subtracted, and the move is a double. -/
theorem exists_ofRow_of_doubles (doublesEarlier : ∀ row ∈ earlier, ∃ x, row.value = .dbl x)
    (breakdowns : List String) {row : TableRow Value} (double : ∃ x, row.value = .dbl x) :
    ∃ moved x, ofRow breakdowns earlier row = .ok moved ∧ moved.delta = .dbl x := by
  obtain ⟨x, value⟩ := double
  obtain ⟨y, before⟩ := exists_double_of_valueOf doublesEarlier breakdowns
    (groupKey breakdowns row.label)
  have difference : Quantity.sub (Value.dbl x) (Value.dbl y) = .ok (.dbl (x.sub y)) := rfl
  refine ⟨⟨row.labels, .dbl x, .dbl y, .dbl (x.sub y)⟩, _, ?_, rfl⟩
  rw [ofRow, before, value, difference]
  rfl

/-- Tables of doubles come to an attribution. -/
theorem succeeds_ofTables_of_doubles (doubles : ∀ row ∈ table, ∃ x, row.value = .dbl x)
    (doublesEarlier : ∀ row ∈ earlier, ∃ x, row.value = .dbl x) (breakdowns : List String) :
    Succeeds (ofTables breakdowns table earlier) := by
  have each (row : TableRow Value) (mem : row ∈ table) :=
    exists_ofRow_of_doubles doublesEarlier breakdowns (doubles row mem)
  unfold ofTables
  split
  · exact .ok _
  · apply (Succeeds.mapM _).bind
    · intro moves collected
      apply Quantity.succeeds_descending_of_mem
      have double : ∀ moved ∈ moves, ∃ x, moved.delta = .dbl x := by
        intro moved mem
        obtain ⟨row, listed, made⟩ := exists_of_mapM collected moved mem
        obtain ⟨_, x, joined, delta⟩ := each row listed
        rw [made] at joined
        cases joined
        exact ⟨x, delta⟩
      intro a memA b memB
      obtain ⟨x, deltaA⟩ := double a memA
      obtain ⟨y, deltaB⟩ := double b memB
      rw [deltaA, deltaB]
      exact .ok _
    · intro row mem
      obtain ⟨moved, -, made, -⟩ := each row mem
      exact ⟨moved, made⟩

end AttributionRow

/-! ### Rows as a caller hands them in -/

namespace Cells

variable {breakdowns others : List String}

/-- Whatever the rows are, their table by the same breakdowns fails alike or has the same rows in
the same order. -/
theorem agree_table (same : ∀ b, b ∈ others ↔ b ∈ breakdowns) (how : Rollup) (rows : List Value) :
    Agree (List.Forall₂ Fields.Same) (table how breakdowns rows) (table how others rows) := by
  unfold table
  rw [isEmpty_eq_of_same same]
  split
  · exact .ok .nil
  · have alike : List.Forall₂ Eq rows rows := List.forall₂_same.mpr fun _ _ => rfl
    refine (Agree.mapM alike ?_).bind fun series again alike =>
      (TableRow.agree_ofSeries same how alike).bind ?_
    · rintro row _ rfl
      cases row with
      | obj fields =>
        apply (Agree.refl (Value.getD fields "value").measured).bind
        rintro value _ rfl
        exact .ok ⟨Fields.same_ofEntries same fun _ => rfl, rfl⟩
      | _ => exact .error _
    · intro made madeAgain alike
      apply Agree.ok
      rw [List.forall₂_map_left_iff, List.forall₂_map_right_iff]
      apply alike.imp
      intro row other h
      rw [TableRow.toFields, TableRow.toFields, h.value]
      exact h.labels.put _ _

/-- A row of a table as it is handed in again: it has all of its labels, and a double. -/
structure Tabled (breakdowns : List String) (row : Fields) : Prop where
  labels : ∀ b ∈ breakdowns, ∃ v, Fields.get? row b = some v
  value : ∃ x, Fields.get? row "value" = some (.dbl x)

theorem tabled_of_table {how : Rollup} {rows : List Value} {out : List Fields}
    (made : table how breakdowns rows = .ok out) : ∀ row ∈ out, Tabled breakdowns row := by
  unfold table at made
  split at made
  · cases made
    rintro row ⟨⟩
  · obtain ⟨series, -, made⟩ := exists_of_bind made
    obtain ⟨tabled, sorted, made⟩ := exists_of_bind made
    cases made
    intro row mem
    obtain ⟨row, listed, rfl⟩ := List.mem_map.mp mem
    refine ⟨?_, row.value, row.get?_toFields⟩
    intro b asked
    obtain ⟨first, -, labels⟩ := TableRow.labels_ofSeries sorted row listed
    rw [TableRow.toFields, Fields.get?_put, labels, Fields.get?_ofEntries_map, if_pos asked]
    split
    · exact ⟨_, rfl⟩
    · exact ⟨_, rfl⟩

/-- The label of a breakdown, empty where there is none. -/
def labelOf (fields : Fields) (b : String) : Value := (Fields.get? fields b).getD (.str "")

/-- A row of the current table. -/
def handed (breakdowns : List String) (row : Fields) : TableRow Value :=
  ⟨Fields.ofEntries (breakdowns.map fun b => (b, labelOf row b)), Value.getD row "value"⟩

/-- A row of the earlier table. -/
def lookedUp (breakdowns : List String) (row : Fields) : TableRow Value :=
  ⟨breakdowns.map fun b => (b, labelOf row b), Value.getD row "value"⟩

theorem require_eq_ok {row : Fields} {key : String} {v : Value}
    (found : Fields.get? row key = some v) : require (.obj row) key = .ok v := by
  rw [require, found]

theorem Tabled.require_value {row : Fields} (h : Tabled breakdowns row) :
    require (.obj row) "value" = .ok (Value.getD row "value") := by
  obtain ⟨x, found⟩ := h.value
  rw [require_eq_ok found, Value.getD, found, Option.getD_some]

theorem Tabled.require_labels {row : Fields} (h : Tabled breakdowns row) :
    (breakdowns.mapM fun b => do return (b, ← require (.obj row) b)) =
      .ok (breakdowns.map fun b => (b, labelOf row b)) := by
  apply mapM_eq_ok
  intro b mem
  obtain ⟨v, found⟩ := h.labels b mem
  rw [require_eq_ok found, labelOf, found]
  rfl

theorem Tabled.joined {row : Fields} (h : Tabled breakdowns row) (before : List (TableRow Value)) :
    (do
      let _ ← fieldsOf (.obj row)
      let labels ← breakdowns.mapM fun b => do return (b, ← require (.obj row) b)
      AttributionRow.ofRow breakdowns before
        (TableRow.mk (Fields.ofEntries labels) (← require (.obj row) "value"))) =
      AttributionRow.ofRow breakdowns before (handed breakdowns row) := by
  rw [h.require_labels, h.require_value]
  rfl

/-- The attribution between two tables joins their rows. -/
theorem attribution_eq {current earlier : List Fields}
    (tabled : ∀ row ∈ current, Tabled breakdowns row)
    (tabledEarlier : ∀ row ∈ earlier, Tabled breakdowns row) :
    attribution breakdowns (current.map .obj) (earlier.map .obj) =
      (AttributionRow.ofTables breakdowns (current.map (handed breakdowns))
        (earlier.map (lookedUp breakdowns))).map (List.map (·.toFields id)) := by
  unfold attribution AttributionRow.ofTables
  split
  · rfl
  · have before : ((earlier.map Value.obj).mapM fun row => do
        return TableRow.mk (← labels row breakdowns) (← require row "value")) =
          .ok (earlier.map (lookedUp breakdowns)) := by
      rw [mapM_map_congr (g := .ok) (l := lookedUp breakdowns)]
      · exact (mapM_eq_ok (g := id) fun _ _ => rfl).trans (congrArg _ (List.map_id _))
      · intro row mem
        rw [(tabledEarlier row mem).require_value]
        rfl
    rw [before]
    change ((current.map Value.obj).mapM _ >>= _ : Except Failure (List Fields)) = _
    rw [mapM_map_congr fun row mem => (tabled row mem).joined _]
    cases (current.map (handed breakdowns)).mapM
      (AttributionRow.ofRow breakdowns (earlier.map (lookedUp breakdowns))) with
    | error failure => rfl
    | ok rows => cases AttributionRow.ranked rows <;> rfl

section
variable (same : ∀ b, b ∈ others ↔ b ∈ breakdowns)
include same

theorem likewise_handed {row other : Fields} (h : row.Same other) :
    (handed breakdowns row).Likewise (handed others other) ∧
      (lookedUp breakdowns row).Likewise (lookedUp others other) := by
  have label (b : String) : labelOf row b = labelOf other b := by rw [labelOf, labelOf, h b]
  have value : Value.getD row "value" = Value.getD other "value" := by
    rw [Value.getD, Value.getD, h "value"]
  exact ⟨⟨Fields.same_ofEntries same label, value⟩, ⟨Fields.same_labels same label, value⟩⟩

/-- The attribution between two tables by the same breakdowns fails alike or has the same rows in
the same order. -/
theorem agree_attribution {current currentAgain earlier earlierAgain : List Fields}
    (tabled : ∀ row ∈ current, Tabled breakdowns row)
    (tabledAgain : ∀ row ∈ currentAgain, Tabled others row)
    (tabledEarlier : ∀ row ∈ earlier, Tabled breakdowns row)
    (tabledEarlierAgain : ∀ row ∈ earlierAgain, Tabled others row)
    (alike : List.Forall₂ Fields.Same current currentAgain)
    (alikeEarlier : List.Forall₂ Fields.Same earlier earlierAgain) :
    Agree (List.Forall₂ Fields.Same)
      (attribution breakdowns (current.map .obj) (earlier.map .obj))
      (attribution others (currentAgain.map .obj) (earlierAgain.map .obj)) := by
  rw [attribution_eq tabled tabledEarlier, attribution_eq tabledAgain tabledEarlierAgain]
  have rows : List.Forall₂ TableRow.Likewise (current.map (handed breakdowns))
      (currentAgain.map (handed others)) := by
    rw [List.forall₂_map_left_iff, List.forall₂_map_right_iff]
    exact alike.imp fun _ _ h => (likewise_handed same h).1
  have before : List.Forall₂ TableRow.Likewise (earlier.map (lookedUp breakdowns))
      (earlierAgain.map (lookedUp others)) := by
    rw [List.forall₂_map_left_iff, List.forall₂_map_right_iff]
    exact alikeEarlier.imp fun _ _ h => (likewise_handed same h).2
  apply (AttributionRow.agree_ofTables same rows before).map
  intro moves again alike
  rw [List.forall₂_map_left_iff, List.forall₂_map_right_iff]
  apply alike.imp
  intro moved other h
  rw [AttributionRow.toFields, AttributionRow.toFields, h.current, h.previous, h.delta]
  exact ((h.labels.put _ _).put _ _).put _ _

end

/-- A row whose value can be read. -/
def Readable (row : Value) : Prop :=
  ∃ fields, row = .obj fields ∧ Succeeds (Value.getD fields "value").measured

theorem succeeds_table (how : Rollup) (breakdowns : List String) {rows : List Value}
    (readable : ∀ row ∈ rows, Readable row) : Succeeds (table how breakdowns rows) := by
  unfold table
  split
  · exact .ok _
  · apply (Succeeds.mapM _).bind
    · intro series _
      exact (TableRow.succeeds_ofSeries Double.total how breakdowns series).bind fun _ _ => .ok _
    · intro row mem
      obtain ⟨fields, rfl, measured⟩ := readable row mem
      exact measured.bind fun _ _ => .ok _

theorem succeeds_attribution {current earlier : List Fields}
    (tabled : ∀ row ∈ current, Tabled breakdowns row)
    (tabledEarlier : ∀ row ∈ earlier, Tabled breakdowns row) :
    Succeeds (attribution breakdowns (current.map .obj) (earlier.map .obj)) := by
  have double {row : Fields} (h : Tabled breakdowns row) :
      ∃ x, Value.getD row "value" = .dbl x := by
    obtain ⟨x, found⟩ := h.value
    exact ⟨x, by rw [Value.getD, found, Option.getD_some]⟩
  have doubles : ∀ row ∈ current.map (handed breakdowns), ∃ x, row.value = .dbl x :=
    List.forall_mem_map.mpr fun row mem => double (tabled row mem)
  have doublesEarlier : ∀ row ∈ earlier.map (lookedUp breakdowns), ∃ x, row.value = .dbl x :=
    List.forall_mem_map.mpr fun row mem => double (tabledEarlier row mem)
  obtain ⟨moves, made⟩ :=
    AttributionRow.succeeds_ofTables_of_doubles doubles doublesEarlier breakdowns
  rw [attribution_eq tabled tabledEarlier, made]
  exact .ok _

/-- Breakdowns are a set, whichever way a metric rolls up. By breakdowns in another order, or named
another number of times, a table has the same rows in the same order, each with the same fields, and
so has the attribution between the tables of two series. Rows that are no table fail alike. -/
theorem breakdowns_setwise (how : Rollup) {breakdowns others : List String}
    (same : ∀ b, b ∈ others ↔ b ∈ breakdowns) :
    (∀ rows : List Value,
      Agree (List.Forall₂ Fields.Same) (table how breakdowns rows) (table how others rows)) ∧
    ∀ rows earlierRows : List Value, (∀ row ∈ rows ++ earlierRows, Readable row) →
      ∃ current again earlier earlierAgain moves movesAgain,
        table how breakdowns rows = .ok current ∧ table how others rows = .ok again ∧
        List.Forall₂ Fields.Same current again ∧
        table how breakdowns earlierRows = .ok earlier ∧
        table how others earlierRows = .ok earlierAgain ∧
        List.Forall₂ Fields.Same earlier earlierAgain ∧
        attribution breakdowns (current.map .obj) (earlier.map .obj) = .ok moves ∧
        attribution others (again.map .obj) (earlierAgain.map .obj) = .ok movesAgain ∧
        List.Forall₂ Fields.Same moves movesAgain := by
  refine ⟨agree_table same how, ?_⟩
  intro rows earlierRows readable
  obtain ⟨current, made⟩ := succeeds_table how breakdowns fun row mem =>
    readable row (List.mem_append_left earlierRows mem)
  obtain ⟨earlier, madeEarlier⟩ := succeeds_table how breakdowns fun row mem =>
    readable row (List.mem_append_right rows mem)
  obtain ⟨again, madeAgain, alike⟩ := (made ▸ agree_table same how rows).exists_ok
  obtain ⟨earlierAgain, madeEarlierAgain, alikeEarlier⟩ :=
    (madeEarlier ▸ agree_table same how earlierRows).exists_ok
  have tabled := tabled_of_table made
  have tabledEarlier := tabled_of_table madeEarlier
  have agree := agree_attribution same tabled (tabled_of_table madeAgain) tabledEarlier
    (tabled_of_table madeEarlierAgain) alike alikeEarlier
  obtain ⟨moves, moved⟩ := succeeds_attribution tabled tabledEarlier
  rw [moved] at agree
  obtain ⟨movesAgain, movedAgain, alikeMoves⟩ := agree.exists_ok
  exact ⟨current, again, earlier, earlierAgain, moves, movesAgain, made, madeAgain, alike,
    madeEarlier, madeEarlierAgain, alikeEarlier, moved, movedAgain, alikeMoves⟩

/-- Visits of a day, some of them from nowhere or without a number. -/
def visits : List Value :=
  [.obj [("country", .str "DE"), ("platform", .str "ios"), ("value", .nat 2)],
    .obj [("platform", .nat 7), ("value", .null)],
    .obj [("value", .str "1.5"), ("country", .str "DE"), ("platform", .str "ios")],
    .obj [("country", .null), ("platform", .str "7"), ("value", .nat 9)]]

/-- Visits of the day before. -/
def visitsBefore : List Value :=
  [.obj [("country", .str "DE"), ("platform", .str "ios"), ("value", .nat 8)],
    .obj [("country", .str "None"), ("platform", .nat 7), ("value", .bool true)]]

/-- A platform that is named before the country, and once more, comes before it in each row. -/
theorem visits_setwise :
    (∀ b, b ∈ ["platform", "country", "platform"] ↔ b ∈ ["country", "platform"]) ∧
    (∀ row ∈ visits ++ visitsBefore, Readable row) ∧
    ∃ current again earlier earlierAgain moves movesAgain,
      table .sum ["country", "platform"] visits = .ok current ∧
      table .sum ["platform", "country", "platform"] visits = .ok again ∧
      List.Forall₂ Fields.Same current again ∧
      current.map Fields.keys = List.replicate 3 ["country", "platform", "value"] ∧
      again.map Fields.keys = List.replicate 3 ["platform", "country", "value"] ∧
      table .sum ["country", "platform"] visitsBefore = .ok earlier ∧
      table .sum ["platform", "country", "platform"] visitsBefore = .ok earlierAgain ∧
      attribution ["country", "platform"] (current.map .obj) (earlier.map .obj) = .ok moves ∧
      attribution ["platform", "country", "platform"] (again.map .obj)
        (earlierAgain.map .obj) = .ok movesAgain ∧
      List.Forall₂ Fields.Same moves movesAgain := by
  have same (b : String) :
      b ∈ ["platform", "country", "platform"] ↔ b ∈ ["country", "platform"] := by
    simp only [List.mem_cons, List.not_mem_nil, or_false]
    tauto
  have readable : ∀ row ∈ visits ++ visitsBefore, Readable row := by
    simp only [visits, visitsBefore, List.cons_append, List.nil_append, List.forall_mem_cons]
    exact ⟨⟨_, rfl, _, rfl⟩, ⟨_, rfl, _, rfl⟩, ⟨_, rfl, _, rfl⟩, ⟨_, rfl, _, rfl⟩, ⟨_, rfl, _, rfl⟩,
      ⟨_, rfl, _, rfl⟩, by rintro row ⟨⟩⟩
  obtain ⟨-, setwise⟩ := breakdowns_setwise .sum same
  obtain ⟨current, again, earlier, earlierAgain, moves, movesAgain, made, madeAgain, alike,
    madeEarlier, madeEarlierAgain, -, moved, movedAgain, alikeMoves⟩ :=
    setwise visits visitsBefore readable
  have keys : (table .sum ["country", "platform"] visits).toOption.map (List.map Fields.keys) =
      some (List.replicate 3 ["country", "platform", "value"]) := by
    simp only [table, TableRow.ofSeries, TableRow.ranked, Quantity.descending,
      Sorting.mergeSort_eq_byHalves]
    decide +kernel
  have keysAgain : (table .sum ["platform", "country", "platform"] visits).toOption.map
      (List.map Fields.keys) = some (List.replicate 3 ["platform", "country", "value"]) := by
    simp only [table, TableRow.ofSeries, TableRow.ranked, Quantity.descending,
      Sorting.mergeSort_eq_byHalves]
    decide +kernel
  rw [made] at keys
  rw [madeAgain] at keysAgain
  exact ⟨same, readable, current, again, earlier, earlierAgain, moves, movesAgain, made, madeAgain,
    alike, Option.some.inj keys, Option.some.inj keysAgain, madeEarlier, madeEarlierAgain, moved,
    movedAgain, alikeMoves⟩

end Cells
end MetricDesk
