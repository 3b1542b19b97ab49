import MetricDesk.Json.Reader
import MetricDesk.Json.Writer
import MetricDesk.Proofs.Number.Text

/-! The canonical text of a document. Main statements: `readString_quoted`, a quoted string is read
back, and `text_injective`, values that are all JSON have the same text only if they are the same.
-/
namespace MetricDesk.Json

/-! ### Strings -/

theorem hexFour?_append {ds : List Char} (length : ds.length = 4) (rest : List Char) :
    hexFour? (ds ++ rest) = hexFour? ds := by
  match ds, length with
  | [_, _, _, _], _ => rfl

theorem controls : ∀ n < 32, (Text.hexPadded 4 n).length = 4 ∧
    hexFour? (Text.hexPadded 4 n) = some n ∧ charOf n = Char.ofNat n := by
  decide

theorem isHigh_control {n : Nat} (h : n < 32) : isHigh n = false := by
  simp only [isHigh, Bool.and_eq_false_iff, decide_eq_false_iff_not]
  omega

theorem escapedPoint?_control {n : Nat} (small : n < 32) (offset : Nat) {rest : List Char}
    (more : rest ≠ []) :
    escapedPoint? offset (Text.hexPadded 4 n ++ rest) = .ok (Char.ofNat n, 4) := by
  obtain ⟨length, read, char⟩ := controls n small
  have behind : (Text.hexPadded 4 n ++ rest).drop 4 = rest := List.drop_left' length
  simp only [escapedPoint?, behind, List.isEmpty_iff, more, if_false, hexFour?_append length, read,
    isHigh_control small, Bool.false_and, char]

/-- One written character is read in one step. -/
theorem readChars_quotedChar (start fuel offset : Nat) (c : Char) {rest : List Char}
    (more : rest ≠ []) (read : List Char) :
    ∃ offset', readChars start (fuel + 1) ⟨quotedChar false c ++ rest, offset⟩ read =
      readChars start fuel ⟨rest, offset'⟩ (c :: read) := by
  unfold quotedChar
  split_ifs with quote backslash n r t b f control ascii
  · subst quote; exact ⟨_, rfl⟩
  · subst backslash; exact ⟨_, rfl⟩
  · subst n; exact ⟨_, rfl⟩
  · subst r; exact ⟨_, rfl⟩
  · subst t; exact ⟨_, rfl⟩
  · subst b; exact ⟨_, rfl⟩
  · subst f; exact ⟨_, rfl⟩
  · obtain ⟨length, -, -⟩ := controls c.toNat control
    have behind : (Text.hexPadded 4 c.toNat ++ rest).drop 4 = rest := List.drop_left' length
    refine ⟨offset + (2 + 4), ?_⟩
    rw [escapedChar, if_pos (by omega), escapedUnit]
    simp only [List.cons_append, readChars, escapedPoint?_control control _ more]
    change readChars start fuel ⟨(Text.hexPadded 4 c.toNat ++ rest).drop 4, _⟩ _ = _
    rw [behind, Char.ofNat_toNat]
  · cases ascii
  · refine ⟨offset + 1, ?_⟩
    have printed : ¬ c.toNat ≤ 0x1f := by omega
    rw [List.singleton_append, readChars.eq_def]
    simp only
    split
    · contradiction
    · next same => cases same; contradiction
    · next same => cases same; contradiction
    · next same => cases same; contradiction
    · next same => cases same; contradiction
    · next same =>
      cases same
      rw [if_neg printed]
      rfl

theorem readChars_quoted (start : Nat) (cs rest : List Char) (fuel offset : Nat)
    (read : List Char) : ∃ offset',
      readChars start (fuel + cs.length + 1)
        ⟨cs.flatMap (quotedChar false) ++ '"' :: rest, offset⟩ read =
      .ok (read.reverse ++ cs, ⟨rest, offset'⟩) := by
  induction cs generalizing offset read with
  | nil =>
    refine ⟨offset + 1, ?_⟩
    rw [List.append_nil]
    rfl
  | cons c cs ih =>
    have more : cs.flatMap (quotedChar false) ++ '"' :: rest ≠ [] := by simp
    obtain ⟨next, step⟩ := readChars_quotedChar start (fuel + cs.length + 1) offset c more read
    obtain ⟨last, done⟩ := ih next (c :: read)
    refine ⟨last, ?_⟩
    rw [List.flatMap_cons, List.append_assoc, List.length_cons, ← Nat.add_assoc fuel, step, done,
      List.reverse_cons, List.append_assoc, List.singleton_append]

/-- A quoted string is read back, and what follows it is left. -/
theorem readString_quoted (s : String) (rest : List Char) (fuel offset : Nat) : ∃ offset',
    readString (fuel + s.toList.length + 1) ⟨quoted false s ++ rest, offset⟩ =
      .ok (s, ⟨rest, offset'⟩) := by
  obtain ⟨last, done⟩ := readChars_quoted offset s.toList rest fuel (offset + 1) []
  refine ⟨last, ?_⟩
  have text : (Cursor.mk (quoted false s ++ rest) offset).skip 1 =
      ⟨s.toList.flatMap (quotedChar false) ++ '"' :: rest, offset + 1⟩ := by
    simp [Cursor.skip, quoted]
  rw [readString, text]
  simp only [done, List.reverse_nil, List.nil_append, Except.bind, bind, pure, Except.pure,
    String.ofList_toList]

/-- No quoted string is the front of another. -/
theorem quoted_front {a b : String} {r s : List Char}
    (h : quoted false a ++ r = quoted false b ++ s) : a = b ∧ r = s := by
  obtain ⟨i, first⟩ := readString_quoted a r b.toList.length 0
  obtain ⟨j, second⟩ := readString_quoted b s a.toList.length 0
  rw [h, Nat.add_comm b.toList.length, second] at first
  cases first
  exact ⟨rfl, rfl⟩

/-! ### Numbers -/

/-- A character of the text of a whole number. -/
def isWholeMark (c : Char) : Bool := c.isDigit || c == '-'

theorem wholeMarks (n : Int) : ∀ c ∈ (numberText (.int n)).toList, isWholeMark c = true := by
  have digits (c : Char) (h : c ∈ Digits.ofNat n.natAbs) : isWholeMark c = true := by
    simp [isWholeMark, Reading.isDigit_ofNat h]
  rw [numberText, toList_toString]
  split
  · exact List.forall_mem_cons.mpr ⟨rfl, digits⟩
  · exact digits

theorem write_marked {l : Layout} (point : l.point = true) (d : Digits.Decimal) :
    ∃ c ∈ l.write d, isWholeMark c = false := by
  have found := Reading.ofNat_ne_nil d.coefficient
  unfold Layout.write
  generalize Digits.ofNat d.coefficient = ds at *
  simp only [point, if_true]
  split_ifs with positional whole above
  · exact ⟨'.', by simp, rfl⟩
  · exact ⟨'.', by simp, rfl⟩
  · exact ⟨'.', by simp, rfl⟩
  · split
    · exact ⟨'e', by simp [Layout.exponent], rfl⟩
    · exact ⟨'.', by simp, rfl⟩
    · contradiction

theorem mem_signed {neg : Bool} {cs : List Char} {c : Char} (h : c ∈ cs) :
    c ∈ (Layout.signed neg cs).toList := by
  rw [Layout.signed, String.toList_ofList]
  split
  · exact List.mem_cons_of_mem _ h
  · exact h

theorem double_marked (x : Double) : ∃ c ∈ (numberText (.dbl x)).toList, isWholeMark c = false := by
  cases x with
  | nan => exact ⟨'N', by decide, rfl⟩
  | infinite neg => exact ⟨'I', mem_signed (by decide), rfl⟩
  | finite neg m e h =>
    by_cases zero : m = 0
    · refine ⟨'.', ?_, rfl⟩
      rw [numberText, Layout.double, if_pos zero]
      exact mem_signed (by decide)
    · obtain ⟨c, marked, notWhole⟩ := write_marked Reading.legible_document.point
        (Digits.shortest m e)
      refine ⟨c, ?_, notWhole⟩
      rw [numberText, Layout.double, if_neg zero]
      exact mem_signed marked

/-- Different numbers have different texts. -/
theorem numberText_injective {a b : Number} (h : numberText a = numberText b) : a = b := by
  have apart (n : Int) (x : Double) : numberText (.int n) ≠ numberText (.dbl x) := by
    intro same
    obtain ⟨c, marked, notWhole⟩ := double_marked x
    rw [← same] at marked
    rw [wholeMarks n c marked] at notWhole
    cases notWhole
  cases a with
  | int m =>
    cases b with
    | int n => exact congrArg Number.int (toString_injective h)
    | dbl y => exact absurd h (apart m y)
  | dbl x =>
    cases b with
    | int n => exact absurd h.symm (apart n x)
    | dbl y =>
      have same := Reading.double?_layout Reading.legible_document x
      rw [show Layout.document.double Digits.shortest x = numberText (.dbl y) from h] at same
      have read := Reading.double?_layout Reading.legible_document y
      exact congrArg Number.dbl (Option.some_injective _ (same.symm.trans read))

/-- What stands behind a value inside a list or an object. -/
def isDelimiter (c : Char) : Bool := c == ',' || c == ']' || c == '\x7d'

/-- A character with which the text of a number begins. -/
def isNumberLead (c : Char) : Bool := c.isDigit || c == '-' || c == 'N' || c == 'I'

theorem not_isDelimiter_of_isMark {c : Char} (h : Reading.isMark c = true) :
    isDelimiter c = false := by
  rw [← Bool.not_eq_true]
  intro delimiter
  simp only [isDelimiter, Bool.or_eq_true, beq_iff_eq] at delimiter
  rcases delimiter with (rfl | rfl) | rfl <;> exact absurd h (by decide)

theorem forall_signed {P : Char → Prop} {cs : List Char} (neg : Bool) (minus : P '-')
    (h : ∀ c ∈ cs, P c) : ∀ c ∈ (Layout.signed neg cs).toList, P c := by
  rw [Layout.signed, String.toList_ofList]
  split
  · exact List.forall_mem_cons.mpr ⟨minus, h⟩
  · exact h

theorem numberText_plain (n : Number) : ∀ c ∈ (numberText n).toList, isDelimiter c = false := by
  cases n with
  | int n =>
    intro c h
    have mark := wholeMarks n c h
    apply not_isDelimiter_of_isMark
    simp only [isWholeMark, Bool.or_eq_true] at mark
    rcases mark with digit | minus
    · simp [Reading.isMark, digit]
    · simp [Reading.isMark, minus]
  | dbl x =>
    cases x with
    | nan => simp [numberText, Layout.double, Layout.document, isDelimiter]
    | infinite neg => exact forall_signed neg rfl (by simp [Layout.document, isDelimiter])
    | finite neg m e h =>
      rw [numberText, Layout.double]
      split
      · exact forall_signed neg rfl (by simp [Layout.zero, Layout.document, isDelimiter])
      · exact forall_signed neg rfl fun c h =>
          not_isDelimiter_of_isMark (Reading.marks_write _ _ c h)

theorem lead_signed {cs : List Char} (neg : Bool)
    (h : ∃ c rest, cs = c :: rest ∧ isNumberLead c = true) :
    ∃ c rest, (Layout.signed neg cs).toList = c :: rest ∧ isNumberLead c = true := by
  rw [Layout.signed, String.toList_ofList]
  split
  · exact ⟨_, _, rfl, rfl⟩
  · exact h

theorem numberText_lead (n : Number) :
    ∃ c rest, (numberText n).toList = c :: rest ∧ isNumberLead c = true := by
  cases n with
  | int n =>
    rw [numberText, toList_toString]
    split
    · exact ⟨_, _, rfl, rfl⟩
    · cases digits : Digits.ofNat n.natAbs with
      | nil => exact absurd digits (Reading.ofNat_ne_nil _)
      | cons c rest =>
        have := Reading.isDigit_ofNat (n := n.natAbs) (c := c) (by simp [digits])
        exact ⟨c, rest, rfl, by simp [isNumberLead, this]⟩
  | dbl x =>
    cases x with
    | nan => exact ⟨_, _, rfl, rfl⟩
    | infinite neg => exact lead_signed neg ⟨_, _, rfl, rfl⟩
    | finite neg m e h =>
      rw [numberText, Layout.double]
      split
      · exact lead_signed neg ⟨_, _, rfl, rfl⟩
      · obtain ⟨c, rest, text, digit⟩ := Reading.write_first .document (Digits.shortest m e)
        exact lead_signed neg ⟨c, rest, text, by simp [isNumberLead, digit]⟩

/-- A text that is over or goes on behind a value. -/
def Stops (rest : List Char) : Prop := ∀ c ∈ rest.head?, isDelimiter c = true

theorem stops_cons {c : Char} (h : isDelimiter c = true) (rest : List Char) :
    Stops (c :: rest) := by
  rintro d ⟨⟩
  exact h

theorem takeWhile_plain {cs rest : List Char} (plain : ∀ c ∈ cs, isDelimiter c = false)
    (stops : Stops rest) : (cs ++ rest).takeWhile (!isDelimiter ·) = cs := by
  have none : rest.takeWhile (!isDelimiter ·) = [] := by
    cases rest with
    | nil => rfl
    | cons c rest => rw [List.takeWhile_cons_of_neg (by simp [stops c rfl])]
  rw [List.takeWhile_append_of_pos (by simpa using plain), none, List.append_nil]

theorem number_front {a b : Number} {r s : List Char} (stopsR : Stops r) (stopsS : Stops s)
    (h : (numberText a).toList ++ r = (numberText b).toList ++ s) : a = b ∧ r = s := by
  have same : (numberText a).toList = (numberText b).toList := by
    rw [← takeWhile_plain (numberText_plain a) stopsR, h,
      takeWhile_plain (numberText_plain b) stopsS]
  refine ⟨numberText_injective (String.toList_injective same), ?_⟩
  rw [same] at h
  exact List.append_cancel_left h

/-! ### Values -/

/-- Kinds of value that their texts tell apart at the first character. -/
inductive Shape where
  | null
  | yes
  | no
  | number
  | string
  | list
  | object
  | foreign

def shapeOf : Value → Shape
  | .null => .null
  | .bool true => .yes
  | .bool false => .no
  | .num _ => .number
  | .str _ => .string
  | .list _ => .list
  | .obj _ => .object
  | _ => .foreign

def shapeAt : Char → Shape
  | 'n' => .null
  | 't' => .yes
  | 'f' => .no
  | '"' => .string
  | '[' => .list
  | '\x7b' => .object
  | c => if isNumberLead c then .number else .foreign

theorem shapeAt_number {c : Char} (h : isNumberLead c = true) : shapeAt c = .number := by
  unfold shapeAt
  split
  on_goal 7 => exact if_pos h
  all_goals cases h

theorem write_shape (v : Value) (json : foreign? v = none) :
    ∃ c rest, write canonical v = c :: rest ∧ shapeAt c = shapeOf v := by
  cases v with
  | num n =>
    obtain ⟨c, rest, text, lead⟩ := numberText_lead n
    exact ⟨c, rest, text, shapeAt_number lead⟩
  | bool b => cases b <;> exact ⟨_, _, rfl, rfl⟩
  | null => exact ⟨_, _, rfl, rfl⟩
  | str s => exact ⟨_, _, rfl, rfl⟩
  | list xs => exact ⟨_, _, rfl, rfl⟩
  | obj fs => exact ⟨_, _, rfl, rfl⟩
  | _ => simp [foreign?] at json

theorem shapeAt_delimiter {c : Char} (h : isDelimiter c = true) : shapeAt c = .foreign := by
  simp only [isDelimiter, Bool.or_eq_true, beq_iff_eq] at h
  rcases h with (rfl | rfl) | rfl <;> rfl

theorem shapeOf_ne_foreign {v : Value} (json : foreign? v = none) : shapeOf v ≠ .foreign := by
  cases v with
  | bool b => cases b <;> simp [shapeOf]
  | null | num | str | list | obj => simp [shapeOf]
  | _ => simp [foreign?] at json

/-- Values whose texts begin alike are of one kind. -/
theorem shapeOf_eq {v w : Value} {r s : List Char} (jsonV : foreign? v = none)
    (jsonW : foreign? w = none) (h : write canonical v ++ r = write canonical w ++ s) :
    shapeOf v = shapeOf w := by
  obtain ⟨c, more, textV, atV⟩ := write_shape v jsonV
  obtain ⟨d, more', textW, atW⟩ := write_shape w jsonW
  rw [textV, textW] at h
  rw [← atV, ← atW, (List.cons.inj h).1]

/-- The items of a list behind the first. -/
def moreItems : List Value → List Char
  | [] => []
  | x :: xs => ',' :: write canonical x ++ moreItems xs

theorem writeItems_cons (x : Value) (xs : List Value) :
    writeItems canonical (x :: xs) = write canonical x ++ moreItems xs := by
  induction xs generalizing x with
  | nil => simp [writeItems, moreItems]
  | cons y ys ih =>
    rw [writeItems, ih, moreItems]
    simp [canonical]

/-- The fields of an object behind the first. -/
def moreFields : List (String × Value) → List Char
  | [] => []
  | (k, v) :: fs => ',' :: quoted false k ++ ':' :: write canonical v ++ moreFields fs

theorem writeFields_cons (k : String) (v : Value) (fs : List (String × Value)) :
    writeFields canonical ((k, v) :: fs) =
      quoted false k ++ ':' :: write canonical v ++ moreFields fs := by
  induction fs generalizing k v with
  | nil => simp [writeFields, moreFields, canonical]
  | cons f fs ih =>
    obtain ⟨l, w⟩ := f
    rw [writeFields, ih, moreFields]
    simp [canonical]

theorem stops_moreItems (xs : List Value) {c : Char} (h : isDelimiter c = true)
    (rest : List Char) : Stops (moreItems xs ++ c :: rest) := by
  cases xs with
  | nil => exact stops_cons h rest
  | cons x xs => exact stops_cons rfl _

theorem stops_moreFields (fs : List (String × Value)) {c : Char} (h : isDelimiter c = true)
    (rest : List Char) : Stops (moreFields fs ++ c :: rest) := by
  cases fs with
  | nil => exact stops_cons h rest
  | cons f fs => exact stops_cons rfl _

theorem write_ne_delimiter {v : Value} (json : foreign? v = none) {c : Char}
    (h : isDelimiter c = true) (r s : List Char) : write canonical v ++ r ≠ c :: s := by
  intro same
  obtain ⟨d, rest, text, shape⟩ := write_shape v json
  rw [text] at same
  rw [(List.cons.inj same).1, shapeAt_delimiter h] at shape
  exact shapeOf_ne_foreign json shape.symm

theorem orElse_eq_none {α : Type} {a b : Option α} (h : (a.orElse fun _ => b) = none) :
    a = none ∧ b = none := by
  cases a with
  | none => exact ⟨rfl, h⟩
  | some _ => cases h

/-! The text of no value is the front of another's, and neither are the texts of items and fields:
by induction on the first value, whose kind is that of the second. -/

mutual

theorem write_front (v : Value) {w : Value} {r s : List Char} (jsonV : foreign? v = none)
    (jsonW : foreign? w = none) (stopsR : Stops r) (stopsS : Stops s)
    (h : write canonical v ++ r = write canonical w ++ s) : v = w ∧ r = s := by
  have shape := shapeOf_eq jsonV jsonW h
  match v with
  | .null =>
    cases w with
    | null => exact ⟨rfl, List.append_cancel_left h⟩
    | bool b => cases b <;> cases shape
    | _ => cases shape
  | .bool true =>
    cases w with
    | bool b =>
      cases b with
      | true => exact ⟨rfl, List.append_cancel_left h⟩
      | false => cases shape
    | _ => cases shape
  | .bool false =>
    cases w with
    | bool b =>
      cases b with
      | false => exact ⟨rfl, List.append_cancel_left h⟩
      | true => cases shape
    | _ => cases shape
  | .num a =>
    cases w with
    | num b =>
      obtain ⟨rfl, rest⟩ := number_front stopsR stopsS h
      exact ⟨rfl, rest⟩
    | bool b => cases b <;> cases shape
    | _ => cases shape
  | .str a =>
    cases w with
    | str b =>
      obtain ⟨rfl, rest⟩ := quoted_front h
      exact ⟨rfl, rest⟩
    | bool b => cases b <;> cases shape
    | _ => cases shape
  | .list xs =>
    cases w with
    | list ys =>
      simp only [write, List.cons_append, List.append_assoc, List.nil_append, List.cons.injEq,
        true_and] at h
      obtain ⟨rfl, rest⟩ := writeItems_front xs jsonV jsonW h
      exact ⟨rfl, rest⟩
    | bool b => cases b <;> cases shape
    | _ => cases shape
  | .obj fs =>
    cases w with
    | obj gs =>
      simp only [write, List.cons_append, List.append_assoc, List.nil_append, List.cons.injEq,
        true_and] at h
      obtain ⟨rfl, rest⟩ := writeFields_front fs jsonV jsonW h
      exact ⟨rfl, rest⟩
    | bool b => cases b <;> cases shape
    | _ => cases shape

theorem writeItems_front (xs : List Value) {ys : List Value} {r s : List Char}
    (jsonX : foreignItem? xs = none) (jsonY : foreignItem? ys = none)
    (h : writeItems canonical xs ++ ']' :: r = writeItems canonical ys ++ ']' :: s) :
    xs = ys ∧ r = s := by
  match xs, ys with
  | [], [] => exact ⟨rfl, (List.cons.inj h).2⟩
  | [], y :: ys =>
    obtain ⟨jsonY, -⟩ := orElse_eq_none jsonY
    rw [writeItems_cons, List.append_assoc] at h
    exact absurd h.symm (write_ne_delimiter jsonY rfl _ _)
  | x :: xs, [] =>
    obtain ⟨jsonX, -⟩ := orElse_eq_none jsonX
    rw [writeItems_cons, List.append_assoc] at h
    exact absurd h (write_ne_delimiter jsonX rfl _ _)
  | x :: xs, y :: ys =>
    obtain ⟨jsonX, jsonXs⟩ := orElse_eq_none jsonX
    obtain ⟨jsonY, jsonYs⟩ := orElse_eq_none jsonY
    rw [writeItems_cons, writeItems_cons, List.append_assoc, List.append_assoc] at h
    obtain ⟨rfl, more⟩ := write_front x jsonX jsonY (stops_moreItems xs rfl r)
      (stops_moreItems ys rfl s) h
    obtain ⟨rfl, rest⟩ := moreItems_front xs jsonXs jsonYs more
    exact ⟨rfl, rest⟩

theorem moreItems_front (xs : List Value) {ys : List Value} {r s : List Char}
    (jsonX : foreignItem? xs = none) (jsonY : foreignItem? ys = none)
    (h : moreItems xs ++ ']' :: r = moreItems ys ++ ']' :: s) : xs = ys ∧ r = s := by
  match xs, ys with
  | [], [] => exact ⟨rfl, (List.cons.inj h).2⟩
  | [], y :: ys => simp [moreItems] at h
  | x :: xs, [] => simp [moreItems] at h
  | x :: xs, y :: ys =>
    obtain ⟨jsonX, jsonXs⟩ := orElse_eq_none jsonX
    obtain ⟨jsonY, jsonYs⟩ := orElse_eq_none jsonY
    simp only [moreItems, List.cons_append, List.append_assoc, List.cons.injEq, true_and] at h
    obtain ⟨rfl, more⟩ := write_front x jsonX jsonY (stops_moreItems xs rfl r)
      (stops_moreItems ys rfl s) h
    obtain ⟨rfl, rest⟩ := moreItems_front xs jsonXs jsonYs more
    exact ⟨rfl, rest⟩

theorem writeFields_front (fs : List (String × Value)) {gs : List (String × Value)}
    {r s : List Char} (jsonF : foreignField? fs = none) (jsonG : foreignField? gs = none)
    (h : writeFields canonical fs ++ '\x7d' :: r = writeFields canonical gs ++ '\x7d' :: s) :
    fs = gs ∧ r = s := by
  match fs, gs with
  | [], [] => exact ⟨rfl, (List.cons.inj h).2⟩
  | [], (l, w) :: gs =>
    rw [writeFields_cons] at h
    simp [writeFields, quoted] at h
  | (k, v) :: fs, [] =>
    rw [writeFields_cons] at h
    simp [writeFields, quoted] at h
  | (k, v) :: fs, (l, w) :: gs =>
    obtain ⟨jsonV, jsonFs⟩ := orElse_eq_none jsonF
    obtain ⟨jsonW, jsonGs⟩ := orElse_eq_none jsonG
    rw [writeFields_cons, writeFields_cons] at h
    simp only [List.append_assoc, List.cons_append] at h
    obtain ⟨rfl, value⟩ := quoted_front h
    obtain ⟨rfl, more⟩ := write_front v jsonV jsonW (stops_moreFields fs rfl r)
      (stops_moreFields gs rfl s) (List.cons.inj value).2
    obtain ⟨rfl, rest⟩ := moreFields_front fs jsonFs jsonGs more
    exact ⟨rfl, rest⟩

theorem moreFields_front (fs : List (String × Value)) {gs : List (String × Value)}
    {r s : List Char} (jsonF : foreignField? fs = none) (jsonG : foreignField? gs = none)
    (h : moreFields fs ++ '\x7d' :: r = moreFields gs ++ '\x7d' :: s) : fs = gs ∧ r = s := by
  match fs, gs with
  | [], [] => exact ⟨rfl, (List.cons.inj h).2⟩
  | [], g :: gs => simp [moreFields] at h
  | f :: fs, [] => simp [moreFields] at h
  | (k, v) :: fs, (l, w) :: gs =>
    obtain ⟨jsonV, jsonFs⟩ := orElse_eq_none jsonF
    obtain ⟨jsonW, jsonGs⟩ := orElse_eq_none jsonG
    simp only [moreFields, List.cons_append, List.append_assoc, List.cons.injEq, true_and] at h
    obtain ⟨rfl, value⟩ := quoted_front h
    obtain ⟨rfl, more⟩ := write_front v jsonV jsonW (stops_moreFields fs rfl r)
      (stops_moreFields gs rfl s) (List.cons.inj value).2
    obtain ⟨rfl, rest⟩ := moreFields_front fs jsonFs jsonGs more
    exact ⟨rfl, rest⟩

end

theorem foreignItem?_eq_none_iff {xs : List Value} :
    foreignItem? xs = none ↔ ∀ x ∈ xs, foreign? x = none := by
  induction xs with
  | nil => simp [foreignItem?]
  | cons x xs ih => simp [foreignItem?, ih]

theorem foreignField?_eq_none_iff {fs : Fields} :
    foreignField? fs = none ↔ ∀ f ∈ fs, foreign? f.2 = none := by
  induction fs with
  | nil => simp [foreignField?]
  | cons f fs ih => simp [foreignField?, ih]

/-- Values that are all JSON have the same canonical text only if they are the same. -/
theorem text_injective {v w : Value} (jsonV : foreign? v = none) (jsonW : foreign? w = none)
    (h : text canonical v = text canonical w) : v = w := by
  have ended : Stops [] := by rintro c ⟨⟩
  have same : write canonical v ++ [] = write canonical w ++ [] := by
    rw [List.append_nil, List.append_nil]
    exact String.ofList_injective h
  exact (write_front v jsonV jsonW ended ended same).1

end MetricDesk.Json
