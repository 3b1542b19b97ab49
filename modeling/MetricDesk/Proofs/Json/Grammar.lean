import Mathlib.Data.Bool.AllAny
import MetricDesk.Json.Reader
import MetricDesk.Proofs.Number.Text

/-! The grammar of JSON: which texts spell a value, with containers nested so deep at most. Main
statements: `Spells.first` and `Spells.last`, with which characters the text of a value begins and
ends; and `Spells.mono`, more room for containers does no harm. -/
namespace MetricDesk.Json

def Spaces (cs : List Char) : Prop := ∀ c ∈ cs, Cursor.isSpace c = true

/-! ### Strings -/

/-- An escaped low half of a surrogate pair stands at the front. -/
def LowNext (cs : List Char) : Prop :=
  ∃ a b c d low rest, cs = '\\' :: 'u' :: a :: b :: c :: d :: rest ∧
    hexFour? [a, b, c, d] = some low ∧ isLow low = true

/-- What stands between the quotes of a string, and the characters that it spells. Half a surrogate
pair stands for itself only where the other half does not follow. -/
inductive StringText : List Char → List Char → Prop
  | nil : StringText [] []
  | plain {c : Char} {t s : List Char} : c ≠ '"' → c ≠ '\\' → 0x1f < c.toNat → StringText t s →
      StringText (c :: t) (c :: s)
  | escape {e ch : Char} {t s : List Char} : simpleEscape? e = some ch → StringText t s →
      StringText ('\\' :: e :: t) (ch :: s)
  | point {a b c d : Char} {n : Nat} {t s : List Char} : hexFour? [a, b, c, d] = some n →
      ¬ (isHigh n = true ∧ LowNext t) → StringText t s →
      StringText ('\\' :: 'u' :: a :: b :: c :: d :: t) (charOf n :: s)
  | pair {a b c d a' b' c' d' : Char} {n low : Nat} {t s : List Char} :
      hexFour? [a, b, c, d] = some n → isHigh n = true →
      hexFour? [a', b', c', d'] = some low → isLow low = true → StringText t s →
      StringText ('\\' :: 'u' :: a :: b :: c :: d :: '\\' :: 'u' :: a' :: b' :: c' :: d' :: t)
        (Char.ofNat (0x10000 + (n - 0xd800) * 0x400 + (low - 0xdc00)) :: s)

/-! ### Numbers -/

/-- One digit at least, and nothing else. -/
structure Run (ds : List Char) : Prop where
  some : ds ≠ []
  digits : ∀ c ∈ ds, c.isDigit = true

/-- A zero alone, or digits that do not begin with one. -/
def WholeText (ds : List Char) : Prop := ds = ['0'] ∨ Run ds ∧ ds.head? ≠ some '0'

def minus (neg : Bool) : List Char := if neg then ['-'] else []

inductive FractionText : List Char → List Char → Prop
  | none : FractionText [] []
  | some {part : List Char} : Run part → FractionText ('.' :: part) part

inductive SignText : List Char → Bool → Prop
  | none : SignText [] false
  | plus : SignText ['+'] false
  | minus : SignText ['-'] true

inductive ExponentText : List Char → Int → Prop
  | none : ExponentText [] 0
  | some {e : Char} {sign ds : List Char} {neg : Bool} : e = 'e' ∨ e = 'E' → SignText sign neg →
      Run ds → ExponentText (e :: (sign ++ ds))
        (if neg then -(Reading.naturalOf ds : Int) else Reading.naturalOf ds)

/-- A whole number has a limited number of digits; any other number may have as many as it likes. -/
inductive NumberText : List Char → Value → Prop
  | whole {ds : List Char} (neg : Bool) : WholeText ds → ds.length ≤ maxDigits →
      NumberText (minus neg ++ ds)
        (.int (if neg then -(Reading.naturalOf ds : Int) else Reading.naturalOf ds))
  | double {ds f part e : List Char} {power : Int} (neg : Bool) : WholeText ds →
      FractionText f part → ExponentText e power → f ++ e ≠ [] →
      NumberText (minus neg ++ (ds ++ (f ++ e)))
        (.dbl (Double.ofDecimal neg (Reading.naturalOf (ds ++ part)) (power - part.length)))

/-- What stands in front goes on as a number: with another digit, a fraction, or an exponent. -/
inductive Continues : List Char → Prop
  | digit {d : Char} {cs : List Char} : d.isDigit = true → Continues (d :: cs)
  | fraction {f part cs : List Char} : FractionText f part → f ≠ [] → Continues (f ++ cs)
  | exponent {e cs : List Char} {power : Int} : ExponentText e power → e ≠ [] → Continues (e ++ cs)

/-! ### Values -/

/-- The key of a field up to its value. -/
inductive NameText : List Char → String → Prop
  | intro {t s sp sp' : List Char} : StringText t s → Spaces sp → Spaces sp' →
      NameText ('"' :: (t ++ '"' :: (sp ++ ':' :: sp'))) (String.ofList s)

/-- What a text may spell: a value, or the items of a list or the fields of an object, of which
there are some. -/
inductive Part where
  | value (v : Value)
  | items (vs : List Value)
  | fields (fs : List (String × Value))

/-- A text spells a value, items or fields, in which no more containers stand inside one another
than there is room for. -/
inductive Spells : Nat → List Char → Part → Prop
  | string {room : Nat} {t s : List Char} : StringText t s →
      Spells room ('"' :: (t ++ ['"'])) (.value (.str (String.ofList s)))
  | word {room : Nat} {w : String} {v : Value} : (w, v) ∈ words →
      Spells room w.toList (.value v)
  | number {room : Nat} {t : List Char} {v : Value} : NumberText t v → Spells room t (.value v)
  | noItems {room : Nat} {sp : List Char} : Spaces sp →
      Spells (room + 1) ('[' :: (sp ++ [']'])) (.value (.list []))
  | list {room : Nat} {sp t : List Char} {vs : List Value} : Spaces sp → Spells room t (.items vs) →
      Spells (room + 1) ('[' :: (sp ++ (t ++ [']']))) (.value (.list vs))
  | noFields {room : Nat} {sp : List Char} : Spaces sp →
      Spells (room + 1) ('\x7b' :: (sp ++ ['\x7d'])) (.value (.obj []))
  | object {room : Nat} {sp t : List Char} {fs : List (String × Value)} : Spaces sp →
      Spells room t (.fields fs) →
      Spells (room + 1) ('\x7b' :: (sp ++ (t ++ ['\x7d']))) (.value (.obj (Fields.ofEntries fs)))
  | lastItem {room : Nat} {t sp : List Char} {v : Value} : Spells room t (.value v) → Spaces sp →
      Spells room (t ++ sp) (.items [v])
  | item {room : Nat} {t sp sp' u : List Char} {v : Value} {vs : List Value} :
      Spells room t (.value v) → Spaces sp → Spaces sp' → Spells room u (.items vs) →
      Spells room (t ++ (sp ++ ',' :: (sp' ++ u))) (.items (v :: vs))
  | lastField {room : Nat} {n t sp : List Char} {key : String} {v : Value} : NameText n key →
      Spells room t (.value v) → Spaces sp → Spells room (n ++ (t ++ sp)) (.fields [(key, v)])
  | field {room : Nat} {n t sp sp' u : List Char} {key : String} {v : Value}
      {fs : List (String × Value)} : NameText n key → Spells room t (.value v) → Spaces sp →
      Spaces sp' → Spells room u (.fields fs) →
      Spells room (n ++ (t ++ (sp ++ ',' :: (sp' ++ u)))) (.fields ((key, v) :: fs))

/-- A text that spells a value, with nothing but spaces around it. -/
def Document (room : Nat) (s : List Char) (v : Value) : Prop :=
  ∃ sp t sp', Spaces sp ∧ Spells room t (.value v) ∧ Spaces sp' ∧ s = sp ++ (t ++ sp')

theorem Spells.mono {room more : Nat} {t : List Char} {p : Part} (h : Spells room t p)
    (le : room ≤ more) : Spells more t p := by
  induction h generalizing more with
  | string text => exact .string text
  | word mem => exact .word mem
  | number text => exact .number text
  | noItems sp =>
    obtain ⟨k, rfl⟩ := Nat.exists_eq_add_of_le le
    rw [Nat.add_right_comm]
    exact .noItems sp
  | list sp _ ih =>
    obtain ⟨k, rfl⟩ := Nat.exists_eq_add_of_le le
    rw [Nat.add_right_comm]
    exact .list sp (ih (Nat.le_add_right _ k))
  | noFields sp =>
    obtain ⟨k, rfl⟩ := Nat.exists_eq_add_of_le le
    rw [Nat.add_right_comm]
    exact .noFields sp
  | object sp _ ih =>
    obtain ⟨k, rfl⟩ := Nat.exists_eq_add_of_le le
    rw [Nat.add_right_comm]
    exact .object sp (ih (Nat.le_add_right _ k))
  | lastItem _ sp ih => exact .lastItem (ih le) sp
  | item _ sp sp' _ value items => exact .item (value le) sp sp' (items le)
  | lastField name _ sp ih => exact .lastField name (ih le) sp
  | field name _ sp sp' _ value fields => exact .field name (value le) sp sp' (fields le)

/-! ### First and last characters -/

/-- The characters with which a value begins. -/
def firsts : List Char := "\"[\x7b-0123456789ntfNI".toList

/-- The characters with which a value ends. -/
def lasts : List Char := "\"]\x7d0123456789leNy".toList

theorem mem_firsts_of_isDigit {c : Char} (digit : c.isDigit = true) : c ∈ firsts := by
  obtain ⟨n, small, rfl⟩ := Reading.digitChar_of_isDigit digit
  have all : ∀ n < 10, Nat.digitChar n ∈ firsts := by decide
  exact all n small

theorem mem_lasts_of_isDigit {c : Char} (digit : c.isDigit = true) : c ∈ lasts := by
  obtain ⟨n, small, rfl⟩ := Reading.digitChar_of_isDigit digit
  have all : ∀ n < 10, Nat.digitChar n ∈ lasts := by decide
  exact all n small

theorem WholeText.run {ds : List Char} (h : WholeText ds) : Run ds := by
  rcases h with rfl | ⟨run, -⟩
  · exact ⟨by simp, by simp⟩
  · exact run

theorem Run.first {ds : List Char} (h : Run ds) : ∃ c cs, ds = c :: cs ∧ c.isDigit = true := by
  obtain ⟨c, cs, rfl⟩ := List.exists_cons_of_ne_nil h.some
  exact ⟨c, cs, rfl, h.digits c List.mem_cons_self⟩

theorem Run.last {ds : List Char} (h : Run ds) :
    ∃ front c, ds = front ++ [c] ∧ c.isDigit = true := by
  have split := List.dropLast_append_getLast h.some
  exact ⟨_, _, split.symm, h.digits _ (List.getLast_mem h.some)⟩

theorem NumberText.first {t : List Char} {v : Value} (h : NumberText t v) :
    ∃ c cs, t = c :: cs ∧ (c = '-' ∨ c.isDigit = true) := by
  have signed (neg : Bool) {ds : List Char} (whole : WholeText ds) (rest : List Char) :
      ∃ c cs, minus neg ++ (ds ++ rest) = c :: cs ∧ (c = '-' ∨ c.isDigit = true) := by
    cases neg with
    | true => exact ⟨'-', ds ++ rest, rfl, Or.inl rfl⟩
    | false =>
      obtain ⟨c, cs, rfl, digit⟩ := whole.run.first
      exact ⟨c, cs ++ rest, rfl, Or.inr digit⟩
  cases h with
  | @whole ds neg whole _ =>
    have first := signed neg whole []
    rwa [List.append_nil] at first
  | double neg whole => exact signed neg whole _

theorem FractionText.last {f part : List Char} (h : FractionText f part) (some : f ≠ []) :
    ∃ front c, f = front ++ [c] ∧ c.isDigit = true := by
  cases h with
  | none => exact absurd rfl some
  | some run =>
    obtain ⟨front, c, rfl, digit⟩ := run.last
    exact ⟨'.' :: front, c, rfl, digit⟩

theorem ExponentText.last {e : List Char} {power : Int} (h : ExponentText e power)
    (found : e ≠ []) :
    ∃ front c, e = front ++ [c] ∧ c.isDigit = true := by
  cases h with
  | none => exact absurd rfl found
  | @some e sign ds _ _ _ run =>
    obtain ⟨front, c, rfl, digit⟩ := run.last
    exact ⟨e :: (sign ++ front), c, by simp only [List.cons_append, List.append_assoc], digit⟩

theorem NumberText.last {t : List Char} {v : Value} (h : NumberText t v) :
    ∃ front c, t = front ++ [c] ∧ c.isDigit = true := by
  cases h with
  | whole neg whole =>
    obtain ⟨front, c, rfl, digit⟩ := whole.run.last
    exact ⟨minus neg ++ front, c, (List.append_assoc _ _ _).symm, digit⟩
  | @double ds f part e power neg _ fraction exponent some =>
    by_cases none : e = []
    · subst none
      rw [List.append_nil] at some ⊢
      obtain ⟨front, c, rfl, digit⟩ := fraction.last some
      exact ⟨minus neg ++ (ds ++ front), c, by simp only [List.append_assoc], digit⟩
    · obtain ⟨front, c, rfl, digit⟩ := exponent.last none
      exact ⟨minus neg ++ (ds ++ (f ++ front)), c, by simp only [List.append_assoc], digit⟩

theorem word_first : ∀ w ∈ words, ∃ c cs, w.1.toList = c :: cs ∧ c ∈ firsts := by
  simp only [words, List.forall_mem_cons]
  refine ⟨⟨'n', _, rfl, by decide⟩, ⟨'t', _, rfl, by decide⟩, ⟨'f', _, rfl, by decide⟩,
    ⟨'N', _, rfl, by decide⟩, ⟨'I', _, rfl, by decide⟩, ⟨'-', _, rfl, by decide⟩, nofun⟩

theorem word_last : ∀ w ∈ words, ∃ front c, w.1.toList = front ++ [c] ∧ c ∈ lasts := by
  simp only [words, List.forall_mem_cons]
  refine ⟨⟨['n', 'u', 'l'], 'l', rfl, by decide⟩, ⟨['t', 'r', 'u'], 'e', rfl, by decide⟩,
    ⟨['f', 'a', 'l', 's'], 'e', rfl, by decide⟩, ⟨['N', 'a'], 'N', rfl, by decide⟩,
    ⟨"Infinit".toList, 'y', rfl, by decide⟩, ⟨"-Infinit".toList, 'y', rfl, by decide⟩, nofun⟩

theorem NameText.first {n : List Char} {key : String} (h : NameText n key) :
    ∃ cs, n = '"' :: cs := by
  cases h with
  | intro => exact ⟨_, rfl⟩

theorem Spells.first {room : Nat} {t : List Char} {p : Part} (h : Spells room t p) :
    ∃ c cs, t = c :: cs ∧ c ∈ firsts := by
  have quote : '"' ∈ firsts := by decide
  have bracket : '[' ∈ firsts := by decide
  have brace : '\x7b' ∈ firsts := by decide
  induction h with
  | string => exact ⟨_, _, rfl, quote⟩
  | word mem => exact word_first _ mem
  | number text =>
    obtain ⟨c, cs, rfl, here⟩ := text.first
    refine ⟨c, cs, rfl, ?_⟩
    rcases here with rfl | digit
    · decide
    · exact mem_firsts_of_isDigit digit
  | noItems | list => exact ⟨_, _, rfl, bracket⟩
  | noFields | object => exact ⟨_, _, rfl, brace⟩
  | lastItem _ _ ih | item _ _ _ _ ih =>
    obtain ⟨c, cs, rfl, here⟩ := ih
    exact ⟨c, _, rfl, here⟩
  | lastField name | field name =>
    obtain ⟨cs, rfl⟩ := name.first
    exact ⟨_, _, rfl, quote⟩

theorem Spells.last {room : Nat} {t : List Char} {v : Value} (h : Spells room t (.value v)) :
    ∃ front c, t = front ++ [c] ∧ c ∈ lasts := by
  cases h with
  | @string _ t => exact ⟨'"' :: t, '"', rfl, by decide⟩
  | word mem => exact word_last _ mem
  | number text =>
    obtain ⟨front, c, rfl, digit⟩ := text.last
    exact ⟨front, c, rfl, mem_lasts_of_isDigit digit⟩
  | @noItems _ sp => exact ⟨'[' :: sp, ']', rfl, by decide⟩
  | @list _ sp t => exact ⟨'[' :: (sp ++ t), ']', by simp, by decide⟩
  | @noFields _ sp => exact ⟨'\x7b' :: sp, '\x7d', rfl, by decide⟩
  | @object _ sp t => exact ⟨'\x7b' :: (sp ++ t), '\x7d', by simp, by decide⟩

end MetricDesk.Json
