import XsdInfer.Proofs.Primitive.Forms

/-!
# The type of a value

Main statement: a value is given a type just if its trimmed text has the form of the type, and no text
has two forms, so that the recognisers may be tried in any order (`infer_decides`). Which form a text
can have is told by the character behind its sign and the digits at its front (`form`).
-/

namespace XsdInfer.Primitive

variable {s t : List Char} {c : Char}

/-! ## One form at most -/

/-- Whether a character marks an exponent. -/
def isMark (c : Char) : Bool :=
  c == 'e' || c == 'E'

/-- What stands behind the sign and the digits at the front of a text. -/
def stop? (s : List Char) : Option Char :=
  ((dropSign s).dropWhile Char.isDigit).head?

/-- The one type whose form a text can have. -/
def form (s : List Char) : Primitive :=
  match stop? s with
  | none => integer
  | some '.' => if s.any isMark then double else decimal
  | some 'e' => double
  | some 'E' => double
  | some '-' => if s.length = 10 then date else dateTime
  | some ':' => time
  | some _ => boolean

/-- Behind a sign and digits, the stop is the next character. -/
lemma stop?_append {sign digits : List Char} (signed : IsSign sign) (all : AllDigits digits)
    (unsigned : ∀ c ∈ (digits ++ t).head?, IsUnsigned c) (ends : ∀ c ∈ t.head?, c.isDigit = false) :
    stop? (sign ++ (digits ++ t)) = t.head? := by
  rw [stop?, dropSign_append signed unsigned, all.dropWhile_append ends]

/-- The digits at the front of a shape, and the mark behind them. -/
lemma IsShaped.exists_digits {n : ℕ} {p : Char} {shape : List Char} (mark : p ≠ '0')
    (fit : IsShaped (List.replicate n '0' ++ p :: shape) s) :
    ∃ digits rest, AllDigits digits ∧ digits.length = n ∧ s = digits ++ p :: rest := by
  induction n generalizing s with
  | zero =>
    cases fit with
    | cons first _ =>
      rw [if_neg mark] at first
      subst first
      exact ⟨[], _, by simp [AllDigits], rfl, rfl⟩
  | succ n ih =>
    cases fit with
    | cons first fit =>
      obtain ⟨digits, rest, all, rfl, rfl⟩ := ih fit
      exact ⟨_ :: digits, rest, List.forall_mem_cons.mpr ⟨first, all⟩, rfl, rfl⟩

/-- A text of a shape that begins with digits stops at the mark behind them. -/
lemma IsShaped.stop?_append {n : ℕ} {p : Char} {shape : List Char} (mark : p.isDigit = false)
    (fit : IsShaped (List.replicate (n + 1) '0' ++ p :: shape) s) (t : List Char) :
    stop? (s ++ t) = some p := by
  have other : p ≠ '0' := by
    rintro rfl
    cases mark
  obtain ⟨digits, rest, all, some, rfl⟩ := exists_digits other fit
  have unsigned : ∀ c ∈ (digits ++ p :: (rest ++ t)).head?, IsUnsigned c := by
    obtain ⟨d, ds, rfl⟩ := List.exists_cons_of_length_eq_add_one some
    simpa using isUnsigned_of_isDigit (all d (.head _))
  rw [List.append_assoc, List.cons_append]
  exact Primitive.stop?_append (.inl rfl) all unsigned (by simpa using mark)

/-- The digits are those from zero to nine. -/
lemma mem_of_isDigit (h : c.isDigit = true) : c ∈ "0123456789".toList := by
  have low : c.toNat < 0x80 := by
    rw [Char.isDigit, Bool.and_eq_true, decide_eq_true_eq, decide_eq_true_eq] at h
    exact lt_of_le_of_lt (UInt32.le_iff_toNat_le.mp h.2) (by decide)
  revert h
  exact Text.of_ascii (p := fun c => c.isDigit = true → c ∈ "0123456789".toList) (by decide) low

/-- A truth value stops at once, at a letter at which no number, date or time does. -/
lemma stop?_of_boolean (truth : s.map Text.simpleFold = "true".toList ∨
    s.map Text.simpleFold = "false".toList) : ∃ c, stop? s = some c ∧ c ∉ ".eE-:".toList := by
  have first : ∃ c t, s = c :: t ∧ Text.simpleFold c ∈ "tf".toList := by
    obtain truth | truth := truth <;> obtain ⟨c, t, rfl, fold, -⟩ := List.map_eq_cons_iff.mp truth
    · exact ⟨c, t, rfl, fold ▸ by decide⟩
    · exact ⟨c, t, rfl, fold ▸ by decide⟩
  obtain ⟨c, t, rfl, letter⟩ := first
  -- Folding a character can make it a letter, so that those to be shut out are folded and looked at one by
  -- one.
  have other : ∀ c ∈ "0123456789+-.eE:".toList, Text.simpleFold c ∉ "tf".toList := by
    decide +kernel
  have outside : c ∉ "0123456789+-.eE:".toList := fun mem => other c mem letter
  have unsigned : IsUnsigned c := by
    constructor <;> rintro rfl <;> exact absurd (by decide) outside
  have ends : c.isDigit = false := by
    rw [Bool.eq_false_iff]
    intro digit
    exact outside (List.mem_append_left "+-.eE:".toList (mem_of_isDigit digit))
  have stops : stop? ([] ++ ([] ++ c :: t)) = some c :=
    stop?_append (.inl rfl) (by simp [AllDigits]) (by simpa using unsigned) (by simpa using ends)
  have within : ∀ c ∈ ".eE-:".toList, c ∈ "0123456789+-.eE:".toList := by decide
  exact ⟨c, stops, fun mem => outside (within c mem)⟩

/-- A digit is no mark. -/
lemma isMark_eq_false_of_isDigit (h : c.isDigit = true) : isMark c = false := by
  have all : ∀ c ∈ "0123456789".toList, isMark c = false := by decide
  exact all c (mem_of_isDigit h)

/-- A sign and digits with a point hold no mark of an exponent. -/
lemma any_isMark_of_decimal {sign whole fraction : List Char} (signed : IsSign sign)
    (digits : AllDigits whole) (digits' : AllDigits fraction) :
    (sign ++ (whole ++ '.' :: fraction)).any isMark = false := by
  have none : ∀ {s : List Char}, AllDigits s → s.any isMark = false := fun all =>
    List.any_eq_false.mpr fun c mem => by simp [isMark_eq_false_of_isDigit (all c mem)]
  have first : sign.any isMark = false := by
    obtain rfl | rfl | rfl := signed <;> decide
  rw [List.any_append, List.any_append, List.any_cons, first, none digits, none digits']
  rfl

/-- A text has the form of one type at most, which is told by where it stops. -/
theorem form_of_hasForm {t : Primitive} (h : HasForm t s) : form s = t := by
  -- What stands behind a sign and digits tells the form; forms that share it differ in their length or in
  -- the mark of an exponent.
  cases h with
  | boolean truth =>
    obtain ⟨c, stops, other⟩ := stop?_of_boolean truth
    simp only [String.reduceToList, List.mem_cons, List.not_mem_nil, or_false, not_or] at other
    simp [form, stops, other]
  | @integer sign digits signed all some =>
    have last := stop?_append (t := []) signed all (all.unsigned (by simp)) (by simp)
    rw [List.append_nil] at last
    simp [form, last]
  | @decimal sign whole fraction signed digits digits' some =>
    have last := stop?_append (t := '.' :: fraction) signed digits
      (digits.unsigned (by simp [IsUnsigned])) (by simp)
    rw [form, last]
    exact if_neg (by simp [any_isMark_of_decimal signed digits digits'])
  | @double sign whole point more sign' exponent mark signed digits pointed digits' some marked signed'
      all some' =>
    have ends : mark.isDigit = false ∧ IsUnsigned mark ∧ isMark mark = true := by
      obtain rfl | rfl := marked <;> simp [IsUnsigned, isMark]
    obtain rfl | rfl := pointed
    · -- Without a point, all the digits are in front.
      have last := stop?_append (t := mark :: (sign' ++ exponent)) signed (digits.append digits')
        ((digits.append digits').unsigned (by simpa using ends.2.1)) (by simpa using ends.1)
      rw [List.append_assoc] at last
      rw [List.nil_append, form, last]
      obtain rfl | rfl := marked <;> rfl
    · have last := stop?_append (t := ['.'] ++ (more ++ mark :: (sign' ++ exponent))) signed digits
        (digits.unsigned (by simp [IsUnsigned])) (by simp)
      rw [form, last]
      exact if_pos (by simp [ends.2.2])
  | @date s fit =>
    have last : stop? (s ++ []) = some '-' := fit.stop?_append (n := 3) (by decide) []
    rw [List.append_nil] at last
    have length : s.length = 10 := (List.Forall₂.length_eq fit).symm
    simp [form, last, length]
  | @dateTime s rest fit =>
    have last : stop? (s ++ rest) = some '-' := fit.stop?_append (n := 3) (by decide) rest
    have length : s.length = 19 := (List.Forall₂.length_eq fit).symm
    have longer : (s ++ rest).length ≠ 10 := by
      rw [List.length_append]
      omega
    simp only [form, last, if_neg longer]
  | @time s rest fit =>
    have last : stop? (s ++ rest) = some ':' := fit.stop?_append (n := 1) (by decide) rest
    simp only [form, last]

/-! ## Recognisers in any order -/

/-- A recogniser of a form, with the type that it is for. -/
abbrev Rule := Primitive × (List Char → Bool)

/-- The recognisers in the order in which they are tried. -/
def rules : List Rule :=
  [(boolean, isBoolean), (integer, isInteger), (decimal, isDecimal), (double, isDouble), (date, isDate),
    (dateTime, isDateTime), (time, isTime)]

/-- The type of the first recogniser that accepts a text. -/
def firstFit : (order : List Rule) → (s : List Char) → Primitive
  | [], _ => string
  | (t, fits) :: order, s => if fits s then t else firstFit order s

/-- The rules in the order of the program give what the program does. -/
lemma firstFit_rules (s : List Char) : firstFit rules s = ofTrimmed s :=
  rfl

/-- What is found is the type of a recogniser that accepts the text, if any does. -/
lemma firstFit_cases (order : List Rule) (s : List Char) :
    (∃ rule ∈ order, rule.2 s = true ∧ firstFit order s = rule.1) ∨
      (∀ rule ∈ order, rule.2 s = false) ∧ firstFit order s = string := by
  induction order with
  | nil => exact .inr ⟨by simp, rfl⟩
  | cons rule order ih =>
    cases fits : rule.2 s with
    | true => exact .inl ⟨rule, .head _, fits, if_pos fits⟩
    | false =>
      have next : firstFit (rule :: order) s = firstFit order s := if_neg (by simp [fits])
      rw [next]
      obtain ⟨later, mem, found⟩ | ⟨none, found⟩ := ih
      · exact .inl ⟨later, .tail _ mem, found⟩
      · exact .inr ⟨List.forall_mem_cons.mpr ⟨fits, none⟩, found⟩

/-- Every rule recognises the form of its type. -/
lemma hasForm_iff_of_mem_rules {rule : Rule} (mem : rule ∈ rules) :
    HasForm rule.1 s ↔ rule.2 s = true := by
  simp only [rules, List.mem_cons, List.not_mem_nil, or_false] at mem
  obtain rfl | rfl | rfl | rfl | rfl | rfl | rfl := mem
  · exact hasForm_boolean_iff
  · exact hasForm_integer_iff
  · exact hasForm_decimal_iff
  · exact hasForm_double_iff
  · exact hasForm_date_iff
  · exact hasForm_dateTime_iff
  · exact hasForm_time_iff

/-- A form belongs to one of the seven types, which all have a recogniser. -/
lemma mem_formed_of_hasForm {t : Primitive} (h : HasForm t s) : t ∈ formed := by
  cases h <;> decide

/-- Every type with a form has a rule. -/
lemma exists_rule {t : Primitive} (h : t ∈ formed) : ∃ rule ∈ rules, rule.1 = t :=
  List.mem_map.mp (show t ∈ rules.map Prod.fst from h)

/-- The type of any text has no form. -/
lemma ne_string_of_mem_formed {t : Primitive} (h : t ∈ formed) : t ≠ string := by
  rintro rfl
  exact absurd h (by decide)

/-- In any order, the recogniser found first is the one of the form that the text has. -/
lemma firstFit_eq_iff {order : List Rule} (perm : order.Perm rules) {t : Primitive} (h : t ∈ formed) :
    firstFit order s = t ↔ HasForm t s := by
  obtain ⟨rule, mem, fits, found⟩ | ⟨none, found⟩ := firstFit_cases order s
  · have own := (hasForm_iff_of_mem_rules (perm.mem_iff.mp mem)).mpr fits
    rw [found]
    constructor
    · rintro rfl
      exact own
    · intro other
      exact (form_of_hasForm own).symm.trans (form_of_hasForm other)
  · refine iff_of_false (fun same => ne_string_of_mem_formed h (same.symm.trans found)) fun own => ?_
    obtain ⟨rule, mem, rfl⟩ := exists_rule h
    have fits := (hasForm_iff_of_mem_rules mem).mp own
    rw [none rule (perm.mem_iff.mpr mem)] at fits
    cases fits

/-- A text without any form is a string, whatever the order of the rules. -/
lemma firstFit_eq_string_iff {order : List Rule} (perm : order.Perm rules) :
    firstFit order s = string ↔ ∀ t, ¬ HasForm t s := by
  constructor
  · intro found t own
    have formed := mem_formed_of_hasForm own
    exact ne_string_of_mem_formed formed (((firstFit_eq_iff perm formed).mpr own).symm.trans found)
  · intro none
    obtain ⟨rule, mem, fits, -⟩ | ⟨-, found⟩ := firstFit_cases order s
    · exact absurd ((hasForm_iff_of_mem_rules (perm.mem_iff.mp mem)).mpr fits) (none rule.1)
    · exact found

/-- The order of the recognisers does not matter. -/
lemma firstFit_of_perm {order : List Rule} (perm : order.Perm rules) :
    firstFit order s = ofTrimmed s := by
  rw [← firstFit_rules]
  obtain formed | none := em (∃ t, HasForm t s)
  · obtain ⟨t, own⟩ := formed
    have mem := mem_formed_of_hasForm own
    exact ((firstFit_eq_iff perm mem).mpr own).trans ((firstFit_eq_iff (.refl _) mem).mpr own).symm
  · have none : ∀ t, ¬ HasForm t s := not_exists.mp none
    exact ((firstFit_eq_string_iff perm).mpr none).trans
      ((firstFit_eq_string_iff (.refl _)).mpr none).symm

/-- Each of the seven types has a form. -/
lemma exists_hasForm {t : Primitive} (h : t ∈ formed) : ∃ s, HasForm t s := by
  obtain ⟨rule, mem, rfl⟩ := exists_rule h
  have accepted : ∀ rule ∈ rules, ∃ v ∈ ["true", "1", ".5", "1e0", "2024-01-15", "2024-01-15T10:30:00",
      "10:30:00"], rule.2 v.toList = true := by
    decide +kernel
  obtain ⟨v, -, fits⟩ := accepted rule mem
  exact ⟨v.toList, (hasForm_iff_of_mem_rules mem).mpr fits⟩

/-- A value is given the type whose form its trimmed text has, and is a string if it has none. Seven
types have a form, no text has two of them, and the recognisers may be tried in any order. -/
theorem infer_decides (value : String) :
    (∀ t ∈ formed, infer value = t ↔ HasForm t (Text.trim value.toList)) ∧
    (infer value = string ↔ ∀ t, ¬ HasForm t (Text.trim value.toList)) ∧
    (∀ t, t ∈ formed ↔ ∃ s, HasForm t s) ∧
    (∀ t u s, HasForm t s → HasForm u s → t = u) ∧
    ∀ order : List Rule, order.Perm rules → firstFit order (Text.trim value.toList) = infer value := by
  refine ⟨fun t mem => ?_, ?_, fun t => ⟨exists_hasForm, ?_⟩, fun t u s own other => ?_,
    fun order perm => firstFit_of_perm perm⟩
  · exact firstFit_eq_iff (.refl rules) mem
  · exact firstFit_eq_string_iff (.refl rules)
  · rintro ⟨s, own⟩
    exact mem_formed_of_hasForm own
  · exact (form_of_hasForm own).symm.trans (form_of_hasForm other)

/-- A point may stand anywhere among the digits of a decimal, but a double ends with a digit: `5.e3` is a
string, and `.5e3` is a double, in whatever order the recognisers are tried. -/
theorem infer_decides_point :
    (infer " 5.e3 " = string ∧ ∀ t, ¬ HasForm t (Text.trim " 5.e3 ".toList)) ∧
    HasForm double (Text.trim " .5e3\n".toList) ∧
    firstFit rules.reverse (Text.trim " .5e3\n".toList) = double := by
  have plain : infer " 5.e3 " = string := by decide +kernel
  have number : infer " .5e3\n" = double := by decide +kernel
  obtain ⟨forms, -, -, -, anyOrder⟩ := infer_decides " .5e3\n"
  exact ⟨⟨plain, (infer_decides " 5.e3 ").2.1.mp plain⟩, (forms double (by decide)).mp number,
    (anyOrder rules.reverse (List.reverse_perm rules)).trans number⟩

end XsdInfer.Primitive
