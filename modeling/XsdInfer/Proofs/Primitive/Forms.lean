import Mathlib.Data.List.Basic
import Mathlib.Data.List.Forall2
import XsdInfer.Primitive.Lexical
import XsdInfer.Proofs.Text.Cut
import XsdInfer.Proofs.Text.Folding

/-!
# The forms of values

What the texts of each primitive type look like is given as a relation (`HasForm`), with one case for
each of the seven types that have a form of their own. Main statements: each recogniser accepts just the
texts of its form (`hasForm_boolean_iff` to `hasForm_time_iff`). A recogniser looks for a sign, the
digits behind it and the character that ends them, so each part of a form is found where it ends.
-/

namespace XsdInfer.Primitive

variable {s t u : List Char} {c : Char}

/-! ## Forms -/

/-- A sign, which may be missing. -/
def IsSign (s : List Char) : Prop :=
  s = [] ∨ s = ['+'] ∨ s = ['-']

/-- Digits, if there are any characters. -/
def AllDigits (s : List Char) : Prop :=
  ∀ c ∈ s, c.isDigit = true

/-- A text of a shape, in which `0` stands for any digit and each other character for itself. -/
def IsShaped (shape s : List Char) : Prop :=
  List.Forall₂ (fun p c => if p = '0' then c.isDigit = true else c = p) shape s

/-- The texts that have the form of a primitive type. -/
inductive HasForm : Primitive → List Char → Prop where
  | boolean {s : List Char} :
    s.map Text.simpleFold = "true".toList ∨ s.map Text.simpleFold = "false".toList →
    HasForm boolean s
  | integer {sign digits : List Char} :
    IsSign sign → AllDigits digits → digits ≠ [] →
    HasForm integer (sign ++ digits)
  | decimal {sign whole fraction : List Char} :
    IsSign sign → AllDigits whole → AllDigits fraction → whole ++ fraction ≠ [] →
    HasForm decimal (sign ++ (whole ++ '.' :: fraction))
  | double {sign whole point more sign' exponent : List Char} {mark : Char} :
    IsSign sign → AllDigits whole → point = [] ∨ point = ['.'] → AllDigits more → more ≠ [] →
    mark = 'e' ∨ mark = 'E' → IsSign sign' → AllDigits exponent → exponent ≠ [] →
    HasForm double (sign ++ (whole ++ (point ++ (more ++ mark :: (sign' ++ exponent)))))
  | date {s : List Char} :
    IsShaped "0000-00-00".toList s →
    HasForm date s
  | dateTime {s rest : List Char} :
    IsShaped "0000-00-00T00:00:00".toList s →
    HasForm dateTime (s ++ rest)
  | time {s rest : List Char} :
    IsShaped "00:00:00".toList s →
    HasForm time (s ++ rest)

/-- The types that have a form. -/
def formed : List Primitive :=
  [boolean, integer, decimal, double, date, dateTime, time]

/-! ## Signs and digits -/

/-- A character that is no sign. -/
def IsUnsigned (c : Char) : Prop :=
  c ≠ '+' ∧ c ≠ '-'

/-- A digit is no sign. -/
lemma isUnsigned_of_isDigit (h : c.isDigit = true) : IsUnsigned c := by
  constructor <;> rintro rfl <;> exact absurd h (by decide)

/-- A text that does not begin with a sign has none to drop. -/
lemma dropSign_of_unsigned (h : ∀ c ∈ s.head?, IsUnsigned c) : dropSign s = s := by
  unfold dropSign
  split
  next => exact absurd rfl (h '+' rfl).1
  next => exact absurd rfl (h '-' rfl).2
  next => rfl

/-- A sign is dropped, if what stands behind it is no other one. -/
lemma dropSign_append (sign : IsSign t) (h : ∀ c ∈ s.head?, IsUnsigned c) : dropSign (t ++ s) = s := by
  obtain rfl | rfl | rfl := sign
  · exact dropSign_of_unsigned h
  · rfl
  · rfl

/-- A text is a sign and what is left without it. -/
lemma exists_sign (s : List Char) : ∃ sign, IsSign sign ∧ s = sign ++ dropSign s := by
  unfold dropSign
  split
  next => exact ⟨['+'], .inr (.inl rfl), rfl⟩
  next => exact ⟨['-'], .inr (.inr rfl), rfl⟩
  next => exact ⟨[], .inl rfl, rfl⟩

namespace AllDigits

/-- What is taken as digits is digits. -/
lemma takeWhile (s : List Char) : AllDigits (s.takeWhile Char.isDigit) := fun c mem =>
  List.all_eq_true.mp List.all_takeWhile c mem

/-- Digits behind digits are digits. -/
lemma append (hs : AllDigits s) (ht : AllDigits t) : AllDigits (s ++ t) :=
  List.forall_mem_append.mpr ⟨hs, ht⟩

/-- Digits in front of something else do not begin with a sign, if that does not. -/
lemma unsigned (hs : AllDigits s) (h : ∀ c ∈ t.head?, IsUnsigned c) :
    ∀ c ∈ (s ++ t).head?, IsUnsigned c := by
  cases s with
  | nil => exact h
  | cons d s =>
    intro c first
    obtain rfl := Option.some.inj first
    exact isUnsigned_of_isDigit (hs _ (.head _))

/-- Digits in front of something else are all taken. -/
lemma takeWhile_append (hs : AllDigits s) (h : ∀ c ∈ t.head?, c.isDigit = false) :
    (s ++ t).takeWhile Char.isDigit = s :=
  Text.takeWhile_append hs h

/-- Digits in front of something else are all dropped. -/
lemma dropWhile_append (hs : AllDigits s) (h : ∀ c ∈ t.head?, c.isDigit = false) :
    (s ++ t).dropWhile Char.isDigit = t :=
  Text.dropWhile_append hs h

end AllDigits

/-- A text is recognised as digits if it is digits and not empty. -/
lemma isDigits_iff : isDigits s = true ↔ AllDigits s ∧ s ≠ [] := by
  simp [isDigits, AllDigits, and_comm]

/-- A text is recognised as an integer if it is a sign and at least one digit. -/
lemma isInteger_iff : isInteger s = true ↔
    ∃ sign digits, IsSign sign ∧ AllDigits digits ∧ digits ≠ [] ∧ s = sign ++ digits := by
  rw [isInteger, isDigits_iff]
  constructor
  · rintro ⟨digits, some⟩
    obtain ⟨sign, signed, whole⟩ := exists_sign s
    exact ⟨sign, dropSign s, signed, digits, some, whole⟩
  · rintro ⟨sign, digits, signed, all, some, rfl⟩
    have bare : dropSign (sign ++ digits) = digits := by
      have unsigned := all.unsigned (t := []) nofun
      rw [List.append_nil] at unsigned
      exact dropSign_append signed unsigned
    rw [bare]
    exact ⟨all, some⟩

/-- A text is recognised as an exponent if it is a letter of either case and an integer. -/
lemma isExponent_iff : isExponent s = true ↔
    ∃ mark t, s = mark :: t ∧ (mark = 'e' ∨ mark = 'E') ∧ isInteger t = true := by
  unfold isExponent
  split
  next t => simp
  next t => simp
  next lower upper =>
    refine iff_of_false (by simp) ?_
    rintro ⟨_, t, rfl, rfl | rfl, -⟩
    · exact lower t rfl
    · exact upper t rfl

/-! ## Letters -/

/-- A letter of the truth values is folded to by the same characters as in the full table. -/
lemma foldLetter_eq_iff {l : Char} (h : l ∈ "truefals".toList) :
    foldLetter c = l ↔ Text.simpleFold c = l := by
  have letter : l ≠ '\x00' ∧ l.toNat < 0x80 := by
    revert l
    decide
  by_cases ascii : c.toNat < 0x80
  · have same : foldLetter c = Text.simpleFold c :=
      Text.of_ascii (p := fun c => foldLetter c = Text.simpleFold c) (by decide +kernel) ascii
    rw [same]
  · have beyond : 0x80 ≤ c.toNat := Nat.le_of_not_lt ascii
    obtain long | kelvin | high := Text.foldPoint_cases beyond
    · obtain rfl : c = '\u017F' := Char.toNat_inj.mp long
      exact Eq.congr_left (by decide +kernel)
    · obtain rfl : c = '\u212A' := Char.toNat_inj.mp kelvin
      revert l
      decide +kernel
    · refine iff_of_false ?_ (Text.simpleFold_ne high letter.1 letter.2)
      have other : c ≠ '\u017F' := by
        rintro rfl
        exact absurd high (by decide +kernel)
      rw [foldLetter, if_neg other, Text.toLower_of_beyond beyond]
      rintro rfl
      omega

/-- The letters of the truth values are folded alike by both ways to fold. -/
lemma map_simpleFold_iff {w : List Char} (h : ∀ l ∈ w, l ∈ "truefals".toList) :
    s.map foldLetter = w ↔ s.map Text.simpleFold = w := by
  induction w generalizing s with
  | nil => simp
  | cons l w ih =>
    obtain ⟨first, rest⟩ := List.forall_mem_cons.mp h
    cases s with
    | nil => simp
    | cons c s => simp [foldLetter_eq_iff first, ih rest]

/-! ## Forms as they are recognised -/

/-- The form of a truth value is recognised. -/
lemma hasForm_boolean_iff : HasForm boolean s ↔ isBoolean s = true := by
  have both : HasForm boolean s ↔
      s.map Text.simpleFold = "true".toList ∨ s.map Text.simpleFold = "false".toList :=
    ⟨fun h => by cases h; assumption, .boolean⟩
  rw [both, isBoolean, Bool.or_eq_true, beq_iff_eq, beq_iff_eq]
  exact or_congr (map_simpleFold_iff (by decide)).symm (map_simpleFold_iff (by decide)).symm

/-- The form of an integer is recognised. -/
lemma hasForm_integer_iff : HasForm integer s ↔ isInteger s = true := by
  rw [isInteger_iff]
  constructor
  · intro h
    cases h with
    | integer signed all some => exact ⟨_, _, signed, all, some, rfl⟩
  · rintro ⟨sign, digits, signed, all, some, rfl⟩
    exact .integer signed all some

/-- The form of a decimal is recognised. -/
lemma hasForm_decimal_iff : HasForm decimal s ↔ isDecimal s = true := by
  constructor
  · intro h
    cases h with
    | @decimal sign whole fraction signed digits more some =>
      have bare : dropSign (sign ++ (whole ++ '.' :: fraction)) = whole ++ '.' :: fraction :=
        dropSign_append signed (digits.unsigned (by simp [IsUnsigned]))
      have stop : ∀ c ∈ ('.' :: fraction).head?, c.isDigit = false := by simp
      rw [isDecimal, bare]
      simp only [digits.takeWhile_append stop, digits.dropWhile_append stop, Bool.and_eq_true,
        List.all_eq_true, Bool.not_eq_true', Bool.and_eq_false_iff, List.isEmpty_eq_false_iff]
      rw [ne_eq, List.append_eq_nil_iff, not_and_or] at some
      exact ⟨more, some⟩
  · intro h
    unfold isDecimal at h
    simp only at h
    split at h
    next fraction point =>
      obtain ⟨sign, signed, whole⟩ := exists_sign s
      rw [Bool.and_eq_true, List.all_eq_true, Bool.not_eq_true', Bool.and_eq_false_iff,
        List.isEmpty_eq_false_iff, List.isEmpty_eq_false_iff] at h
      rw [whole, ← List.takeWhile_append_dropWhile (p := Char.isDigit) (l := dropSign s), point]
      refine .decimal signed (.takeWhile _) h.1 ?_
      rw [ne_eq, List.append_eq_nil_iff, not_and_or]
      exact h.2
    next => cases h

/-- The digits in front of an exponent are found where they end. -/
lemma digits_and_exponent {more tail : List Char} (digits : AllDigits more) (some : more ≠ [])
    (stop : ∀ c ∈ tail.head?, c.isDigit = false) :
    (!((more ++ tail).takeWhile Char.isDigit).isEmpty &&
      isExponent ((more ++ tail).dropWhile Char.isDigit)) = isExponent tail := by
  rw [digits.takeWhile_append stop, digits.dropWhile_append stop, List.isEmpty_eq_false_iff.mpr some]
  rfl

/-- Digits in front of an exponent are a number, with and without a point before them. -/
lemma isDouble_of_exponent {sign whole point more tail : List Char} (signed : IsSign sign)
    (digits : AllDigits whole) (pointed : point = [] ∨ point = ['.']) (digits' : AllDigits more)
    (some : more ≠ []) (last : isExponent tail = true) :
    isDouble (sign ++ (whole ++ (point ++ (more ++ tail)))) = true := by
  obtain ⟨mark, t, rfl, marked, -⟩ := isExponent_iff.mp last
  have stop : ∀ c ∈ (mark :: t).head?, c.isDigit = false ∧ IsUnsigned c := by
    obtain rfl | rfl := marked <;> simp [IsUnsigned]
  have ends := fun c first => (stop c first).1
  have unsigned : ∀ c ∈ (point ++ (more ++ mark :: t)).head?, IsUnsigned c := by
    obtain rfl | rfl := pointed
    · exact digits'.unsigned fun c first => (stop c first).2
    · simp [IsUnsigned]
  rw [isDouble, dropSign_append signed (digits.unsigned unsigned)]
  obtain rfl | rfl := pointed
  · -- Without a point, all the digits are in front.
    have front := digits.append digits'
    have nonempty : whole ++ more ≠ [] := List.append_ne_nil_of_right_ne_nil _ some
    have regroup : whole ++ ([] ++ (more ++ mark :: t)) = (whole ++ more) ++ mark :: t := by simp
    have found := digits_and_exponent front nonempty ends
    rw [front.dropWhile_append ends] at found
    rw [regroup]
    simp only [front.dropWhile_append ends]
    obtain rfl | rfl := marked <;> exact found.trans last
  · have point : (whole ++ (['.'] ++ (more ++ mark :: t))).dropWhile Char.isDigit =
        '.' :: (more ++ mark :: t) := digits.dropWhile_append (by simp)
    simp only [point]
    exact (digits_and_exponent digits' some ends).trans last

/-- Digits with a point and an exponent have the form of a double. -/
lemma hasForm_double_of_exponent {sign whole point more tail : List Char} (signed : IsSign sign)
    (digits : AllDigits whole) (pointed : point = [] ∨ point = ['.']) (digits' : AllDigits more)
    (some : more ≠ []) (last : isExponent tail = true) :
    HasForm double (sign ++ (whole ++ (point ++ (more ++ tail)))) := by
  obtain ⟨mark, t, rfl, marked, behind⟩ := isExponent_iff.mp last
  obtain ⟨sign', exponent, signed', all, some', rfl⟩ := isInteger_iff.mp behind
  exact .double signed digits pointed digits' some marked signed' all some'

/-- The form of a double is recognised. -/
lemma hasForm_double_iff : HasForm double s ↔ isDouble s = true := by
  constructor
  · intro h
    cases h with
    | double signed digits pointed digits' some marked signed' all some' =>
      refine isDouble_of_exponent signed digits pointed digits' some (isExponent_iff.mpr ?_)
      exact ⟨_, _, rfl, marked, isInteger_iff.mpr ⟨_, _, signed', all, some', rfl⟩⟩
  · intro h
    obtain ⟨sign, signed, whole⟩ := exists_sign s
    have parts := List.takeWhile_append_dropWhile (p := Char.isDigit) (l := dropSign s)
    unfold isDouble at h
    simp only at h
    split at h
    next t point =>
      rw [Bool.and_eq_true, Bool.not_eq_true', List.isEmpty_eq_false_iff] at h
      rw [point] at parts
      rw [whole, ← parts, ← List.takeWhile_append_dropWhile (p := Char.isDigit) (l := t)]
      exact hasForm_double_of_exponent signed (.takeWhile _) (.inr rfl) (.takeWhile _) h.1 h.2
    next =>
      rw [Bool.and_eq_true, Bool.not_eq_true', List.isEmpty_eq_false_iff] at h
      rw [whole, ← parts]
      -- The digits count as those behind a point that is not there.
      have none : AllDigits [] := by simp [AllDigits]
      exact hasForm_double_of_exponent signed none (.inl rfl) (.takeWhile _) h.1 h.2

/-! ## Shapes -/

/-- What follows a shape is found just if the text begins with it. -/
lemma afterShape?_eq_some_iff {shape rest : List Char} :
    afterShape? shape s = some rest ↔ ∃ front, IsShaped shape front ∧ s = front ++ rest := by
  induction shape generalizing s with
  | nil => simp only [afterShape?, IsShaped, Option.some.injEq, List.forall₂_nil_left_iff,
      exists_eq_left, List.nil_append]
  | cons p shape ih =>
    cases s with
    | nil =>
      refine iff_of_false (by simp [afterShape?]) ?_
      rintro ⟨front, fit, whole⟩
      obtain ⟨rfl, rfl⟩ := List.append_eq_nil_iff.mp whole.symm
      cases fit
    | cons c s =>
      rw [afterShape?, Option.ite_none_right_eq_some]
      constructor
      · rintro ⟨fit, behind⟩
        obtain ⟨front, fits, rfl⟩ := ih.mp behind
        exact ⟨c :: front, .cons (by simpa using fit) fits, rfl⟩
      · rintro ⟨front, fits, whole⟩
        cases fits with
        | cons fit fits =>
          obtain ⟨rfl, rfl⟩ := List.cons.inj whole
          exact ⟨by simpa using fit, ih.mpr ⟨_, fits, rfl⟩⟩

/-- A shape is found if some front of the text has it. -/
lemma isSome_afterShape?_iff {shape : List Char} :
    (afterShape? shape s).isSome = true ↔ ∃ front rest, IsShaped shape front ∧ s = front ++ rest := by
  rw [Option.isSome_iff_exists, exists_comm]
  simp only [afterShape?_eq_some_iff]

/-- The form of a date is recognised. -/
lemma hasForm_date_iff : HasForm date s ↔ isDate s = true := by
  rw [isDate, beq_iff_eq, afterShape?_eq_some_iff]
  constructor
  · intro h
    cases h with
    | date fit => exact ⟨s, fit, (List.append_nil s).symm⟩
  · rintro ⟨front, fit, rfl⟩
    rw [List.append_nil]
    exact .date fit

/-- The form of a date with a time is recognised. -/
lemma hasForm_dateTime_iff : HasForm dateTime s ↔ isDateTime s = true := by
  rw [isDateTime, isSome_afterShape?_iff]
  constructor
  · intro h
    cases h with
    | dateTime fit => exact ⟨_, _, fit, rfl⟩
  · rintro ⟨front, rest, fit, rfl⟩
    exact .dateTime fit

/-- The form of a time is recognised. -/
lemma hasForm_time_iff : HasForm time s ↔ isTime s = true := by
  rw [isTime, isSome_afterShape?_iff]
  constructor
  · intro h
    cases h with
    | time fit => exact ⟨_, _, fit, rfl⟩
  · rintro ⟨front, rest, fit, rfl⟩
    exact .time fit

end XsdInfer.Primitive
