import XsdInfer.Proofs.Name.Characters
import XsdInfer.Strict.Character

/-!
# Names of the standard

Names with and without a qualifier as Namespaces in XML 1.0 has them, with the characters of the fifth
edition of XML 1.0, which strict readers go by, too (`IsQName`). Main statements: a name that is accepted is
one of the standard, unless it has one of a few letters and numbers that the standard leaves out
(`isQName_iff_of_isQualified`); and a name of the standard is accepted, unless it has a character that
Unicode takes for neither a letter nor a number (`isQualified_iff_of_isQName`). In both cases the place of
the character matters; ASCII has no such characters (`isQualified_iff_isQName_of_ascii`).
-/

namespace XsdInfer

namespace Text.CodePoints

variable {s t u : CodePoints} {c : Char}

/-- Whether a range is a part of some others: of one of them, or of one and another that goes on behind
it. -/
def covers (rs : List (Nat × Nat)) (r : Nat × Nat) : Bool :=
  (rs.any fun q => q.1.ble r.1 && r.2.ble q.2)
    || rs.any fun q => rs.any fun q' => q.1.ble r.1 && q'.1.ble (q.2 + 1) && r.2.ble q'.2

/-- A number in a range that is covered lies in one of the ranges that cover it. -/
lemma exists_of_covers {rs : List (Nat × Nat)} {r : Nat × Nat} {n : Nat} (h : covers rs r = true)
    (low : r.1 ≤ n) (high : n ≤ r.2) : ∃ q ∈ rs, q.1 ≤ n ∧ n ≤ q.2 := by
  simp only [covers, Bool.or_eq_true, List.any_eq_true, Bool.and_eq_true, Nat.ble_eq] at h
  obtain ⟨q, mem, inside⟩ | ⟨q, mem, q', mem', inside⟩ := h
  · exact ⟨q, mem, by omega⟩
  · by_cases front : n ≤ q.2
    · exact ⟨q, mem, by omega⟩
    · exact ⟨q', mem', by omega⟩

/-- A set, each range of which is covered by those of two others, is a part of their union. -/
lemma contains_or_of_covers (h : s.ranges.all (covers (t.ranges ++ u.ranges)) = true)
    (mem : s.contains c = true) : t.contains c = true ∨ u.contains c = true := by
  obtain ⟨r, mem, low, high⟩ := contains_iff.mp mem
  obtain ⟨q, mem, inside⟩ := exists_of_covers (List.all_eq_true.mp h r mem) low high
  obtain left | right := List.mem_append.mp mem
  · exact .inl (contains_iff.mpr ⟨q, left, inside⟩)
  · exact .inr (contains_iff.mpr ⟨q, right, inside⟩)

/-- A character of one of two sets whose ranges are apart is in the second just if it is not in the
first. -/
lemma contains_iff_of_apart
    (apart : (s.ranges.all fun r => t.ranges.all fun q => r.2 < q.1 || q.2 < r.1) = true)
    (one : s.contains c = true ∨ t.contains c = true) : t.contains c = true ↔ ¬ s.contains c = true := by
  refine ⟨fun right left => ?_, one.resolve_left⟩
  obtain ⟨r, mem, low, high⟩ := contains_iff.mp left
  obtain ⟨q, mem', low', high'⟩ := contains_iff.mp right
  have apart := List.all_eq_true.mp (List.all_eq_true.mp apart r mem) q mem'
  simp only [Bool.or_eq_true, decide_eq_true_eq] at apart
  omega

end Text.CodePoints

namespace Name

open Strict (isNameStart isNameChar nameStartRanges nameFollowRanges)
open Text (CodePoints)

/-! ## The standard -/

/-- A name without a colon. -/
structure IsNCName (s : List Char) : Prop where
  named : ∃ c t, s = c :: t ∧ isNameStart c = true ∧ ∀ d ∈ t, isNameChar d = true
  plain : ':' ∉ s

/-- A name without a colon, or two of them joined by one. -/
inductive IsQName : List Char → Prop where
  | unprefixed {s : List Char} :
    IsNCName s →
    IsQName s
  | prefixed {q r : List Char} :
    IsNCName q →
    IsNCName r →
    IsQName (q ++ ':' :: r)

/-! ## Parts of names -/

/-- At most two parts between the colons of a text, each with a property. -/
def Halves (P : List Char → Prop) (s : List Char) : Prop :=
  (s.splitOn ':').length ≤ 2 ∧ ∀ part ∈ s.splitOn ':', P part

/-- A part of a text begins with a character of one class, or goes on with one of another class. -/
def HasAt (first later : Char → Prop) (s : List Char) : Prop :=
  ∃ part ∈ s.splitOn ':', (∃ c ∈ part.head?, first c) ∨ ∃ c ∈ part.tail, later c

variable {P Q : List Char → Prop} {s : List Char} {name : String}

/-- If no part has a colon, a text of at most two parts is one of them or two with a colon between. -/
lemma halves_iff (plain : ∀ s, P s → ':' ∉ s) :
    Halves P s ↔ P s ∨ ∃ q r, s = q ++ ':' :: r ∧ P q ∧ P r := by
  constructor
  · rintro ⟨two, all⟩
    obtain none | ⟨q, r, none, rfl⟩ := Text.upTo_cases ':' s
    · rw [List.splitOn_eq_singleton none] at all
      exact .inl (all s (.head _))
    · rw [List.splitOn_append_cons_self_of_not_mem none] at two all
      obtain none' | ⟨a, b, none', rfl⟩ := Text.upTo_cases ':' r
      · rw [List.splitOn_eq_singleton none'] at all
        exact .inr ⟨q, r, rfl, all q (.head _), all r (.tail _ (.head _))⟩
      · have more := List.length_pos_iff.mpr (List.splitOn_ne_nil ':' b)
        rw [List.splitOn_append_cons_self_of_not_mem none', List.length_cons, List.length_cons] at two
        omega
  · rintro (one | ⟨q, r, rfl, left, right⟩)
    · rw [Halves, List.splitOn_eq_singleton (plain s one)]
      exact ⟨by simp, by simpa using one⟩
    · rw [Halves, List.splitOn_append_cons_self_of_not_mem (plain q left),
        List.splitOn_eq_singleton (plain r right)]
      exact ⟨by simp, by simp [left, right]⟩

/-- Texts in two halves have another property, too, if their parts have it. -/
lemma halves_iff_of_halves {bad : List Char → Prop} (parts : ∀ part, P part → (Q part ↔ ¬ bad part))
    (h : Halves P s) : Halves Q s ↔ ¬ ∃ part ∈ s.splitOn ':', bad part := by
  rw [not_exists, Halves, and_iff_right h.1]
  refine forall_congr' fun part => ?_
  rw [not_and]
  exact forall_congr' fun mem => parts part (h.2 part mem)

/-- A simple name has no colon. -/
lemma not_mem_colon_of_isSimple (h : isSimple s = true) : ':' ∉ s := fun mem =>
  (not_mem_delimiters_of_isFollow (all_isFollow_of_isSimple h ':' mem)).2 rfl

/-- A qualified name has at most two parts, each of them a simple name. -/
lemma isQualified_iff : isQualified name = true ↔ Halves (isSimple · = true) name.toList := by
  rw [halves_iff fun s => not_mem_colon_of_isSimple]
  constructor
  · intro h
    obtain ⟨simple, -⟩ | ⟨q, r, left, right, whole, -⟩ := isQualified_cases h
    · exact .inl simple
    · exact .inr ⟨q, r, whole, left, right⟩
  · rintro (simple | ⟨q, r, whole, left, right⟩)
    · rw [isQualified, split_of_isSimple simple]
      exact simple
    · rw [isQualified, split, whole, Text.cutAt_append (not_mem_colon_of_isSimple left)]
      simp [left, right]

/-- The standard too admits at most two parts, each of them a name without a colon. -/
lemma isQName_iff : IsQName s ↔ Halves IsNCName s := by
  rw [halves_iff fun s => IsNCName.plain]
  constructor
  · rintro (one | ⟨left, right⟩)
    · exact .inl one
    · exact .inr ⟨_, _, rfl, left, right⟩
  · rintro (one | ⟨q, r, rfl, left, right⟩)
    · exact .unprefixed one
    · exact .prefixed left right

/-! ## Characters of accepted names -/

/-- The letters that start no name of the standard. -/
def strayStart : CodePoints := ⟨[
  (0xAA, 0xAA), (0xB5, 0xB5), (0xBA, 0xBA), (0x345, 0x345), (0x363, 0x36F), (0x24B6, 0x24E9)]⟩

/-- The letters and numbers that do not stand in a name of the standard. -/
def strayFollow : CodePoints := ⟨[
  (0xAA, 0xAA), (0xB2, 0xB3), (0xB5, 0xB5), (0xB9, 0xBA), (0xBC, 0xBE), (0x2460, 0x249B),
  (0x24B6, 0x24FF), (0x2776, 0x2793)]⟩

/-- The ranges of all characters that stand in names of the standard, put into one set. -/
lemma isNameChar_eq (c : Char) :
    isNameChar c = CodePoints.contains ⟨nameFollowRanges ++ nameStartRanges⟩ c := by
  rw [CodePoints.contains, List.any_append, Bool.or_comm]
  rfl

/-- Of the characters that start a simple name, the standard refuses the stray ones. -/
lemma isNameStart_iff_of_isStart {c : Char} (h : isStart c = true) :
    isNameStart c = true ↔ ¬ strayStart.contains c = true := by
  refine CodePoints.contains_iff_of_apart (t := ⟨nameStartRanges⟩) (by decide) ?_
  simp only [isStart, Bool.or_eq_true, beq_iff_eq] at h
  obtain letter | rfl := h
  · exact CodePoints.contains_or_of_covers (by decide +kernel) letter
  · exact .inr (by decide)

/-- Of the characters in a simple name, the standard refuses the stray ones. -/
lemma isNameChar_iff_of_isFollow {c : Char} (h : isFollow c = true) :
    isNameChar c = true ↔ ¬ strayFollow.contains c = true := by
  rw [isNameChar_eq]
  refine CodePoints.contains_iff_of_apart (by decide) ?_
  simp only [isFollow, Bool.or_eq_true, beq_iff_eq] at h
  obtain ((((letter | number) | rfl) | rfl) | rfl) | rfl := h
  · exact CodePoints.contains_or_of_covers (by decide +kernel) letter
  · exact CodePoints.contains_or_of_covers (by decide +kernel) number
  · exact .inr (by decide)
  · exact .inr (by decide)
  · exact .inr (by decide)
  · exact .inr (by decide)

/-- A text that is accepted as a name without a colon is one of the standard just if none of its
characters is astray. -/
lemma isNCName_iff_of_isSimple {part : List Char} (h : isSimple part = true) :
    IsNCName part ↔ ¬ ((∃ c ∈ part.head?, strayStart.contains c = true) ∨
      ∃ c ∈ part.tail, strayFollow.contains c = true) := by
  have plain := not_mem_colon_of_isSimple h
  obtain ⟨c, t, rfl, first⟩ := exists_cons_of_isSimple h
  have later : ∀ d ∈ t, isFollow d = true := fun d mem => all_isFollow_of_isSimple h d (.tail _ mem)
  constructor
  · rintro ⟨⟨_, _, same, start, rest⟩, -⟩
    obtain ⟨rfl, rfl⟩ := List.cons.inj same
    rintro (⟨d, mem, stray⟩ | ⟨d, mem, stray⟩)
    · obtain rfl : c = d := Option.some.inj mem
      exact (isNameStart_iff_of_isStart first).mp start stray
    · exact (isNameChar_iff_of_isFollow (later d mem)).mp (rest d mem) stray
  · intro none
    refine ⟨⟨c, t, rfl, ?_, fun d mem => ?_⟩, plain⟩
    · exact (isNameStart_iff_of_isStart first).mpr fun stray => none (.inl ⟨c, rfl, stray⟩)
    · exact (isNameChar_iff_of_isFollow (later d mem)).mpr fun stray => none (.inr ⟨d, mem, stray⟩)

/-- An accepted name is one of the standard just if none of its characters is astray. -/
theorem isQName_iff_of_isQualified (h : isQualified name = true) : IsQName name.toList ↔
    ¬ HasAt (strayStart.contains · = true) (strayFollow.contains · = true) name.toList := by
  rw [isQName_iff]
  exact halves_iff_of_halves (fun part => isNCName_iff_of_isSimple) (isQualified_iff.mp h)

/-! ## Characters of names that are refused -/

/-- A name of the standard is simple unless one of its characters is refused. -/
lemma isSimple_iff_of_isNCName {part : List Char} (h : IsNCName part) :
    isSimple part = true ↔ ¬ ((∃ c ∈ part.head?, isStart c = false) ∨
      ∃ c ∈ part.tail, isFollow c = false) := by
  obtain ⟨⟨c, t, rfl, -⟩, -⟩ := h
  rw [isSimple, Bool.and_eq_true, List.all_eq_true, not_or]
  refine and_congr ?_ ?_
  · simp
  · simp

/-- A name of the standard is accepted just if its parts begin with letters and low lines and go on with
what may follow these. -/
theorem isQualified_iff_of_isQName (h : IsQName name.toList) : isQualified name = true ↔
    ¬ HasAt (isStart · = false) (isFollow · = false) name.toList := by
  rw [isQualified_iff]
  exact halves_iff_of_halves (fun part => isSimple_iff_of_isNCName) (isQName_iff.mp h)

/-! ## ASCII names -/

/-- Whether a character is one of the 52 letters. -/
def IsLetter (c : Char) : Prop :=
  0x41 ≤ c.toNat ∧ c.toNat ≤ 0x5A ∨ 0x61 ≤ c.toNat ∧ c.toNat ≤ 0x7A

instance (c : Char) : Decidable (IsLetter c) :=
  inferInstanceAs (Decidable (_ ∨ _))

/-- A letter by its category is alphabetic. -/
lemma isAlphabetic_of_isLetter {c : Char} (h : IsLetter c) : Text.isAlphabetic c = true := by
  refine CodePoints.contains_iff.mpr ?_
  obtain upper | lower := h
  · exact ⟨(0x41, 0x5A), .head _, upper⟩
  · exact ⟨(0x61, 0x7A), .tail _ (.head _), lower⟩

/-- An ASCII character that starts a name of the standard starts a simple one, but for the colon. -/
lemma isStart_of_ascii {c : Char} (ascii : c.toNat < 0x80) (h : isNameStart c = true)
    (other : c ≠ ':') : isStart c = true := by
  have shape : IsLetter c ∨ c = '_' :=
    Text.of_ascii (p := fun c => isNameStart c = true → c ≠ ':' → IsLetter c ∨ c = '_')
      (by decide +kernel) ascii h other
  simpa [isStart] using shape.imp_left isAlphabetic_of_isLetter

/-- An ASCII character in a name of the standard may stand in a simple one, but for the colon. -/
lemma isFollow_of_ascii {c : Char} (ascii : c.toNat < 0x80) (h : isNameChar c = true)
    (other : c ≠ ':') : isFollow c = true := by
  have shape : IsLetter c ∨ (0x30 ≤ c.toNat ∧ c.toNat ≤ 0x39) ∨ c ∈ ['_', '-', '.'] :=
    Text.of_ascii (p := fun c => isNameChar c = true → c ≠ ':' →
      IsLetter c ∨ (0x30 ≤ c.toNat ∧ c.toNat ≤ 0x39) ∨ c ∈ ['_', '-', '.'])
      (by decide +kernel) ascii h other
  obtain letter | digit | mark := shape
  · simp [isFollow, isAlphabetic_of_isLetter letter]
  · have number : Text.isNumeric c = true := CodePoints.contains_iff.mpr ⟨(0x30, 0x39), .head _, digit⟩
    simp [isFollow, number]
  · have marks : ∀ c ∈ ['_', '-', '.'], isFollow c = true := by simp [isFollow]
    exact marks c mark

/-- No ASCII character is stray. -/
lemma not_stray_of_ascii {c : Char} (ascii : c.toNat < 0x80) :
    ¬ strayStart.contains c = true ∧ ¬ strayFollow.contains c = true :=
  Text.of_ascii (p := fun c => ¬ strayStart.contains c = true ∧ ¬ strayFollow.contains c = true)
    (by decide +kernel) ascii

/-- An ASCII text is a simple name if it is one of the standard. -/
lemma isSimple_iff_of_ascii (ascii : ∀ c ∈ s, c.toNat < 0x80) : isSimple s = true ↔ IsNCName s := by
  constructor
  · intro simple
    rw [isNCName_iff_of_isSimple simple]
    rintro (⟨c, mem, stray⟩ | ⟨c, mem, stray⟩)
    · exact (not_stray_of_ascii (ascii c (List.mem_of_head? mem))).1 stray
    · exact (not_stray_of_ascii (ascii c (List.mem_of_mem_tail mem))).2 stray
  · rintro ⟨⟨c, t, rfl, first, later⟩, plain⟩
    obtain ⟨other, others⟩ := List.ne_and_not_mem_of_not_mem_cons plain
    rw [isSimple, Bool.and_eq_true, List.all_eq_true]
    refine ⟨isStart_of_ascii (ascii c (.head _)) first (Ne.symm other), fun d mem => ?_⟩
    refine isFollow_of_ascii (ascii d (.tail _ mem)) (later d mem) ?_
    rintro rfl
    exact others mem

/-- The ASCII names that are accepted are those of the standard. -/
theorem isQualified_iff_isQName_of_ascii (ascii : ∀ c ∈ name.toList, c.toNat < 0x80) :
    isQualified name = true ↔ IsQName name.toList := by
  rw [isQualified_iff, isQName_iff, halves_iff fun s => not_mem_colon_of_isSimple,
    halves_iff fun s => IsNCName.plain]
  refine or_congr (isSimple_iff_of_ascii ascii) ?_
  refine exists_congr fun q => exists_congr fun r => and_congr_right fun whole => ?_
  rw [whole, List.forall_mem_append, List.forall_mem_cons] at ascii
  exact and_congr (isSimple_iff_of_ascii ascii.1) (isSimple_iff_of_ascii ascii.2.2)

end Name

end XsdInfer
