import Mathlib.Data.Option.Basic
import XsdInfer.Json.Valid
import XsdInfer.Proofs.Text.Lines

/-!
# JSON texts with the same lines

Main statement: of two texts with the same lines, both are JSON or neither is (`isValid_of_sameLines`). No
token holds the end of a line, and between tokens both of its characters are space; so the texts are taken
apart into the same tokens (`tokens?_of_sameLines`), one token after the other (`token?_of_sameLines`).
-/

namespace XsdInfer.Json

open Text (SameLines isSpace)
open Text.SameLines (Inner)

variable {α β γ : Type} {s t : List Char}

/-- Two readings alike: they read the same, and what they leave has the same lines. -/
def Alike (x y : Option (α × List Char)) : Prop :=
  Option.Rel (fun a b => a.1 = b.1 ∧ SameLines a.2 b.2) x y

/-! ## Steps of a reading -/

/-- Two readings that are alike stay so when what they leave is read on alike. -/
lemma Alike.bind {R : β → γ → Prop} {x y : Option (α × List Char)} {f : α × List Char → Option β}
    {g : α × List Char → Option γ} (h : Alike x y)
    (next : ∀ a {u v}, SameLines u v → Option.Rel R (f (a, u)) (g (a, v))) :
    Option.Rel R (x.bind f) (y.bind g) := by
  cases h with
  | none => exact .none
  | @some a b h =>
    obtain ⟨a, u⟩ := a
    obtain ⟨b, v⟩ := b
    obtain ⟨rfl, rest⟩ := h
    exact next a rest

/-- Two readings that leave like texts are alike with the same value beside them. -/
lemma Alike.map {x y : Option (List Char)} (h : Option.Rel SameLines x y) (a : α) :
    Alike (x.map (a, ·)) (y.map (a, ·)) := by
  cases h with
  | none => exact .none
  | some rest => exact .some ⟨rfl, rest⟩

/-- Two choices are related if both of their parts are. -/
lemma rel_orElse {R : α → β → Prop} {x x' : Option α} {y y' : Option β} (first : Option.Rel R x y)
    (second : Option.Rel R x' y') : Option.Rel R (x <|> x') (y <|> y') := by
  cases first with
  | none => exact second
  | some h => exact .some h

/-- What is read is a front that holds no line end, and it is read whatever stands behind it. -/
def Fronted (f : List Char → Option (List Char)) (s rest : List Char) : Prop :=
  ∃ w, s = w ++ rest ∧ (∀ c ∈ w, Inner c) ∧ ∀ rest', f (w ++ rest') = some rest'

/-- A reading that takes a front without line ends takes it from both texts. -/
lemma rel_of_fronted {f : List Char → Option (List Char)}
    (front : ∀ {s rest}, f s = some rest → Fronted f s rest) (h : SameLines s t) :
    Option.Rel SameLines (f s) (f t) := by
  cases left : f s with
  | some rest =>
    obtain ⟨w, rfl, inner, any⟩ := front left
    obtain ⟨rest', rfl, same⟩ := h.split_plain fun mem => (inner _ mem).1 rfl
    rw [any]
    exact .some same
  | none =>
    cases right : f t with
    | some rest =>
      obtain ⟨w, rfl, inner, any⟩ := front right
      obtain ⟨rest', rfl, -⟩ := h.split_right_front inner
      rw [any] at left
      cases left
    | none => exact .none

/-! ## Words and strings -/

/-- A lead of inner characters is taken from both texts or from neither. -/
lemma behind?_of_sameLines {lead : List Char} (inner : ∀ c ∈ lead, Inner c) (h : SameLines s t) :
    Option.Rel SameLines (Text.behind? lead s) (Text.behind? lead t) :=
  rel_of_fronted (fun found => ⟨lead, Text.eq_of_behind? found, inner, Text.behind?_append lead⟩) h

/-- A hexadecimal digit is an inner character. -/
lemma inner_of_hexDigit? {c : Char} {n : Nat} (h : Text.hexDigit? c = some n) : Inner c := by
  have other {d : Char} (none : Text.hexDigit? d = none) : c ≠ d := by
    rintro rfl
    rw [none] at h
    cases h
  exact ⟨other (by decide), other (by decide)⟩

/-- An escaped code unit is made of inner characters. -/
lemma inner_of_codeUnit? {a b c d : Char} {n : Nat} (h : codeUnit? a b c d = some n) :
    ∀ x ∈ ['\\', 'u', a, b, c, d], Inner x := by
  simp only [codeUnit?, Option.bind_eq_bind, Option.bind_eq_some_iff] at h
  obtain ⟨_, ha, _, hb, _, hc, _, hd, -⟩ := h
  simp only [List.forall_mem_cons, List.not_mem_nil, false_implies, implies_true, and_true]
  exact ⟨by decide, by decide, inner_of_hexDigit? ha, inner_of_hexDigit? hb, inner_of_hexDigit? hc,
    inner_of_hexDigit? hd⟩

/-- A piece of a string that is passed over does not change what is read. -/
lemma Fronted.append {p rest : List Char} (inner : ∀ c ∈ p, Inner c)
    (passed : ∀ s, afterString? (p ++ s) = afterString? s) (h : Fronted afterString? s rest) :
    Fronted afterString? (p ++ s) rest := by
  obtain ⟨w, rfl, inside, any⟩ := h
  refine ⟨p ++ w, (List.append_assoc ..).symm, List.forall_mem_append.mpr ⟨inner, inside⟩, ?_⟩
  intro rest'
  rw [List.append_assoc, passed, any]

/-- A string ends where it does, whatever stands behind it. -/
lemma fronted_of_afterString? {rest : List Char} (h : afterString? s = some rest) :
    Fronted afterString? s rest := by
  -- By the recursion of the reader, where each case that goes on has passed some characters of the inside.
  fun_induction afterString? s with
  | case2 s =>
    cases h
    exact ⟨['"'], rfl, by decide, fun _ => rfl⟩
  | case5 a b c d n unit low high a' b' c' d' s' pair ih =>
    obtain ⟨n', unit', -⟩ := (Option.any_eq_true _ _).mp pair
    have inner := List.forall_mem_append.mpr ⟨inner_of_codeUnit? unit, inner_of_codeUnit? unit'⟩
    refine (ih h).append inner fun s => ?_
    rw [afterString?.eq_def]
    simp [unit, low, high, pair]
  | case8 a b c d s n unit low high ih =>
    refine (ih h).append (inner_of_codeUnit? unit) fun s => ?_
    rw [afterString?.eq_def]
    simp [unit, low, high]
  | case9 c s other short ih =>
    have mem : c ∈ ['"', '\\', '/', 'b', 'f', 'n', 'r', 't'] := by simpa [isShortEscape] using short
    have inner : ∀ x ∈ ['"', '\\', '/', 'b', 'f', 'n', 'r', 't'], Inner x ∧ x ≠ 'u' := by decide
    obtain ⟨inside, letter⟩ := inner c mem
    refine (ih h).append (p := ['\\', c]) (by simpa using ⟨by decide, inside⟩) fun s => ?_
    simp [afterString?, short, letter]
  | case12 c s quote unit escape plain ih =>
    have plain : 0x20 ≤ c.toNat ∧ c ≠ '\\' := by simpa using plain
    have inside : Inner c := by
      refine ⟨?_, ?_⟩
      · rintro rfl
        exact absurd plain.1 (by decide)
      · rintro rfl
        exact absurd plain.1 (by decide)
    refine (ih h).append (p := [c]) (by simpa using inside) fun s => ?_
    rw [List.singleton_append, afterString?]
    · simp [plain]
    · exact quote
    · exact fun _ _ _ _ _ slash => absurd slash plain.2
    · exact fun _ _ slash => absurd slash plain.2
  | _ => cases h

/-! ## Numbers -/

/-- What is read by one reading behind a mark, and by another one if the mark is missing. -/
def onMark {β : Type} (mark : Char) (marked other : List Char → β) : List Char → β
  | [] => other []
  | c :: s => if c = mark then marked s else other (c :: s)

/-- Readings with and without an inner mark go alike if both parts do. -/
lemma rel_onMark {R : α → β → Prop} {mark : Char} {f f' : List Char → α} {g g' : List Char → β}
    (inner : Inner mark) (marked : ∀ {u v}, SameLines u v → R (f u) (g v))
    (other : ∀ {u v}, SameLines u v → R (f' u) (g' v)) (h : SameLines s t) :
    R (onMark mark f f' s) (onMark mark g g' t) := by
  cases h with
  | nil => exact other .nil
  | @char c _ _ rest =>
    by_cases here : c = mark
    · rw [onMark, onMark, if_pos here, if_pos here]
      exact marked rest
    · rw [onMark, onMark, if_neg here, if_neg here]
      exact other (.char rest)
  | feed rest =>
    rw [onMark, onMark, if_neg inner.1.symm, if_neg inner.2.symm]
    exact other (.feed rest)

/-- A fraction is read behind a point, if there is one. -/
lemma fraction?_eq : fraction? = onMark '.' digits? fun s => some ([], s) := by
  funext s
  unfold fraction? onMark
  grind

/-- The number that the digits at the start of a text make, and what follows them. -/
def number? (value : List Char → Int) (s : List Char) : Option (Int × List Char) :=
  (digits? s).map fun a => (value a.1, a.2)

/-- Digits are read behind a sign, if there is one. -/
lemma signedDigits?_eq : signedDigits? =
    onMark '+' (number? fun found => ofDigits found)
      (onMark '-' (number? fun found => -ofDigits found) (number? fun found => ofDigits found)) := by
  funext s
  unfold signedDigits? onMark number?
  grind [onMark]

/-- An exponent is read behind a letter of either case, if there is one. -/
lemma exponent?_eq :
    exponent? = onMark 'e' signedDigits? (onMark 'E' signedDigits? fun s => some (0, s)) := by
  funext s
  unfold exponent? onMark
  grind

/-- A number is its magnitude, perhaps behind a hyphen. -/
lemma afterNumber?_eq : afterNumber? = onMark '-' afterMagnitude? afterMagnitude? := by
  funext s
  unfold afterNumber? onMark
  grind

/-- Digits are read alike from both texts. -/
lemma digits?_of_sameLines (h : SameLines s t) : Alike (digits? s) (digits? t) := by
  have alike : Char.isDigit '\n' = Char.isDigit '\r' := by decide
  have plain : '\n' ∉ s.takeWhile Char.isDigit := fun mem =>
    absurd (List.all_eq_true.mp List.all_takeWhile _ mem) (by decide)
  have same := (h.takeWhile alike).eq_of_left plain
  rw [digits?, digits?, same]
  split
  next => exact .none
  next => exact .some ⟨rfl, h.dropWhile alike⟩

/-- A fraction is read alike from both texts. -/
lemma fraction?_of_sameLines (h : SameLines s t) : Alike (fraction? s) (fraction? t) := by
  rw [fraction?_eq]
  exact rel_onMark (by decide) digits?_of_sameLines (fun rest => .some ⟨rfl, rest⟩) h

/-- The number of some digits is read alike from both texts. -/
lemma number?_of_sameLines (value : List Char → Int) (h : SameLines s t) :
    Alike (number? value s) (number? value t) := by
  rw [number?, number?, Option.map_eq_bind, Option.map_eq_bind]
  exact (digits?_of_sameLines h).bind fun found u v rest => .some ⟨rfl, rest⟩

/-- Digits with a sign are read alike from both texts. -/
lemma signedDigits?_of_sameLines (h : SameLines s t) : Alike (signedDigits? s) (signedDigits? t) := by
  rw [signedDigits?_eq]
  exact rel_onMark (by decide) (number?_of_sameLines _)
    (rel_onMark (by decide) (number?_of_sameLines _) (number?_of_sameLines _)) h

/-- An exponent is read alike from both texts. -/
lemma exponent?_of_sameLines (h : SameLines s t) : Alike (exponent? s) (exponent? t) := by
  rw [exponent?_eq]
  exact rel_onMark (by decide) signedDigits?_of_sameLines
    (rel_onMark (by decide) signedDigits?_of_sameLines fun rest => .some ⟨rfl, rest⟩) h

/-- What is left behind a magnitude is alike. -/
lemma afterMagnitude?_of_sameLines (h : SameLines s t) :
    Option.Rel SameLines (afterMagnitude? s) (afterMagnitude? t) := by
  refine (digits?_of_sameLines h).bind fun whole u v h => ?_
  by_cases zero : whole.head? = some '0' ∧ whole ≠ ['0']
  · simp only [if_pos zero]
    exact .none
  · simp only [if_neg zero]
    refine (fraction?_of_sameLines h).bind fun fraction u v h => ?_
    refine (exponent?_of_sameLines h).bind fun exponent u v h => ?_
    by_cases large : isOutOfRange whole fraction exponent = true
    · simp only [if_pos large]
      exact .none
    · simp only [if_neg large]
      exact .some h

/-- What is left behind a number is alike. -/
lemma afterNumber?_of_sameLines (h : SameLines s t) :
    Option.Rel SameLines (afterNumber? s) (afterNumber? t) := by
  rw [afterNumber?_eq]
  exact rel_onMark (by decide) afterMagnitude?_of_sameLines afterMagnitude?_of_sameLines h

/-! ## Tokens -/

/-- The characters that are tokens by themselves, and the quote that begins one. -/
def punctuation : List Char :=
  ['[', ']', '\x7b', '\x7d', ',', ':', '"']

/-- A token that is no punctuation is one of three words or a number. -/
lemma token?_of_not_mem {c : Char} (other : c ∉ punctuation) (s : List Char) :
    token? (c :: s) =
      (Text.behind? "null".toList (c :: s) <|> Text.behind? "true".toList (c :: s)
        <|> Text.behind? "false".toList (c :: s) <|> afterNumber? (c :: s)).map (.scalar, ·) := by
  unfold token?
  split
  case h_8 => rfl
  all_goals
    next same =>
      obtain ⟨rfl, -⟩ := List.cons.inj same
      exact absurd (by decide) other

/-- Tokens are read alike. -/
lemma token?_of_sameLines (h : SameLines s t) : Alike (token? s) (token? t) := by
  have scalar {u v : List Char} (h : SameLines u v) :
      Alike ((Text.behind? "null".toList u <|> Text.behind? "true".toList u
          <|> Text.behind? "false".toList u <|> afterNumber? u).map (Token.scalar, ·))
        ((Text.behind? "null".toList v <|> Text.behind? "true".toList v
          <|> Text.behind? "false".toList v <|> afterNumber? v).map (Token.scalar, ·)) := by
    refine .map ?_ _
    refine rel_orElse (behind?_of_sameLines (by decide) h) ?_
    refine rel_orElse (behind?_of_sameLines (by decide) h) ?_
    exact rel_orElse (behind?_of_sameLines (by decide) h) (afterNumber?_of_sameLines h)
  cases h with
  | nil => exact scalar .nil
  | feed rest =>
    rw [token?_of_not_mem (by decide), token?_of_not_mem (by decide)]
    exact scalar (.feed rest)
  | @char c s t rest =>
    by_cases mem : c ∈ punctuation
    · simp only [punctuation, List.mem_cons, List.not_mem_nil, or_false] at mem
      obtain rfl | rfl | rfl | rfl | rfl | rfl | rfl := mem
      iterate 6 exact .some ⟨rfl, rest⟩
      exact .map (rel_of_fronted fronted_of_afterString? rest) _
    · rw [token?_of_not_mem mem, token?_of_not_mem mem]
      exact scalar (.char rest)

/-! ### The length of what is left -/

/-- Leaves no more than there was. -/
def Shortens (f : List Char → Option (α × List Char)) : Prop :=
  ∀ (s : List Char) (a : α × List Char), f s = some a → a.2.length ≤ s.length

/-- Digits leave less than there was. -/
lemma length_lt_of_digits? {a : List Char × List Char} (h : digits? s = some a) :
    a.2.length < s.length := by
  have whole := congrArg List.length (List.takeWhile_append_dropWhile (p := Char.isDigit) (l := s))
  rw [List.length_append] at whole
  unfold digits? at h
  simp only at h
  split at h
  next => cases h
  next some =>
    cases h
    have := List.length_pos_iff.mpr fun none => some (List.isEmpty_iff.mpr none)
    simp only
    omega

/-- A reading with or without a mark leaves no more than there was, if both parts do. -/
lemma shortens_onMark {mark : Char} {f g : List Char → Option (α × List Char)} (marked : Shortens f)
    (other : Shortens g) : Shortens (onMark mark f g) := by
  intro s a h
  cases s with
  | nil => exact other _ _ h
  | cons c s =>
    rw [onMark] at h
    split at h
    next => exact Nat.le_succ_of_le (marked _ _ h)
    next => exact other _ _ h

/-- The number of some digits leaves no more than there was. -/
lemma shortens_number? (value : List Char → Int) : Shortens (number? value) := by
  intro s a h
  obtain ⟨b, read, rfl⟩ := Option.map_eq_some_iff.mp h
  exact Nat.le_of_lt (length_lt_of_digits? read)

/-- A value that is given without reading leaves all there was. -/
lemma shortens_some (a : α) : Shortens fun s => some (a, s) := by
  intro s b h
  cases h
  exact Nat.le_refl _

/-- A fraction leaves no more than there was. -/
lemma shortens_fraction? : Shortens fraction? := by
  rw [fraction?_eq]
  exact shortens_onMark (fun _ _ h => Nat.le_of_lt (length_lt_of_digits? h)) (shortens_some [])

/-- An exponent leaves no more than there was. -/
lemma shortens_exponent? : Shortens exponent? := by
  have signed : Shortens signedDigits? := by
    rw [signedDigits?_eq]
    exact shortens_onMark (shortens_number? _) (shortens_onMark (shortens_number? _) (shortens_number? _))
  rw [exponent?_eq]
  exact shortens_onMark signed (shortens_onMark signed (shortens_some 0))

/-- A magnitude leaves less than there was. -/
lemma length_lt_of_afterMagnitude? {rest : List Char} (h : afterMagnitude? s = some rest) :
    rest.length < s.length := by
  simp only [afterMagnitude?, Option.bind_eq_bind, Option.bind_eq_some_iff] at h
  obtain ⟨⟨whole, u⟩, read, h⟩ := h
  have first := length_lt_of_digits? read
  simp only at h
  split at h
  next => cases h
  next =>
    simp only [Option.bind_eq_some_iff] at h
    obtain ⟨⟨fraction, v⟩, read', ⟨exponent, w⟩, read'', h⟩ := h
    have second := shortens_fraction? _ _ read'
    have third := shortens_exponent? _ _ read''
    split at h
    next => cases h
    next =>
      cases h
      exact Nat.lt_of_le_of_lt third (Nat.lt_of_le_of_lt second first)

/-- A number leaves less than there was. -/
lemma length_lt_of_afterNumber? {rest : List Char} (h : afterNumber? s = some rest) :
    rest.length < s.length := by
  rw [afterNumber?_eq] at h
  cases s with
  | nil => exact length_lt_of_afterMagnitude? h
  | cons c s =>
    rw [onMark] at h
    split at h
    next => exact Nat.lt_succ_of_lt (length_lt_of_afterMagnitude? h)
    next => exact length_lt_of_afterMagnitude? h

/-- A lead that is not empty leaves less than there was. -/
lemma length_lt_of_behind? {lead rest : List Char} (nonempty : lead ≠ [])
    (h : Text.behind? lead s = some rest) : rest.length < s.length := by
  have := List.length_pos_iff.mpr nonempty
  rw [Text.eq_of_behind? h, List.length_append]
  omega

/-- Each token takes up some of the text. -/
lemma length_lt_of_token? {a : Token × List Char} (h : token? s = some a) : a.2.length < s.length := by
  unfold token? at h
  split at h
  case h_7 t =>
    obtain ⟨rest, read, rfl⟩ := Option.map_eq_some_iff.mp h
    obtain ⟨w, rfl, -⟩ := fronted_of_afterString? read
    simp only [List.length_cons, List.length_append]
    omega
  case h_8 =>
    obtain ⟨rest, read, rfl⟩ := Option.map_eq_some_iff.mp h
    simp only [Option.orElse_eq_orElse, Option.orElse_eq_or, Option.or_eq_some_iff] at read
    obtain null | ⟨-, true | ⟨-, false | ⟨-, number⟩⟩⟩ := read
    · exact length_lt_of_behind? (by decide) null
    · exact length_lt_of_behind? (by decide) true
    · exact length_lt_of_behind? (by decide) false
    · exact length_lt_of_afterNumber? number
  all_goals
    cases h
    exact Nat.lt_succ_self _

/-- As long as there is fuel for the whole text, its tokens are found, and texts with the same lines have
the same ones. -/
lemma tokensWithin?_of_sameLines {fuel fuel' : Nat} (found : List Token) (h : SameLines s t)
    (enough : s.length ≤ fuel) (enough' : t.length ≤ fuel') :
    tokensWithin? fuel found s = tokensWithin? fuel' found t := by
  -- The other text may be longer, so that its fuel is not the same; each token takes at least one character
  -- of both.
  induction fuel generalizing fuel' found s t with
  | zero =>
    obtain rfl := List.length_eq_zero_iff.mp (Nat.le_zero.mp enough)
    cases h
    unfold tokensWithin?
    rfl
  | succ fuel ih =>
    have shorter := Text.length_dropWhile_le isSpace s
    have shorter' := Text.length_dropWhile_le isSpace t
    have skipped := h.dropWhile (p := isSpace) (by decide)
    unfold tokensWithin?
    generalize s.dropWhile isSpace = u at shorter skipped
    generalize t.dropWhile isSpace = v at shorter' skipped
    cases u with
    | nil =>
      rw [skipped.eq_nil_iff.mp rfl]
    | cons c u =>
      cases v with
      | nil => exact absurd (skipped.eq_nil_iff.mpr rfl) (List.cons_ne_nil c u)
      | cons d v =>
        have read := token?_of_sameLines skipped
        cases fuel' with
        | zero => exact absurd (Nat.le_trans shorter' enough') (Nat.not_succ_le_zero _)
        | succ fuel' =>
          simp only
          generalize left : token? (c :: u) = x at read
          generalize right : token? (d :: v) = y at read
          cases read with
          | none => rfl
          | @some a b same =>
            have less := length_lt_of_token? left
            have less' := length_lt_of_token? right
            obtain ⟨token, rest⟩ := a
            obtain ⟨token', rest'⟩ := b
            obtain ⟨rfl, lines⟩ := same
            simp only at less less' lines ⊢
            exact ih _ lines (by omega) (by omega)

/-- Both texts have the same tokens. -/
lemma tokens?_of_sameLines (h : SameLines s t) : tokens? s = tokens? t :=
  tokensWithin?_of_sameLines [] h (Nat.le_refl _) (Nat.le_refl _)

/-- Of two texts with the same lines, both are JSON or neither is. -/
theorem isValid_of_sameLines (h : SameLines s t) : isValid s = isValid t := by
  rw [isValid, isValid, tokens?_of_sameLines h]

end XsdInfer.Json
