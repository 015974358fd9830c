import XsdInfer.Text.Blank

/-!
# Cutting a text in two

Readers take a text apart by cutting it at a mark. Each cut comes with the lemma that its rest is
no longer than the text, which is why readers end.
-/

namespace XsdInfer.Text

/-- The part before the first `mark` and the part after it, if there is one. -/
def cutAt (mark : Char) (s : List Char) : Option (List Char × List Char) :=
  match s.dropWhile (· != mark) with
  | [] => none
  | _ :: rest => some (s.takeWhile (· != mark), rest)

/-- The part before the first `mark` and the part after it; the whole text and nothing, if there is
none. -/
def upTo (mark : Char) (s : List Char) : List Char × List Char :=
  (s.takeWhile (· != mark), (s.dropWhile (· != mark)).drop 1)

/-- The text behind `lead`, if it begins with it. -/
def behind? : (lead s : List Char) → Option (List Char)
  | [], s => some s
  | _ :: _, [] => none
  | a :: lead, c :: s => if a = c then behind? lead s else none

/-- Whether `lead` stands at the start of a text, in any case of the ASCII letters. -/
def startsFolded (lead s : List Char) : Bool :=
  (s.take lead.length).map Char.toLower == lead.map Char.toLower

/-- Whether `part` occurs somewhere in the text. -/
def occurs (part : List Char) : List Char → Bool
  | [] => part.isEmpty
  | c :: s => part.isPrefixOf (c :: s) || occurs part s

/-- What is left behind a run of characters is no longer than the text. -/
theorem length_dropWhile_le (p : Char → Bool) (s : List Char) :
    (s.dropWhile p).length ≤ s.length :=
  (List.dropWhile_sublist p).length_le

/-- A text is its cut parts with the mark between them. -/
theorem eq_of_cutAt {mark : Char} {s a b : List Char} (h : cutAt mark s = some (a, b)) :
    s = a ++ mark :: b ∧ mark ∉ a := by
  unfold cutAt at h
  have whole := List.takeWhile_append_dropWhile (p := (· != mark)) (l := s)
  split at h
  next => cases h
  next c rest eq =>
    obtain ⟨rfl, rfl⟩ := Prod.mk.inj (Option.some.inj h)
    have at_mark : (c != mark) = false := by
      have := List.head?_dropWhile_not (· != mark) s
      rw [eq] at this
      simpa using this
    have : c = mark := by simpa using at_mark
    subst this
    refine ⟨by rw [← eq, whole], fun mem => ?_⟩
    simpa using List.all_eq_true.mp List.all_takeWhile c mem

/-- What stands behind a mark is shorter than the text. -/
theorem length_lt_of_cutAt {mark : Char} {s a b : List Char} (h : cutAt mark s = some (a, b)) :
    b.length < s.length := by
  rw [(eq_of_cutAt h).1, List.length_append, List.length_cons]
  omega

/-- What is left from a mark on is no longer than the text. -/
theorem length_upTo_le (mark : Char) (s : List Char) : (upTo mark s).2.length ≤ s.length := by
  have := length_dropWhile_le (· != mark) s
  simp only [upTo, List.length_drop]
  omega

/-- A text is `lead` and what is behind it. -/
theorem eq_of_behind? {lead s rest : List Char} (h : behind? lead s = some rest) :
    s = lead ++ rest := by
  fun_induction behind? lead s with
  | case1 => simp_all
  | case2 => cases h
  | case3 a lead s ih => simp_all
  | case4 => cases h

/-- What stands behind a lead is found behind it. -/
@[simp]
theorem behind?_append (lead rest : List Char) : behind? lead (lead ++ rest) = some rest := by
  induction lead with
  | nil => rfl
  | cons a lead ih => simp [behind?, ih]

end XsdInfer.Text
