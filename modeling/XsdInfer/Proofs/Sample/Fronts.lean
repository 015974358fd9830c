import XsdInfer.Proofs.Sample.Pieces

/-!
# Fronts of samples

What the pieces at the front of a sample say does not depend on the text behind them: it can be told
from the text in one way (`Over.exists_split`, `Told.unique`), and another text can stand behind them
(`Over.exists_front`), as long as they are complete before it.
-/

namespace XsdInfer.Sample

open Event (Marks bangKind?)

variable {opened opened₁ opened₂ : List (List Char)} {s t x rest rest₁ rest₂ : List Char}
  {event event₁ event₂ : Event} {events front : List Event}

/-! ## What is told in one way -/

/-- Markup is read in one way. -/
lemma Event.Marks.unique (h₁ : Marks opened s event₁ opened₁ rest₁)
    (h₂ : Marks opened s event₂ opened₂ rest₂) :
    event₁ = event₂ ∧ opened₁ = opened₂ ∧ rest₁ = rest₂ := by
  obtain ⟨_, _, read₁⟩ := exists_ofMarkup_iff (c := ⟨s, 0, opened⟩).mpr h₁
  obtain ⟨_, _, read₂⟩ := exists_ofMarkup_iff (c := ⟨s, 0, opened⟩).mpr h₂
  have same := read₁.symm.trans read₂
  simp only [Except.ok.injEq, Option.some.injEq, Step.mk.injEq, Cursor.mk.injEq] at same
  exact ⟨same.1, same.2.2.2.2, same.2.2.1⟩

/-- There is no markup without text. -/
lemma Event.Marks.not_nil : ¬ Marks opened [] event opened₁ rest := fun h => by
  cases h with
  | empty _ cut => exact cut.not_nil
  | start _ cut => exact cut.not_nil

/-- A run of data that goes on to the next bracket ends in one place. -/
lemma eq_of_run {run run' t t' : List Char} (plain : '<' ∉ run) (plain' : '<' ∉ run')
    (stop : t = [] ∨ t.head? = some '<') (stop' : t' = [] ∨ t'.head? = some '<')
    (h : run ++ t = run' ++ t') : run = run' ∧ t = t' := by
  have taken {run t : List Char} (plain : '<' ∉ run) (stop : t = [] ∨ t.head? = some '<') :
      (run ++ t).takeWhile (· != '<') = run := by
    refine Text.takeWhile_append (Text.bne_of_not_mem plain) fun c mem => ?_
    obtain rfl | bracket := stop
    · cases mem
    · rw [bracket] at mem
      cases mem
      rfl
  obtain rfl : run = run' := by rw [← taken plain stop, h, taken plain' stop']
  exact ⟨rfl, List.append_cancel_left h⟩

/-- All that is told begins with what some pieces at the front say. -/
lemma Over.exists_split (pieces : Over opened s front opened₁ x) (told : Told opened s events) :
    ∃ more, events = front ++ more ∧ Told opened₁ x more := by
  obtain ⟨opened₂, rest, all, ends⟩ := told
  -- By induction on the pieces in front. The first piece of all that is told is of the same kind, for a
  -- bracket stands where markup begins and nowhere in a run.
  induction pieces generalizing events with
  | done => exact ⟨events, rfl, opened₂, rest, all, ends⟩
  | markup marks _ ih =>
    generalize whole : '<' :: _ = u at all
    cases all with
    | done =>
      subst whole
      obtain nil | bracket := ends
      · cases nil
      · obtain rfl := (List.cons.inj bracket).2
        exact absurd marks Event.Marks.not_nil
    | markup marks' all =>
      cases whole
      obtain ⟨rfl, rfl, rfl⟩ := marks.unique marks'
      obtain ⟨more, rfl, told⟩ := ih all
      exact ⟨more, rfl, told⟩
    | @data _ _ run _ _ _ nonempty plain =>
      cases run with
      | nil => exact absurd rfl nonempty
      | cons c run =>
        cases whole
        exact absurd (.head _) plain
  | @data opened₀ opened' run t x front nonempty plain stop _ ih =>
    obtain ⟨c, run, rfl⟩ := List.exists_cons_of_ne_nil nonempty
    generalize whole : c :: run ++ t = u at all
    cases all with
    | done =>
      subst whole
      obtain nil | bracket := ends
      · exact absurd nil (by simp)
      · obtain rfl := (List.cons.inj bracket).1
        exact absurd (.head _) plain
    | markup =>
      cases whole
      exact absurd (.head _) plain
    | data _ plain' stop' all =>
      obtain ⟨rfl, rfl⟩ := eq_of_run plain plain' stop stop' whole
      obtain ⟨more, rfl, told⟩ := ih all
      exact ⟨more, rfl, told⟩

/-- A sample tells one thing. -/
lemma Told.unique {events' : List Event} (h : Told opened s events) (h' : Told opened s events') :
    events = events' := by
  obtain ⟨_, _, pieces, _⟩ := h
  obtain ⟨_, _, pieces', _⟩ := h'
  obtain ⟨more, longer, -⟩ := pieces.exists_split ⟨_, _, pieces', ‹_›⟩
  obtain ⟨more', longer', -⟩ := pieces'.exists_split ⟨_, _, pieces, ‹_›⟩
  have lengths := congrArg List.length longer
  have lengths' := congrArg List.length longer'
  rw [List.length_append] at lengths lengths'
  obtain rfl := List.eq_nil_of_length_eq_zero (l := more) (by omega)
  rw [longer, List.append_nil]

/-! ## What stands behind -/

/-- The kind of markup is told by its first character. -/
lemma bangKind?_cons (c : Char) (s t : List Char) : bangKind? (c :: s) = bangKind? (c :: t) := by
  unfold bangKind?
  split
  next same => cases same; rfl
  next same => cases same; rfl
  next same => cases same; rfl
  next same => cases same; rfl
  next square hyphen upper lower =>
    split
    next same => cases same; exact absurd rfl (square s)
    next same => cases same; exact absurd rfl (hyphen s)
    next same => cases same; exact absurd rfl (upper s)
    next same => cases same; exact absurd rfl (lower s)
    next => rfl

/-- Markup is read alike before any text, if it does not end with the sample. -/
lemma Event.Marks.exists_front (h : Marks opened s event opened₁ t) (nonempty : t ≠ []) :
    ∃ q, s = q ++ t ∧ ∀ t', Marks opened (q ++ t') event opened₁ t' := by
  -- The kind of markup is told by its first characters, which are still there before another rest.
  have tag {content s : List Char} (cut : Text.Cut '>' (Closed none) s content t)
      (plain : ∀ c ∈ s.head?, c ∉ ['!', '/', '?']) (t' : List Char) :
      ∀ c ∈ (content ++ '>' :: t').head?, c ∉ ['!', '/', '?'] := by
    rw [cut.whole] at plain
    cases content <;> exact plain
  cases h with
  | @bang _ s content _ _ _ _ kind cut said =>
    have whole := cut.whole
    match content with
    | [] => cases whole
    | [c] =>
      cases whole
      cases kind
    | c :: k :: u =>
      cases whole
      refine ⟨'!' :: k :: u ++ ['>'], by simp, fun t' => ?_⟩
      have known := (bangKind?_cons k (u ++ '>' :: t') (u ++ '>' :: t)).trans kind
      have text : '!' :: k :: u ++ ['>'] ++ t' = '!' :: k :: (u ++ '>' :: t') := by simp
      rw [text]
      exact .bang known (cut.with_rest t') said
  | @stop _ name s named =>
    obtain none | ⟨a, b, none, rfl⟩ := Text.upTo_cases '>' s
    · rw [Text.upTo_of_not_mem none] at nonempty
      exact absurd rfl nonempty
    · rw [Text.upTo_append none] at named ⊢
      refine ⟨'/' :: a ++ ['>'], by simp, fun t' => ?_⟩
      have cut := Text.upTo_append none t'
      have behind : Marks (name :: opened₁) ('/' :: (a ++ '>' :: t')) .stop opened₁
          (Text.upTo '>' (a ++ '>' :: t')).2 := .stop (by rw [cut]; exact named)
      rw [cut] at behind
      simpa using behind
  | @instruction _ s wide last =>
    obtain none | ⟨a, b, none, whole⟩ := Text.upTo_cases '>' ('?' :: s)
    · rw [Text.upTo_of_not_mem none] at nonempty
      exact absurd rfl nonempty
    · cases a with
      | nil => cases whole
      | cons c a =>
        rw [List.cons_append] at whole
        obtain ⟨rfl, rfl⟩ := List.cons.inj whole
        have cut (t' : List Char) : Text.upTo '>' ('?' :: (a ++ '>' :: t')) = ('?' :: a, t') :=
          Text.upTo_append none t'
        rw [cut] at wide last ⊢
        refine ⟨'?' :: a ++ ['>'], by simp, fun t' => ?_⟩
        have behind : Marks opened ('?' :: (a ++ '>' :: t')) .aside opened
            (Text.upTo '>' ('?' :: (a ++ '>' :: t'))).2 :=
          .instruction (by rw [cut]; exact wide) (by rw [cut]; exact last)
        rw [cut] at behind
        simpa using behind
  | @empty _ s content _ plain cut =>
    refine ⟨content ++ ['/'] ++ ['>'], by simp [cut.whole], fun t' => ?_⟩
    rw [List.append_assoc]
    exact .empty (tag cut plain t') (cut.with_rest t')
  | @start _ s content _ plain cut last =>
    refine ⟨content ++ ['>'], by simp [cut.whole], fun t' => ?_⟩
    rw [List.append_assoc]
    exact .start (tag cut plain t') (cut.with_rest t') last

/-- Pieces at the front are read alike before any text, if they do not end with the sample or with a
bracket. -/
lemma Over.exists_front (pieces : Over opened s front opened₁ x) (nonempty : x ≠ [])
    (plain : x.head? ≠ some '<') :
    ∃ p, s = p ++ x ∧ ∀ y, Over opened (p ++ y) front opened₁ y := by
  induction pieces with
  | done => exact ⟨[], rfl, fun y => .done⟩
  | markup marks _ ih =>
    obtain ⟨p, rfl, behind⟩ := ih nonempty plain
    obtain ⟨q, rfl, here⟩ := marks.exists_front (by simp [nonempty])
    refine ⟨'<' :: q ++ p, by simp, fun y => ?_⟩
    rw [List.append_assoc]
    exact .markup (here _) (behind y)
  | @data _ _ run t x _ some none stop _ ih =>
    obtain ⟨p, rfl, behind⟩ := ih nonempty plain
    refine ⟨run ++ p, by simp, fun y => ?_⟩
    rw [List.append_assoc]
    refine .data some none (.inr ?_) (behind y)
    -- The pieces behind the run begin with its bracket, for the text behind all of them does not.
    obtain nil | bracket := stop
    · exact absurd (List.append_eq_nil_iff.mp nil).2 nonempty
    · cases p with
      | nil => exact absurd bracket plain
      | cons c p => exact bracket

end XsdInfer.Sample
