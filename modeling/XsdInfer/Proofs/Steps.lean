import Mathlib.Tactic.Lemma

/-!
# Steps that may fail

What is known of a sequence of steps that came to a result: each of them came to one, and a property
that every step keeps holds of the last. Of two runs side by side, one may stop before the other
(`Along`); they go along if each of their steps does.
-/

namespace XsdInfer.Steps

variable {ε ε' α β σ : Type}

/-- A sequence of two steps came to a result because both did. -/
lemma exists_ok_of_bind {x : Except ε α} {f : α → Except ε β} {b : β} (h : x >>= f = .ok b) :
    ∃ a, x = .ok a ∧ f a = .ok b := by
  cases x with
  | error e => cases h
  | ok a => exact ⟨a, rfl, h⟩

/-- A loop came to a result because its first step and the rest did. -/
lemma foldlM_cons_eq_ok_iff {f : σ → α → Except ε σ} {a : α} {l : List α} {s s' : σ} :
    (a :: l).foldlM f s = .ok s' ↔ ∃ t, f s a = .ok t ∧ l.foldlM f t = .ok s' := by
  rw [List.foldlM_cons]
  constructor
  · exact exists_ok_of_bind
  · rintro ⟨t, first, rest⟩
    rw [first]
    exact rest

/-- A loop without steps comes to where it starts. -/
lemma foldlM_nil_eq_ok_iff {f : σ → α → Except ε σ} {s s' : σ} :
    [].foldlM f s = .ok s' ↔ s = s' := by
  rw [List.foldlM_nil]
  exact Except.ok.injEq s s' ▸ .rfl

/-- A loop over two lists came to a result because the loops over both did. -/
lemma foldlM_append_eq_ok_iff {f : σ → α → Except ε σ} {l l' : List α} {s s' : σ} :
    (l ++ l').foldlM f s = .ok s' ↔ ∃ t, l.foldlM f s = .ok t ∧ l'.foldlM f t = .ok s' := by
  rw [List.foldlM_append]
  constructor
  · exact exists_ok_of_bind
  · rintro ⟨t, first, rest⟩
    rw [first]
    exact rest

/-- A sequence of two steps stopped because the first one did, or the second one behind it. -/
lemma error_of_bind {x : Except ε α} {f : α → Except ε β} {e : ε} (h : x >>= f = .error e) :
    x = .error e ∨ ∃ a, x = .ok a ∧ f a = .error e := by
  cases x with
  | error e' =>
    cases h
    exact .inl rfl
  | ok a => exact .inr ⟨a, rfl, h⟩

/-- A loop stopped because one of its steps did. -/
lemma exists_error_of_foldlM {f : σ → α → Except ε σ} {l : List α} {s : σ} {e : ε}
    (h : l.foldlM f s = .error e) : ∃ a ∈ l, ∃ t, f t a = .error e := by
  induction l generalizing s with
  | nil => cases h
  | cons a l ih =>
    rw [List.foldlM_cons] at h
    obtain first | ⟨t, -, rest⟩ := error_of_bind h
    · exact ⟨a, .head _, s, first⟩
    · obtain ⟨b, mem, u, stopped⟩ := ih rest
      exact ⟨b, .tail _ mem, u, stopped⟩

/-- Errors are put in other words, but results stay. -/
lemma eq_ok_of_mapError {x : Except ε α} {g : ε → ε'} {a : α} (h : x.mapError g = .ok a) :
    x = .ok a := by
  cases x with
  | error e => cases h
  | ok a' => cases h; rfl

/-- An error that is told in other words is an error. -/
lemma exists_error_of_mapError {x : Except ε α} {g : ε → ε'} {e : ε'} (h : x.mapError g = .error e) :
    ∃ e', x = .error e' ∧ g e' = e := by
  cases x with
  | error e' => cases h; exact ⟨e', rfl, rfl⟩
  | ok a => cases h

/-- Whether a step came to a result can be seen. -/
lemma exists_ok_iff {x : Except ε α} : (∃ a, x = .ok a) ↔ x.isOk = true := by
  cases x with
  | error e => exact iff_of_false nofun nofun
  | ok a => exact iff_of_true ⟨a, rfl⟩ rfl

/-- What every step of a loop keeps holds behind the loop. -/
lemma keeps_foldlM {P : σ → Prop} {f : σ → α → Except ε σ}
    (keeps : ∀ s a s', P s → f s a = .ok s' → P s') {l : List α} {s s' : σ} (start : P s)
    (done : l.foldlM f s = .ok s') : P s' := by
  induction l generalizing s with
  | nil => cases done; exact start
  | cons a l ih =>
    rw [List.foldlM_cons] at done
    obtain ⟨t, first, rest⟩ := exists_ok_of_bind done
    exact ih (keeps s a t start first) rest

/-! ## Two runs -/

variable {stop : ε → Prop}

/-- The first run comes to the same end as the second, or stops with an error of a given kind. -/
def Along (stop : ε → Prop) (x y : Except ε α) : Prop :=
  x = y ∨ ∃ e, stop e ∧ x = .error e

/-- A run goes along with itself. -/
lemma Along.refl (x : Except ε α) : Along stop x x :=
  .inl rfl

/-- Two runs go along if their first steps do and the rest from any result. -/
lemma Along.bind {x y : Except ε α} {f g : α → Except ε β} (first : Along stop x y)
    (rest : ∀ a, Along stop (f a) (g a)) : Along stop (x >>= f) (y >>= g) := by
  obtain rfl | ⟨e, kind, rfl⟩ := first
  · cases x with
    | error e => exact .refl _
    | ok a => exact rest a
  · exact .inr ⟨e, kind, rfl⟩

/-- Errors are put in other words, which tell the kind as well. -/
lemma Along.mapError {stop' : ε' → Prop} {x y : Except ε α} (h : Along stop x y) {g : ε → ε'}
    (kind : ∀ e, stop e → stop' (g e)) : Along stop' (x.mapError g) (y.mapError g) := by
  obtain rfl | ⟨e, stopped, rfl⟩ := h
  · exact .refl _
  · exact .inr ⟨g e, kind e stopped, rfl⟩

/-- Loops go along, if their steps do. -/
lemma Along.foldlM {f g : σ → α → Except ε σ} (step : ∀ s a, Along stop (f s a) (g s a))
    (l : List α) (s : σ) : Along stop (l.foldlM f s) (l.foldlM g s) := by
  induction l generalizing s with
  | nil => exact .refl _
  | cons a l ih =>
    rw [List.foldlM_cons, List.foldlM_cons]
    exact (step s a).bind ih

end XsdInfer.Steps
