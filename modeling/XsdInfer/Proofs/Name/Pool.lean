import Mathlib.Data.List.Nodup
import Mathlib.Data.List.Perm.Subperm
import XsdInfer.Name.Pool

/-!
# Names are handed out once

Main statement: what a pool hands out was not taken before (`Pool.pick_not_mem`). What is tried for a
base, the base itself and then the base with each number (`trial`), is different at each trial, so that
the trials in vain are no more than the names taken (`le_length_of_taken`).
-/

namespace XsdInfer.Name.Pool

/-- A number is written in digits. -/
lemma isDigit_of_mem_toString {n : Nat} : ∀ c ∈ (toString n).toList, c.isDigit = true := by
  intro c mem
  rw [Nat.toString_eq_ofList_toDigits, String.toList_ofList] at mem
  exact Nat.isDigit_of_mem_toDigits (by decide) (by decide) mem

/-- Different numbers are written differently. -/
lemma toString_injective : Function.Injective (toString : Nat → String) := by
  intro m n written
  rw [Nat.toString_eq_ofList_toDigits, Nat.toString_eq_ofList_toDigits, String.ofList_inj] at written
  rw [← Nat.ofDigitChars_ten_toDigits (n := m), written, Nat.ofDigitChars_ten_toDigits]

/-- Different numbers behind a base make different names. -/
lemma numbered_injective (base : String) : Function.Injective (numbered base) := by
  intro m n same
  have lists : base.toList ++ (toString m).toList = base.toList ++ (toString n).toList := by
    rw [← String.toList_append, ← String.toList_append]
    exact congrArg String.toList same
  exact toString_injective (String.toList_inj.mp (List.append_cancel_left lists))

/-- A number behind a base makes another name. -/
lemma numbered_ne (base : String) (n : Nat) : numbered base n ≠ base := by
  intro h
  have longer := congrArg (fun s : String => s.toList.length) h
  have digits : (toString n).toList ≠ [] := by
    rw [Nat.toString_eq_ofList_toDigits, String.toList_ofList]
    exact Nat.toDigits_ne_nil
  have := List.length_pos_iff.mpr digits
  simp only [numbered, String.toList_append, List.length_append] at longer
  omega

/-- The search for a number goes up. -/
lemma le_freeNumber (p : Pool) (base : String) (trials n : Nat) :
    n ≤ p.freeNumber base trials n := by
  induction trials generalizing n with
  | zero => exact Nat.le_refl n
  | succ trials ih =>
    rw [freeNumber]
    split
    next => exact Nat.le_of_succ_le (ih (n + 1))
    next => exact Nat.le_refl n

/-- A base is handed out as it is, or with a number, if it is taken. -/
lemma pick_cases (p : Pool) (base : String) :
    p.pick base = base ∨ base ∈ p.taken ∧ ∃ n ≥ 2, p.pick base = numbered base n := by
  unfold pick
  split
  next taken => exact .inr ⟨taken, _, le_freeNumber p base _ 2, rfl⟩
  next => exact .inl rfl

/-- If the number found is not free, all trials were made. -/
lemma freeNumber_of_mem {p : Pool} {base : String} {trials n : Nat}
    (h : numbered base (p.freeNumber base trials n) ∈ p.taken) :
    p.freeNumber base trials n = n + trials := by
  induction trials generalizing n with
  | zero => rfl
  | succ trials ih =>
    rw [freeNumber] at h ⊢
    split at h
    next taken =>
      rw [if_pos taken, ih h, Nat.succ_add_eq_add_succ]
    next free => exact absurd h free

/-- The numbers below the one found are not free. -/
lemma mem_of_lt_freeNumber {p : Pool} {base : String} {trials n m : Nat} (from_n : n ≤ m)
    (h : m < p.freeNumber base trials n) : numbered base m ∈ p.taken := by
  induction trials generalizing n with
  | zero => exact absurd from_n (Nat.not_le_of_lt h)
  | succ trials ih =>
    rw [freeNumber] at h
    split at h
    next taken =>
      obtain later | rfl := Nat.lt_or_eq_of_le from_n
      · exact ih later h
      · exact taken
    next => exact absurd from_n (Nat.not_le_of_lt h)

/-! ## Trials -/

/-- What is tried for a base, one trial after another: the base as it is, and then the base with each
number, as `count` writes them in their order. -/
def trial (count : Nat → String) (base : String) : Nat → String
  | 0 => base
  | i + 1 => base ++ count i

/-- The numbers from two on. -/
def fromTwo (i : Nat) : String :=
  toString (i + 2)

/-- Behind the base itself, the trials have numbers from two on. -/
lemma trial_succ (base : String) (i : Nat) : trial fromTwo base (i + 1) = numbered base (i + 2) := rfl

/-- All trials are different. -/
lemma trial_injective (base : String) : Function.Injective (trial fromTwo base) := by
  intro i j same
  cases i with
  | zero =>
    cases j with
    | zero => rfl
    | succ j => exact absurd same.symm (numbered_ne base (j + 2))
  | succ i =>
    cases j with
    | zero => exact absurd same (numbered_ne base (i + 2))
    | succ j =>
      rw [trial_succ, trial_succ] at same
      have := numbered_injective base same
      omega

/-- There are no more trials in vain than names taken. -/
lemma le_length_of_taken {p : Pool} {base : String} {k : Nat}
    (h : ∀ i < k, trial fromTwo base i ∈ p.taken) : k ≤ p.taken.length := by
  have nodup : ((List.range k).map (trial fromTwo base)).Nodup :=
    List.nodup_range.map (trial_injective base)
  have inside : (List.range k).map (trial fromTwo base) ⊆ p.taken := by
    intro name mem
    obtain ⟨i, less, rfl⟩ := List.mem_map.mp mem
    exact h i (List.mem_range.mp less)
  have fewer := (List.subperm_of_subset nodup inside).length_le
  rwa [List.length_map, List.length_range] at fewer

/-- If a base is taken, all trials before the one with the number found are in vain. -/
lemma trial_mem_of_lt {p : Pool} {base : String} {trials i : Nat} (taken : base ∈ p.taken)
    (h : i + 1 < p.freeNumber base trials 2) : trial fromTwo base i ∈ p.taken := by
  cases i with
  | zero => exact taken
  | succ i => exact mem_of_lt_freeNumber (Nat.le_add_left 2 i) h

/-- What is handed out was not taken before. -/
theorem pick_not_mem (p : Pool) (base : String) : p.pick base ∉ p.taken := by
  unfold pick
  split
  next taken =>
    intro h
    -- The base and the names with the numbers tried would be more names than are taken.
    have last := freeNumber_of_mem h
    have all : ∀ i < p.taken.length + 1, trial fromTwo base i ∈ p.taken := by
      intro i less
      apply trial_mem_of_lt taken
      rw [last]
      omega
    exact absurd (le_length_of_taken all) (Nat.not_succ_le_self _)
  next free => exact free

end XsdInfer.Name.Pool
