import Mathlib.Order.Bounds.Basic
import XsdInfer.Proofs.Name.Pool

/-!
# Names for one base after another

A call tries one name after another, without a bound, until one is free (`Search`). It has one run,
which ends after at most one more trial than names have been handed out, and hands out the base or the
base with the least number that is free (`serves_assign`). Counting in 32 bits makes no difference as long
as the names handed out can be counted that way. Main statement: this holds of each call of a sequence,
whose names are all different and stay (`assignAll_serves`).
-/

namespace XsdInfer.Name.Pool

variable {names names' : Nat → String} {p q : Pool} {base name : String}

/-! ## The search -/

/-- The trials of a call from the `i`-th on, which is that of `names i`: the first name that is free is
handed out. That many trials are made as the second number says, and they come to a name and the pool
behind it. -/
inductive Search (names : Nat → String) (p : Pool) : Nat → Nat → String × Pool → Prop where
  | free {i : Nat} :
    names i ∉ p.taken →
    Search names p i 1 (names i, ⟨names i :: p.taken⟩)
  | taken {i n : Nat} {r : String × Pool} :
    names i ∈ p.taken →
    Search names p (i + 1) n r →
    Search names p i (n + 1) r

/-- A call has one run, which makes `n` trials and comes to `r`. -/
def Ends (names : Nat → String) (p : Pool) (n : Nat) (r : String × Pool) : Prop :=
  ∀ m s, Search names p 0 m s ↔ m = n ∧ s = r

/-- A search has one end. -/
lemma Search.unique {i m n : Nat} {r s : String × Pool} (h : Search names p i m r)
    (h' : Search names p i n s) : m = n ∧ r = s := by
  induction h generalizing n with
  | free free =>
    cases h' with
    | free => exact ⟨rfl, rfl⟩
    | taken taken => exact absurd taken free
  | taken taken _ ih =>
    cases h' with
    | free free => exact absurd taken free
    | taken _ rest =>
      obtain ⟨rfl, rfl⟩ := ih rest
      exact ⟨rfl, rfl⟩

/-- A search comes to the first name that is free. -/
lemma search_of_first {i k m : Nat} (whole : i + m = k)
    (vain : ∀ j, i ≤ j → j < k → names j ∈ p.taken) (free : names k ∉ p.taken) :
    Search names p i (m + 1) (names k, ⟨names k :: p.taken⟩) := by
  induction m generalizing i with
  | zero =>
    subst whole
    exact .free free
  | succ m ih =>
    apply Search.taken
    · exact vain i (Nat.le_refl i) (by omega)
    · exact ih (by omega) fun j later => vain j (Nat.le_of_succ_le later)

/-- A call ends at the first name that is free. -/
lemma ends_of_first {k : Nat} (vain : ∀ j < k, names j ∈ p.taken) (free : names k ∉ p.taken) :
    Ends names p (k + 1) (names k, ⟨names k :: p.taken⟩) := by
  have run := search_of_first (Nat.zero_add k) (fun j _ => vain j) free
  intro m s
  constructor
  · intro h
    exact h.unique run
  · rintro ⟨rfl, rfl⟩
    exact run

/-- Names that are tried alike up to the first that is free are searched alike. -/
lemma ends_of_agree {k : Nat} (same : ∀ i ≤ k, names' i = names i) (vain : ∀ j < k, names j ∈ p.taken)
    (free : names k ∉ p.taken) : Ends names' p (k + 1) (names k, ⟨names k :: p.taken⟩) := by
  rw [← same k (Nat.le_refl k)] at free ⊢
  refine ends_of_first (fun j less => ?_) free
  rw [same j (Nat.le_of_lt less)]
  exact vain j less

/-! ## Counting in 32 bits -/

/-- The greatest number that 32 bits hold beside the negative ones. -/
def maxWord : Nat :=
  0x7FFFFFFF

/-- The numbers from two on in 32 bits. Behind the greatest one comes the least, which is negative. -/
def word : Nat → Int32
  | 0 => 2
  | i + 1 => word i + 1

/-- The numbers from two on, as they are written when they are counted in 32 bits. -/
def fromTwoInWords (i : Nat) : String :=
  toString (word i)

/-- A word holds its number, as long as that fits. -/
lemma toInt_word {i : Nat} (h : i + 2 ≤ maxWord) : (word i).toInt = ((i + 2 : Nat) : Int) := by
  induction i with
  | zero => rfl
  | succ i ih =>
    have room : i + 3 ≤ 0x7FFFFFFF := h
    have one : (1 : Int32).toInt = 1 := rfl
    rw [word, Int32.toInt_add, ih (Nat.le_of_succ_le h), one, Int.bmod_eq_of_le (by omega) (by omega)]
    rfl

/-- A trial in words is the trial in numbers, as long as its number fits. -/
lemma trial_fromTwoInWords {i : Nat} (h : i + 1 ≤ maxWord) :
    trial fromTwoInWords base i = trial fromTwo base i := by
  cases i with
  | zero => rfl
  | succ i =>
    have number : fromTwoInWords i = toString (word i).toInt := rfl
    rw [trial, trial, number, toInt_word h]
    rfl

/-! ## One call -/

/-- What a call does that hands out `name` for `base` and leaves the pool `q`. -/
structure Serves (p : Pool) (base name : String) (q : Pool) : Prop where
  /-- The search ends after at most one more trial than names are taken. A counter of 32 bits makes no
  difference, as long as it can count so many. -/
  ends : ∃ n ≤ p.taken.length + 1, Ends (trial fromTwo base) p n (name, q) ∧
    (p.taken.length + 1 ≤ maxWord → Ends (trial fromTwoInWords base) p n (name, q))
  plain : base ∉ p.taken → name = base
  numbered : base ∈ p.taken →
    ∃ n, IsLeast {n | 2 ≤ n ∧ base ++ toString n ∉ p.taken} n ∧ name = base ++ toString n
  keeps : q.taken = name :: p.taken

/-- The name that is handed out for a base is the first free one of those that are tried. -/
lemma exists_first (p : Pool) (base : String) :
    ∃ k, p.pick base = trial fromTwo base k ∧ ∀ j < k, trial fromTwo base j ∈ p.taken := by
  unfold pick
  split
  next taken =>
    obtain ⟨m, found⟩ := Nat.exists_eq_add_of_le (le_freeNumber p base p.taken.length 2)
    refine ⟨m + 1, ?_, fun j less => ?_⟩
    · rw [trial_succ, found, Nat.add_comm]
    · exact trial_mem_of_lt taken (by rw [found]; omega)
  next => exact ⟨0, rfl, fun j less => absurd less (Nat.not_lt_zero j)⟩

/-- A call hands out a name in the way that is due. -/
theorem serves_assign (p : Pool) (base : String) :
    Serves p base (p.assign base).1 (p.assign base).2 := by
  obtain ⟨k, found, vain⟩ := exists_first p base
  have free : trial fromTwo base k ∉ p.taken := by
    rw [← found]
    exact pick_not_mem p base
  -- All trials in vain are taken names, and no two of them are the same.
  have few : k ≤ p.taken.length := le_length_of_taken vain
  have result : p.assign base = (trial fromTwo base k, ⟨trial fromTwo base k :: p.taken⟩) := by
    rw [assign, found]
  rw [result]
  constructor
  case ends =>
    refine ⟨k + 1, Nat.succ_le_succ few, ends_of_first vain free, fun room => ?_⟩
    refine ends_of_agree (fun i le => ?_) vain free
    exact trial_fromTwoInWords (by omega)
  case plain =>
    intro unused
    rw [← found]
    exact pick_of_not_mem unused
  case numbered =>
    intro taken
    cases k with
    | zero => exact absurd taken free
    | succ m =>
      refine ⟨m + 2, ⟨⟨Nat.le_add_left 2 m, free⟩, ?_⟩, rfl⟩
      rintro n ⟨two, other⟩
      apply Nat.le_of_not_lt
      intro less
      obtain ⟨j, rfl⟩ := Nat.exists_eq_add_of_le' two
      exact other (vain (j + 1) (by omega))
  case keeps => rfl

/-! ## A sequence of calls -/

/-- The names handed out for bases, one call after another, and the pool behind them. -/
def assignAll (p : Pool) : List String → List String × Pool
  | [] => ([], p)
  | base :: bases =>
    let later := (p.assign base).2.assignAll bases
    ((p.assign base).1 :: later.1, later.2)

/-- Names for two lists are handed out for one and then for the other. -/
lemma assignAll_append (p : Pool) (before behind : List String) :
    p.assignAll (before ++ behind) =
      ((p.assignAll before).1 ++ ((p.assignAll before).2.assignAll behind).1,
        ((p.assignAll before).2.assignAll behind).2) := by
  induction before generalizing p with
  | nil => rfl
  | cons base before ih => rw [List.cons_append, assignAll, ih, assignAll, List.cons_append]

/-- Every base gets a name. -/
lemma length_assignAll (p : Pool) (bases : List String) :
    (p.assignAll bases).1.length = bases.length := by
  induction bases generalizing p with
  | nil => rfl
  | cons base bases ih => rw [assignAll, List.length_cons, ih, List.length_cons]

/-- The names handed out are those taken, the latest first. -/
lemma taken_assignAll (p : Pool) (bases : List String) :
    (p.assignAll bases).2.taken = (p.assignAll bases).1.reverse ++ p.taken := by
  induction bases generalizing p with
  | nil => rfl
  | cons base bases ih =>
    rw [assignAll, ih, taken_assign, List.reverse_cons, List.append_assoc, List.singleton_append]

/-- A fold over the bases leaves the same pool. -/
lemma foldl_assign (p : Pool) (bases : List String) :
    bases.foldl (fun p base => (p.assign base).2) p = (p.assignAll bases).2 := by
  induction bases generalizing p with
  | nil => rfl
  | cons base bases ih => exact ih (p.assign base).2

/-- No name is handed out a second time by a call. -/
lemma nodup_taken_assign (h : p.taken.Nodup) (base : String) : (p.assign base).2.taken.Nodup := by
  rw [taken_assign, List.nodup_cons]
  exact ⟨pick_not_mem p base, h⟩

/-- No name is handed out a second time by a sequence of calls. -/
lemma nodup_taken_assignAll (h : p.taken.Nodup) (bases : List String) :
    (p.assignAll bases).2.taken.Nodup := by
  induction bases generalizing p with
  | nil => exact h
  | cons base bases ih => exact ih (nodup_taken_assign h base)

/-- A new pool hands out different names. -/
lemma nodup_assignAll (bases : List String) : (assignAll {} bases).1.Nodup := by
  have taken := nodup_taken_assignAll (p := {}) List.nodup_nil bases
  rwa [taken_assignAll, List.append_nil, List.nodup_reverse] at taken

/-- A new pool hands out a name for each base, all different, and has exactly these. The name for a base
is the one that is due when the names for the bases before it have been handed out, and comes right behind
these. -/
theorem assignAll_serves (bases : List String) :
    (assignAll {} bases).1.length = bases.length ∧
      (assignAll {} bases).1.Nodup ∧
      (assignAll {} bases).2.taken = (assignAll {} bases).1.reverse ∧
      ∀ before base behind, bases = before ++ base :: behind →
        ∃ name later, (assignAll {} bases).1 = (assignAll {} before).1 ++ name :: later ∧
          Serves (assignAll {} before).2 base name (assignAll {} (before ++ [base])).2 := by
  refine ⟨length_assignAll _ _, nodup_assignAll bases, ?_, ?_⟩
  · rw [taken_assignAll, List.append_nil]
  · rintro before base behind rfl
    refine ⟨_, _, congrArg Prod.fst (assignAll_append _ _ _), ?_⟩
    rw [assignAll_append]
    exact serves_assign _ _

/-- Bases that look like numbered names of others: `x` gets `x3` because `x2` is a base, and `x2`, when it
comes again, `x22`. -/
theorem assignAll_serves_overlapping :
    (assignAll {} ["x2", "x", "x", "x2", "x", "x22"]).1 = ["x2", "x", "x3", "x22", "x4", "x222"] ∧
      Serves (assignAll {} ["x2", "x", "x", "x2"]).2 "x" "x4"
        (assignAll {} ["x2", "x", "x", "x2", "x"]).2 := by
  have names : (assignAll {} ["x2", "x", "x", "x2", "x", "x22"]).1 =
      ["x2", "x", "x3", "x22", "x4", "x222"] := by decide
  refine ⟨names, ?_⟩
  obtain ⟨_, _, _, serves⟩ := assignAll_serves ["x2", "x", "x", "x2", "x", "x22"]
  obtain ⟨name, later, whole, due⟩ := serves ["x2", "x", "x", "x2"] "x" ["x22"] rfl
  have front : (assignAll {} ["x2", "x", "x", "x2"]).1 = ["x2", "x", "x3", "x22"] := by decide
  rw [names, front] at whole
  have rest : ["x4", "x222"] = name :: later :=
    List.append_cancel_left (show ["x2", "x", "x3", "x22"] ++ ["x4", "x222"] = _ from whole)
  obtain ⟨rfl, _⟩ := List.cons.inj rest
  exact due

end XsdInfer.Name.Pool
