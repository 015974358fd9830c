/-!
# Names handed out once

A pool hands out names and never the same one twice: a name that is taken gets the least number
from two on that makes it free. The search for the number is bounded by the count of names handed
out, since that many trials cannot all be taken.
-/

namespace XsdInfer.Name

/-- The names handed out so far, the latest first. -/
structure Pool where
  taken : List String := []
deriving DecidableEq, Repr

namespace Pool

/-- A base name with a number behind it. -/
def numbered (base : String) (n : Nat) : String :=
  base ++ toString n

/-- The first number from `n` on that makes `base` free, among as many as `trials`. -/
def freeNumber (p : Pool) (base : String) : (trials n : Nat) → Nat
  | 0, n => n
  | trials + 1, n => if numbered base n ∈ p.taken then p.freeNumber base trials (n + 1) else n

/-- The name that is handed out for `base`. -/
def pick (p : Pool) (base : String) : String :=
  if base ∈ p.taken then numbered base (p.freeNumber base p.taken.length 2) else base

def assign (p : Pool) (base : String) : String × Pool :=
  (p.pick base, ⟨p.pick base :: p.taken⟩)

/-- A free name is handed out as it is. -/
theorem pick_of_not_mem {p : Pool} {base : String} (h : base ∉ p.taken) : p.pick base = base := by
  simp [pick, h]

/-- Nothing that was handed out is released. -/
theorem taken_assign (p : Pool) (base : String) :
    (p.assign base).2.taken = (p.assign base).1 :: p.taken := rfl

end Pool

end XsdInfer.Name
