/-!
# Ordered tables

A table maps keys to values and remembers the order in which the keys were first entered. Entering
a key again changes its value and leaves its place.
-/

namespace XsdInfer

/-- Keys with their values, in the order of first entry. -/
structure Table (α β : Type) where
  entries : List (α × β) := []
deriving DecidableEq, Repr

namespace Table

variable {α β : Type} [DecidableEq α]

/-- The list of entries in which the value at `k` is renewed in place, or entered at the end. -/
def alterEntries (k : α) (f : Option β → β) : List (α × β) → List (α × β)
  | [] => [(k, f none)]
  | (k', v) :: rest => if k = k' then (k', f (some v)) :: rest else (k', v) :: alterEntries k f rest

/-- The table in which the value at `k` is made by `f` out of the value so far. -/
def alter (t : Table α β) (k : α) (f : Option β → β) : Table α β :=
  ⟨alterEntries k f t.entries⟩

/-- The table in which `k` has the value `v`. -/
def insert (t : Table α β) (k : α) (v : β) : Table α β :=
  t.alter k fun _ => v

def get? (t : Table α β) (k : α) : Option β :=
  t.entries.lookup k

def size (t : Table α β) : Nat :=
  t.entries.length

/-- The keys in the order of first entry. -/
def keys (t : Table α β) : List α :=
  t.entries.map Prod.fst

/-- Whether two tables hold the same keys with the same values, in whatever order. -/
def sameMap [DecidableEq β] (s t : Table α β) : Bool :=
  s.size == t.size && s.entries.all fun (k, v) => t.get? k == some v

/-- One key gets its new value, and the others keep theirs. -/
theorem lookup_alterEntries (k x : α) (f : Option β → β) (l : List (α × β)) :
    (alterEntries k f l).lookup x = if x = k then some (f (l.lookup k)) else l.lookup x := by
  induction l with
  | nil =>
    by_cases h : x = k
    · simp [alterEntries, h]
    · simp [alterEntries, List.lookup_cons, beq_false_of_ne h, h]
  | cons e l ih =>
    obtain ⟨a, v⟩ := e
    by_cases hk : k = a <;> by_cases hx : x = a <;> by_cases hxk : x = k <;>
      grind [alterEntries]

/-- Altering a key changes the value there and nowhere else. -/
theorem get?_alter (t : Table α β) (k x : α) (f : Option β → β) :
    (t.alter k f).get? x = if x = k then some (f (t.get? k)) else t.get? x :=
  lookup_alterEntries k x f t.entries

/-- One key has the value that was put in, and the others have theirs. -/
theorem get?_insert (t : Table α β) (k x : α) (v : β) :
    (t.insert k v).get? x = if x = k then some v else t.get? x :=
  get?_alter t k x _

/-- A key that is there keeps its place, and a new one comes last. -/
theorem map_fst_alterEntries (k : α) (f : Option β → β) (l : List (α × β)) :
    (alterEntries k f l).map Prod.fst =
      if k ∈ l.map Prod.fst then l.map Prod.fst else l.map Prod.fst ++ [k] := by
  induction l with
  | nil => rfl
  | cons e l ih =>
    obtain ⟨a, v⟩ := e
    by_cases hk : k = a
    · simp [alterEntries, hk]
    · by_cases hm : k ∈ l.map Prod.fst <;> simp_all [alterEntries]

/-- Altering enters a new key at the end and moves no old one. -/
theorem keys_alter (t : Table α β) (k : α) (f : Option β → β) :
    (t.alter k f).keys = if k ∈ t.keys then t.keys else t.keys ++ [k] :=
  map_fst_alterEntries k f t.entries

end Table

end XsdInfer
