import Mathlib.Data.List.Induction
import Mathlib.Data.List.Nodup
import XsdInfer.Table

/-!
# Order of first sight

Types, attributes and children stand in the order in which they are first seen: `eraseDups` keeps
the first sight of each member of a list. Main statement: a table that is filled in a loop has the
keys of the loop in that order (`Table.keys_foldl_alter`).
-/

namespace XsdInfer

namespace FirstSeen

variable {α : Type} [DecidableEq α]

/-- A last item stays if it is seen there for the first time. -/
lemma eraseDups_concat (l : List α) (a : α) :
    (l ++ [a]).eraseDups = if a ∈ l then l.eraseDups else l.eraseDups ++ [a] := by
  rw [List.eraseDups_append]
  by_cases h : a ∈ l <;> simp [List.removeAll, h, List.eraseDups_cons]

/-- Nothing is left twice. -/
lemma nodup_eraseDups (l : List α) : l.eraseDups.Nodup := by
  induction l using List.reverseRecOn with
  | nil => exact List.nodup_nil
  | append_singleton l a ih =>
    rw [eraseDups_concat]
    split
    next => exact ih
    next new =>
      rw [← List.concat_eq_append]
      exact ih.concat fun old => new (List.mem_eraseDups.mp old)

/-- A list without repetition is left as it is. -/
lemma eraseDups_of_nodup {l : List α} (nodup : l.Nodup) : l.eraseDups = l := by
  induction l using List.reverseRecOn with
  | nil => rfl
  | append_singleton l a ih =>
    rw [← List.concat_eq_append, List.nodup_concat] at nodup
    rw [eraseDups_concat, if_neg nodup.1, ih nodup.2]

/-- The place of what was seen does not depend on what is seen later. -/
lemma idxOf_eraseDups_append {l : List α} {a : α} (h : a ∈ l) (m : List α) :
    (l ++ m).eraseDups.idxOf a = l.eraseDups.idxOf a := by
  rw [List.eraseDups_append, List.idxOf_append_of_mem (List.mem_eraseDups.mpr h)]

/-- Repetitions in the second of two lists make no difference. -/
lemma eraseDups_append_eraseDups (l m : List α) :
    (l ++ m.eraseDups).eraseDups = (l ++ m).eraseDups := by
  induction m using List.reverseRecOn with
  | nil => rfl
  | append_singleton m a ih =>
    rw [eraseDups_concat, ← List.append_assoc, eraseDups_concat (l ++ m)]
    by_cases seen : a ∈ m
    · simp [seen, ih]
    · rw [if_neg seen, ← List.append_assoc, eraseDups_concat, ih]
      simp [List.mem_append, List.mem_eraseDups]

/-- Repetitions in the first of two lists make no difference. -/
lemma eraseDups_eraseDups_append (l m : List α) :
    (l.eraseDups ++ m).eraseDups = (l ++ m).eraseDups := by
  induction m using List.reverseRecOn with
  | nil => rw [List.append_nil, List.append_nil, eraseDups_of_nodup (nodup_eraseDups l)]
  | append_singleton m a ih =>
    rw [← List.append_assoc, ← List.append_assoc, eraseDups_concat, eraseDups_concat, ih]
    simp only [List.mem_append, List.mem_eraseDups]

/-- What is seen first in two lists together depends on what is seen first in each. -/
lemma eraseDups_append_congr {l l' m m' : List α} (first : l.eraseDups = l'.eraseDups)
    (second : m.eraseDups = m'.eraseDups) : (l ++ m).eraseDups = (l' ++ m').eraseDups := by
  calc (l ++ m).eraseDups
      = (l.eraseDups ++ m.eraseDups).eraseDups := by
        rw [eraseDups_append_eraseDups, eraseDups_eraseDups_append]
    _ = (l'.eraseDups ++ m'.eraseDups).eraseDups := by rw [first, second]
    _ = (l' ++ m').eraseDups := by rw [eraseDups_append_eraseDups, eraseDups_eraseDups_append]

/-- What was seen before adds nothing. -/
lemma eraseDups_append_of_subset {l m : List α} (seen : m ⊆ l) :
    (l ++ m).eraseDups = l.eraseDups := by
  induction m using List.reverseRecOn with
  | nil => rw [List.append_nil]
  | append_singleton m a ih =>
    obtain ⟨before, last⟩ := List.append_subset.mp seen
    have old : a ∈ l ++ m := List.mem_append_left m (last (.head _))
    rw [← List.append_assoc, eraseDups_concat, if_pos old, ih before]

/-- Distinct members have distinct images under an injective function, in the same order. -/
lemma map_eraseDups {β : Type} [DecidableEq β] {f : α → β} (inj : Function.Injective f)
    (l : List α) : l.eraseDups.map f = (l.map f).eraseDups := by
  induction l using List.reverseRecOn with
  | nil => rfl
  | append_singleton l a ih =>
    rw [eraseDups_concat, List.map_append, List.map_singleton, eraseDups_concat]
    by_cases seen : a ∈ l
    · rw [if_pos seen, if_pos (List.mem_map_of_mem seen), ih]
    · have new : f a ∉ l.map f := fun mem => by
        obtain ⟨b, old, same⟩ := List.mem_map.mp mem
        exact seen (inj same ▸ old)
      rw [if_neg seen, if_neg new, List.map_append, ih, List.map_singleton]

omit [DecidableEq α] in
/-- A member whose image is no other's is found by it alone. -/
lemma filter_eq_singleton {β : Type} [DecidableEq β] {f : α → β} {l : List α}
    (nodup : (l.map f).Nodup) {a : α} (mem : a ∈ l) : (l.filter fun b => f b = f a) = [a] := by
  induction l with
  | nil => cases mem
  | cons b l ih =>
    obtain ⟨new, nodup⟩ := List.nodup_cons.mp nodup
    obtain rfl | mem := List.mem_cons.mp mem
    · have others : (l.filter fun b => f b = f a) = [] :=
        List.filter_eq_nil_iff.mpr fun b mem same =>
          new (of_decide_eq_true same ▸ List.mem_map_of_mem mem)
      rw [List.filter_cons, if_pos (decide_eq_true rfl), others]
    · have other : f b ≠ f a := fun same => new (same ▸ List.mem_map_of_mem mem)
      rw [List.filter_cons, if_neg (by simpa using other), ih nodup mem]

end FirstSeen

namespace Table

variable {α β γ : Type} [DecidableEq α]

/-- What is found under a key is an entry with that key. -/
lemma mem_of_lookup {l : List (α × β)} {k : α} {v : β} (found : l.lookup k = some v) : (k, v) ∈ l := by
  obtain ⟨before, after, rfl, _⟩ := List.lookup_eq_some_iff.mp found
  exact List.mem_append_right _ (.head _)

/-- A table that is filled in a loop has the keys of the loop behind those it had. -/
lemma keys_foldl_alter {seen : List α} {t : Table α β} (h : t.keys = seen.eraseDups)
    (key : γ → α) (f : γ → Option β → β) (l : List γ) :
    (l.foldl (fun t c => t.alter (key c) (f c)) t).keys = (seen ++ l.map key).eraseDups := by
  induction l generalizing seen t with
  | nil => simpa using h
  | cons c l ih =>
    have step : (t.alter (key c) (f c)).keys = (seen ++ [key c]).eraseDups := by
      rw [keys_alter, FirstSeen.eraseDups_concat, h]
      simp [List.mem_eraseDups]
    rw [List.foldl_cons, ih step, List.map_cons, List.append_assoc, List.singleton_append]

/-- What holds of all entries holds of them after one is altered, if altering keeps it. -/
lemma forall_mem_alter {P : α → β → Prop} {t : Table α β} (h : ∀ c ∈ t.entries, P c.1 c.2) {k : α}
    {f : Option β → β} (new : P k (f none)) (renewed : ∀ v, P k v → P k (f (some v))) :
    ∀ c ∈ (t.alter k f).entries, P c.1 c.2 := by
  obtain ⟨entries⟩ := t
  simp only [alter] at h ⊢
  fun_induction alterEntries k f entries with
  | case1 => simpa using new
  | case2 v rest =>
    exact List.forall_mem_cons.mpr ⟨renewed v (h _ (.head _)), fun c mem => h c (.tail _ mem)⟩
  | case3 k' v rest other ih =>
    exact List.forall_mem_cons.mpr ⟨h _ (.head _), ih fun c mem => h c (.tail _ mem)⟩

end Table

end XsdInfer
