import XsdInfer.Conversion
import XsdInfer.Proofs.Inference.Described
import XsdInfer.Proofs.Steps

/-!
# The ledger of a walk

The walk over a sample enters the types of the children of each element and then adds the element to
the evidence of its own type. `run_eq_recorded` is its invariant: after some places of a document
the ledger has the keys met so far in the order of first sight, and of each key the evidence of its
occurrences so far. A limit is felt only where the number of keys is beyond it
(`foldlM_eq_of_bound`), so that the inferred schema is the described one or there is no room for
it (`Schema.infer_eq`); and so a conversion comes to the described schema of a tree, if it comes to
any (`Conversion.exists_parse_of_infer`).
-/

namespace XsdInfer

open Element (Place)
open TypeKey (keyAt childKeys metKeys typeKeys occurrences)

/-- A size that no step of a loop lessens is not lessened by the loop. -/
lemma le_foldl_of_grows {σ α : Type} {g : σ → α → σ} (size : σ → Nat)
    (grows : ∀ s a, size s ≤ size (g s a)) (l : List α) (s : σ) : size s ≤ size (l.foldl g s) := by
  induction l generalizing s with
  | nil => exact Nat.le_refl _
  | cons a l ih => exact Nat.le_trans (grows s a) (ih (g s a))

/-- A loop of steps that fail just when some size would pass a bound fails just when the size at its
end is beyond the bound. -/
lemma foldlM_eq_of_bound {ε σ α : Type} {f : σ → α → Except ε σ} {g : σ → α → σ} {size : σ → Nat}
    {bound : Nat} {beyond : ε} (grows : ∀ s a, size s ≤ size (g s a))
    (step : ∀ s a, size s ≤ bound →
      f s a = if size (g s a) ≤ bound then .ok (g s a) else .error beyond)
    (l : List α) {s : σ} (start : size s ≤ bound) :
    l.foldlM f s =
      if size (l.foldl g s) ≤ bound then .ok (l.foldl g s) else .error beyond := by
  induction l generalizing s with
  | nil => rw [List.foldlM_nil, List.foldl_nil, if_pos start]; rfl
  | cons a l ih =>
    rw [List.foldlM_cons, List.foldl_cons, step s a start]
    by_cases room : size (g s a) ≤ bound
    · rw [if_pos room]
      exact ih room
    · -- The size does not come back below the bound.
      have beyond_too := le_foldl_of_grows size grows l (g s a)
      rw [if_neg room, if_neg (by omega)]
      rfl

namespace Ledger

/-- Enters a type, however many there are, unless there is one with its key. -/
def meet (l : Ledger) (k : TypeKey) : Ledger :=
  if l.has k then l
  else ⟨l.entries ++ [{ key := k, typeName := (l.names.assign k.baseName).1 }],
    (l.names.assign k.baseName).2⟩

/-- What observing the element at a place does to a ledger where there is room. -/
def visit (scope : Scope) (l : Ledger) (p : Place) : Ledger :=
  let childKey := TypeKey.ofNames scope (some p.2.localName)
  let l := (p.2.childCounts.keys.map childKey).foldl meet l
  l.update (keyAt scope p) (Evidence.see (fun name => l.placeOf (childKey name)) p.2)

/-- The ledger of some places of a document, where there is room. -/
def run (scope : Scope) (root : Element) (ps : List Place) : Ledger :=
  ps.foldl (visit scope) (({} : Ledger).meet (keyAt scope ([], root)))

/-- The keys of the types in the order in which they were met. -/
def keys (l : Ledger) : List TypeKey :=
  l.entries.map Entry.key

/-- A ledger has one key for each entry. -/
lemma length_keys (l : Ledger) : l.keys.length = l.entries.length :=
  List.length_map Entry.key

/-- A ledger has the keys of its entries. -/
lemma has_eq (l : Ledger) (k : TypeKey) : l.has k = decide (k ∈ l.keys) := by
  rw [Bool.eq_iff_iff, has, List.any_eq_true, decide_eq_true_iff, keys, List.mem_map]
  simp only [beq_iff_eq]

/-- The place of a key is the first one at which it stands. -/
lemma placeOf_eq (l : Ledger) (k : TypeKey) : l.placeOf k = l.keys.idxOf k := by
  rw [placeOf, keys, List.idxOf, List.findIdx_map]
  rfl

/-- New evidence leaves the keys. -/
@[simp]
lemma keys_update (l : Ledger) (k : TypeKey) (f : Evidence → Evidence) :
    (l.update k f).keys = l.keys := by
  rw [keys, update, List.map_map]
  refine List.map_congr_left fun x _ => ?_
  rw [Function.comp_apply]
  split
  next => rfl
  next => rfl

/-- The breach of having one type more than the limit. -/
def overflow (limits : Limits) : Breach :=
  ⟨.types, limits.types + 1, limits.types⟩

/-- A ledger does not get shorter when a key is met. -/
lemma length_le_meet (l : Ledger) (k : TypeKey) :
    l.entries.length ≤ (l.meet k).entries.length := by
  unfold meet
  split
  next => exact Nat.le_refl _
  next => simp

/-- New evidence leaves the number of the entries. -/
@[simp]
lemma length_update (l : Ledger) (k : TypeKey) (f : Evidence → Evidence) :
    (l.update k f).entries.length = l.entries.length := by
  simp [update]

/-- A ledger does not get shorter when a place is visited. -/
lemma length_le_visit (scope : Scope) (l : Ledger) (p : Place) :
    l.entries.length ≤ (l.visit scope p).entries.length := by
  rw [visit, length_update]
  exact le_foldl_of_grows (fun l : Ledger => l.entries.length) length_le_meet _ l

/-- A key is entered as if there were no limit, or refused if it is one too many. -/
lemma enter_eq {limits : Limits} {l : Ledger} (h : l.entries.length ≤ limits.types)
    (k : TypeKey) :
    l.enter limits k =
      if (l.meet k).entries.length ≤ limits.types then .ok (l.meet k)
      else .error (overflow limits) := by
  unfold enter meet
  by_cases old : l.has k
  · rw [if_pos old, if_pos old, if_pos h]
  · rw [if_neg old, if_neg old]
    simp only [List.length_append, List.length_singleton]
    by_cases room : l.entries.length + 1 ≤ limits.types
    · rw [if_pos room, Limits.check_eq_ok_iff.mpr room]
      rfl
    · have full : l.entries.length = limits.types := by omega
      rw [if_neg room, Limits.check, if_pos (by simp only [Limits.bound]; omega), full]
      rfl

/-- Observing an element fails just when there is no room for the types of its children. -/
lemma observe_eq {limits : Limits} {l : Ledger} (h : l.entries.length ≤ limits.types)
    (scope : Scope) (p : Place) :
    l.observe scope limits p.1 p.2 =
      if (l.visit scope p).entries.length ≤ limits.types then .ok (l.visit scope p)
      else .error (overflow limits) := by
  have entered := foldlM_eq_of_bound (f := enter limits) length_le_meet
    (fun l k room => enter_eq room k)
    (p.2.childCounts.keys.map (TypeKey.ofNames scope (some p.2.localName))) h
  simp only [observe, entered, visit, length_update]
  split
  next => rfl
  next => rfl

/-- The ledger of a tree is that of its places in order, with the root entered first. -/
lemma ofRoot_eq_foldlM (scope : Scope) (limits : Limits) (root : Element) :
    ofRoot scope limits root =
      (({} : Ledger).enter limits (keyAt scope ([], root))).bind
        fun l => root.places.foldlM (fun l p => l.observe scope limits p.1 p.2) l := by
  have loop (ps : List Place) (start : Except Breach Ledger) :
      ps.foldl (fun l p => l.bind fun l => l.observe scope limits p.1 p.2) start =
        start.bind fun l => ps.foldlM (fun l p => l.observe scope limits p.1 p.2) l := by
    induction ps generalizing start with
    | nil => cases start <;> rfl
    | cons p ps ih => rw [List.foldl_cons, ih]; cases start <;> rfl
  rw [ofRoot, Element.walk_eq_foldl, ← Element.places_eq, loop]
  rfl

/-- The walk over a sample fails just when there is no room for all types. -/
lemma ofRoot_eq (scope : Scope) (limits : Limits) (root : Element) :
    ofRoot scope limits root =
      if (run scope root root.places).entries.length ≤ limits.types
      then .ok (run scope root root.places)
      else .error (overflow limits) := by
  rw [ofRoot_eq_foldlM, enter_eq (Nat.zero_le _), run]
  -- The first key has its own check, before any place is observed.
  by_cases room : (({} : Ledger).meet (keyAt scope ([], root))).entries.length ≤ limits.types
  · rw [if_pos room]
    exact foldlM_eq_of_bound (length_le_visit scope) (fun l p room => observe_eq room scope p) _ room
  · have far := le_foldl_of_grows (fun l : Ledger => l.entries.length)
      (length_le_visit scope) root.places (({} : Ledger).meet (keyAt scope ([], root)))
    rw [if_neg room, if_neg (by omega)]
    rfl

/-- The ledger that has met given keys, and has the evidence of the elements at some places. The
types of the document have the keys `all`. -/
def recorded (scope : Scope) (all met : List TypeKey) (ps : List Place) : Ledger where
  entries := (met.zip (Schema.typeNames met)).map fun (k, name) =>
    ⟨k, name, Schema.evidenceOf scope all ps k⟩
  names := Schema.pool (met.map TypeKey.baseName)

section Recorded

variable {scope : Scope} {all met : List TypeKey} {ps : List Place}

/-- What is recorded has the keys that were met. -/
lemma keys_recorded : (recorded scope all met ps).keys = met := by
  have fst : (Entry.key ∘ fun (x : TypeKey × String) =>
    (⟨x.1, x.2, Schema.evidenceOf scope all ps x.1⟩ : Entry)) = Prod.fst := rfl
  rw [keys, recorded, List.map_map, fst,
    List.map_fst_zip (Nat.le_of_eq (Schema.length_typeNames met).symm)]

/-- One more key is recorded without any elements. -/
lemma meet_recorded (k : TypeKey) (new : k ∉ met → occurrences scope k ps = []) :
    (recorded scope all met.eraseDups ps).meet k =
      recorded scope all (met ++ [k]).eraseDups ps := by
  rw [meet, has_eq, keys_recorded, FirstSeen.eraseDups_concat]
  by_cases old : k ∈ met
  · simp [old]
  · simp only [List.mem_eraseDups, old, decide_false, Bool.false_eq_true, if_false]
    simp only [recorded, Schema.typeNames_concat, List.map_append, Schema.pool_concat,
      List.map_singleton]
    rw [List.zip_append (by rw [Schema.length_typeNames]), List.map_append]
    simp [Schema.evidenceOf, new old, Evidence.ofElements]

/-- More keys are recorded without any elements. -/
lemma foldl_meet_recorded (ks : List TypeKey)
    (new : ∀ k, k ∉ met → occurrences scope k ps = []) :
    ks.foldl meet (recorded scope all met.eraseDups ps) =
      recorded scope all (met ++ ks).eraseDups ps := by
  induction ks generalizing met with
  | nil => rw [List.foldl_nil, List.append_nil]
  | cons k ks ih =>
    rw [List.foldl_cons, meet_recorded k (new k), ih (by grind), List.append_assoc,
      List.singleton_append]

/-- The evidence of a place goes to the type with the key of the place. -/
lemma update_recorded {p : Place} {f : String → Nat}
    (places : ∀ n ∈ p.2.childCounts.keys,
      f n = all.idxOf (TypeKey.ofNames scope (some p.2.localName) n)) :
    (recorded scope all met ps).update (keyAt scope p) (Evidence.see f p.2) =
      recorded scope all met (ps ++ [p]) := by
  simp only [recorded, update, List.map_map, Ledger.mk.injEq, and_true]
  apply List.map_congr_left
  intro x _
  simp only [Function.comp, Schema.evidenceOf, TypeKey.occurrences_concat]
  by_cases here : x.1 = keyAt scope p
  · have tag : x.1.tag = p.2.localName := by rw [here, TypeKey.tag_keyAt]
    rw [if_pos here, if_pos here.symm, Evidence.ofElements_concat, Evidence.see_congr places, tag]
  · rw [if_neg here, if_neg (Ne.symm here), List.append_nil]

end Recorded

/-- The keys of the children of a place are met in the order in which they are first seen. -/
lemma map_childCounts_keys (scope : Scope) (p : Place) :
    p.2.childCounts.keys.map (TypeKey.ofNames scope (some p.2.localName)) =
      (childKeys scope p).eraseDups := by
  rw [Evidence.keys_childCounts, FirstSeen.map_eraseDups (TypeKey.ofNames_injective scope _),
    TypeKey.childKeys_eq]

/-- In document order, the key of a place is met before the place. -/
lemma keyAt_mem_metKeys {scope : Scope} {root : Element} {before after : List Place} {p : Place}
    (h : root.places = before ++ p :: after) : keyAt scope p ∈ metKeys scope root before := by
  rw [Element.places_eq] at h
  obtain rfl | ⟨q, earlier, path, below⟩ := Element.parent_of_split h
  · exact .head _
  · refine .tail _ (List.mem_flatMap.mpr ⟨q, earlier, List.mem_map.mpr ⟨p.2, below, ?_⟩⟩)
    rw [← path]

/-- After some places of a document, the ledger has recorded just these. -/
lemma run_eq_recorded (scope : Scope) (root : Element) {ps rest : List Place}
    (h : root.places = ps ++ rest) :
    run scope root ps =
      recorded scope (typeKeys scope root) (metKeys scope root ps).eraseDups ps := by
  induction ps using List.reverseRecOn generalizing rest with
  | nil =>
    have unseen : keyAt scope ([], root) ∉ ([] : List TypeKey) →
        occurrences scope (keyAt scope ([], root)) [] = [] := fun _ => rfl
    exact meet_recorded _ unseen
  | append_singleton ps p ih =>
    rw [List.append_assoc, List.singleton_append] at h
    have step : run scope root (ps ++ [p]) = (run scope root ps).visit scope p := by simp [run]
    -- What was not met before has not occurred before, since keys are met before their places.
    have new (k : TypeKey) (unmet : k ∉ metKeys scope root ps) : occurrences scope k ps = [] := by
      refine List.eq_nil_iff_forall_not_mem.mpr fun e mem => unmet ?_
      obtain ⟨path, at_place, rfl⟩ := TypeKey.mem_occurrences_iff.mp mem
      obtain ⟨before, after, split⟩ := List.append_of_mem at_place
      rw [split, List.append_assoc, List.cons_append] at h
      have met : keyAt scope (path, e) ∈ metKeys scope root before := keyAt_mem_metKeys h
      rw [split, metKeys, List.flatMap_append, ← List.cons_append]
      exact List.mem_append_left _ met
    have met : metKeys scope root ps ++ childKeys scope p = metKeys scope root (ps ++ [p]) :=
      (TypeKey.metKeys_concat scope root ps p).symm
    rw [step, ih h, visit, map_childCounts_keys, foldl_meet_recorded _ new,
      FirstSeen.eraseDups_append_eraseDups, met]
    apply update_recorded
    intro n child
    -- The place of a key that is met does not depend on the keys that are still to come.
    have known : TypeKey.ofNames scope (some p.2.localName) n ∈ metKeys scope root (ps ++ [p]) := by
      rw [← met, List.mem_append]
      refine .inr (List.mem_eraseDups.mp ?_)
      rw [← map_childCounts_keys]
      exact List.mem_map_of_mem child
    have later : metKeys scope root root.places =
        metKeys scope root (ps ++ [p]) ++ rest.flatMap (childKeys scope) := by
      simp [metKeys, h]
    rw [placeOf_eq, keys_recorded, typeKeys, later, FirstSeen.idxOf_eraseDups_append known]

/-- The ledger of a whole document shows the described types. -/
lemma types_run (scope : Scope) (root : Element) :
    (run scope root root.places).types = (Schema.described scope root).types := by
  rw [run_eq_recorded scope root (List.append_nil _).symm]
  simp only [types, recorded, List.map_map, Schema.described]
  rfl

/-- After a run there is one entry for each key. -/
lemma length_entries_run (scope : Scope) (root : Element) :
    (run scope root root.places).entries.length = (typeKeys scope root).length := by
  rw [run_eq_recorded scope root (List.append_nil _).symm, ← length_keys,
    keys_recorded]
  rfl

end Ledger

/-- The inferred schema is the described one, if there is room for its types. -/
lemma Schema.infer_eq (scope : Scope) (limits : Limits) (root : Element) :
    Schema.infer scope limits root =
      if (typeKeys scope root).length ≤ limits.types then .ok (Schema.described scope root)
      else .error (Ledger.overflow limits) := by
  rw [Schema.infer, Ledger.ofRoot_eq, Ledger.length_entries_run]
  split
  next =>
    simp only [bind, Except.bind, pure, Except.pure, Ledger.types_run]
    rfl
  next => rfl

/-- A schema that is inferred is the one that the sample describes. -/
lemma Schema.eq_described_of_infer {scope : Scope} {limits : Limits} {root : Element} {s : Schema}
    (h : Schema.infer scope limits root = .ok s) : s = Schema.described scope root := by
  rw [Schema.infer_eq] at h
  split at h
  next => exact (Except.ok.inj h).symm
  next => cases h

namespace Conversion

open Steps (exists_ok_of_bind eq_ok_of_mapError)

variable {c : Conversion} {xml : String}

/-- A schema is inferred if there is room for the sample, it is read, and there is room for the types
of its tree. -/
lemma infer_eq_ok_iff {s : Schema} : c.infer xml = .ok s ↔ xml.utf8ByteSize ≤ c.limits.size ∧
    ∃ root, Sample.parse c.limits xml = .ok root ∧ Schema.infer c.scope c.limits root = .ok s := by
  constructor
  · intro h
    obtain ⟨_, size, rest⟩ := exists_ok_of_bind h
    obtain ⟨root, parsed, tree⟩ := exists_ok_of_bind rest
    exact ⟨Limits.check_eq_ok_iff.mp (eq_ok_of_mapError size), root, parsed, eq_ok_of_mapError tree⟩
  · rintro ⟨size, root, parsed, tree⟩
    rw [infer, Limits.check_eq_ok_iff.mpr size, parsed]
    simp only [bind, Except.bind, Except.mapError, inferTree, tree]

/-- What is inferred of a sample is the schema that its tree describes. -/
lemma exists_parse_of_infer {s : Schema} (h : c.infer xml = .ok s) :
    ∃ root, Sample.parse c.limits xml = .ok root ∧ s = Schema.described c.scope root := by
  obtain ⟨-, root, parsed, inferred⟩ := infer_eq_ok_iff.mp h
  exact ⟨root, parsed, Schema.eq_described_of_infer inferred⟩

/-- The schema that is inferred is written. -/
lemma convert_of_infer {s : Schema} (h : c.infer xml = .ok s) : c.convert xml = .ok s.xsd := by
  rw [convert, h]
  rfl

/-- A conversion that succeeds prints a schema that is inferred. -/
lemma exists_infer_of_convert {xsd : String} (h : c.convert xml = .ok xsd) :
    ∃ s, c.infer xml = .ok s ∧ xsd = s.xsd := by
  obtain ⟨s, inferred, written⟩ := exists_ok_of_bind h
  cases written
  exact ⟨s, inferred, rfl⟩

/-- What a sample is converted to is the text of the schema that its tree describes. -/
lemma exists_parse_of_convert {xsd : String} (h : c.convert xml = .ok xsd) :
    ∃ root, Sample.parse c.limits xml = .ok root ∧ xsd = (Schema.described c.scope root).xsd := by
  obtain ⟨s, inferred, rfl⟩ := exists_infer_of_convert h
  obtain ⟨root, parsed, rfl⟩ := exists_parse_of_infer inferred
  exact ⟨root, parsed, rfl⟩

end Conversion

end XsdInfer
