import XsdInfer.Proofs.Inference.Described
import XsdInfer.Proofs.Name.Assigned
import XsdInfer.Proofs.Name.Characters
import XsdInfer.Strict.Character

/-!
# Names of types

The types of a document whose elements have simple names get different names (`nodup_typeNames`), in
which each character is solid: a document may hold it, and it is neither space nor a colon
(`isSolid_of_mem_typeNames`).
-/

namespace XsdInfer.Name

/-- Whether a document may hold the character, and it is neither space nor a colon. -/
def isSolid (c : Char) : Bool :=
  Strict.isXmlChar c && c ∉ [':', ' ', '\t', '\n', '\r']

/-- The characters in the area for letters are solid. -/
lemma isSolid_of_inLetterArea {c : Char} (h : inLetterArea c.toNat = true) : isSolid c = true := by
  have apart : ∀ d ∈ [':', ' ', '\t', '\n', '\r'], inLetterArea d.toNat = false := by decide
  have other : c ∉ [':', ' ', '\t', '\n', '\r'] := fun mem => by simp [apart c mem] at h
  have held : Strict.isXmlChar c = true := by
    simp only [inLetterArea, Strict.isXmlChar, Bool.or_eq_true, Bool.and_eq_true,
      decide_eq_true_eq] at h ⊢
    omega
  rw [isSolid, held, Bool.true_and]
  exact decide_eq_true other

/-- The characters in a simple name are solid. -/
lemma isSolid_of_isFollow {c : Char} (h : isFollow c = true) : isSolid c = true := by
  cases inLetterArea_of_isFollow h with
  | inl letter => exact isSolid_of_inLetterArea letter
  | inr mark =>
    have solid : ∀ d ∈ ['_', '-', '.', '\u00B7'], isSolid d = true := by decide
    exact solid c mark

/-! ## Upper case -/

/-- Whether all code points to which a run moves letters are letters. -/
def runStays (r : Text.CaseRun) : Bool :=
  r.upper + (r.last - r.first) < 0x110000
    && rangeInLetterArea (r.upper, r.upper + (r.last - r.first))

/-- Changing the case of a run of letters stays in the area for letters. -/
lemma all_runStays : Text.caseRuns.all runStays = true := by
  decide +kernel

/-- Letters that become several ones in upper case become solid ones. -/
lemma all_isSolid_expansions :
    Text.caseExpansions.all (fun e => e.2.all fun n => isSolid (Char.ofNat n)) = true := by
  decide +kernel

/-- A run that stays moves each of its code points into the area of letters. -/
lemma inLetterArea_of_runStays {r : Text.CaseRun} (stays : runStays r = true) {n m : Nat}
    (h : r.upper? n = some m) : inLetterArea (Char.ofNat m).toNat = true := by
  unfold Text.CaseRun.upper? at h
  split at h
  next inside =>
    cases h
    simp only [runStays, rangeInLetterArea, Bool.and_eq_true, Bool.or_eq_true,
      decide_eq_true_eq] at stays
    have area : inLetterArea (r.upper + (n - r.first)) = true := by
      simp only [inLetterArea, Bool.or_eq_true, Bool.and_eq_true, decide_eq_true_eq]
      omega
    have valid : (r.upper + (n - r.first)).isValidChar := by
      simp only [inLetterArea, Bool.or_eq_true, Bool.and_eq_true, decide_eq_true_eq] at area
      simp only [Nat.isValidChar]
      omega
    have number : (Char.ofNat (r.upper + (n - r.first))).toNat = r.upper + (n - r.first) := by
      rw [Char.ofNat, dif_pos valid]
      rfl
    rw [number]
    exact area
  next => cases h

/-- A solid character is solid in upper case. -/
lemma isSolid_toUpper {c : Char} (h : isSolid c = true) : ∀ u ∈ Text.toUpper c, isSolid u = true := by
  intro u mem
  unfold Text.toUpper at mem
  split at mem
  next ns found =>
    obtain ⟨n, at_n, rfl⟩ := List.mem_map.mp mem
    have entry := List.all_eq_true.mp all_isSolid_expansions _ (Table.mem_of_lookup found)
    exact List.all_eq_true.mp entry n at_n
  next =>
    split at mem
    next n found =>
      obtain rfl := List.mem_singleton.mp mem
      obtain ⟨r, at_r, moved⟩ := List.exists_of_findSome?_eq_some found
      have stays := List.all_eq_true.mp all_runStays r at_r
      exact isSolid_of_inLetterArea (inLetterArea_of_runStays stays moved)
    next =>
      obtain rfl := List.mem_singleton.mp mem
      exact h

/-! ## Names for keys -/

/-- A simple name is solid. -/
lemma isSolid_of_isSimple {s : List Char} (h : isSimple s = true) : ∀ c ∈ s, isSolid c = true :=
  fun c mem => isSolid_of_isFollow (all_isFollow_of_isSimple h c mem)

/-- The local part of a qualified name is simple. -/
lemma isSimple_localPart {name : String} (h : isQualified name = true) :
    isSimple (localPart name).toList = true := by
  unfold isQualified at h
  unfold localPart
  split at h
  next q r eq =>
    rw [Bool.and_eq_true] at h
    rw [eq]
    exact h.2
  next r eq =>
    rw [eq]
    exact h

/-- A simple name is its own local part. -/
lemma localPart_of_isSimple {name : String} (h : isSimple name.toList = true) :
    localPart name = name := by
  rw [localPart, split_of_isSimple h]

/-- A solid name is solid when capitalized. -/
lemma isSolid_capitalize {s : List Char} (h : ∀ c ∈ s, isSolid c = true) :
    ∀ c ∈ capitalize s, isSolid c = true := by
  cases s with
  | nil => exact h
  | cons a s =>
    intro c mem
    obtain first | more := List.mem_append.mp mem
    · exact isSolid_toUpper (h a (.head _)) c first
    · exact h c (.tail _ more)

/-- The suffix of the names of types is solid. -/
lemma isSolid_typeSuffix : ∀ c ∈ typeSuffix.toList, isSolid c = true := by
  decide

/-- The digits of a number are solid. -/
lemma isSolid_toString (n : Nat) : ∀ c ∈ (toString n).toList, isSolid c = true := by
  intro c mem
  have digit := Pool.isDigit_of_mem_toString c mem
  apply isSolid_of_inLetterArea
  have bounds : 0x30 ≤ c.toNat ∧ c.toNat ≤ 0x39 := by
    simpa [Char.isDigit, UInt32.le_iff_toNat_le] using digit
  simp only [inLetterArea, Bool.or_eq_true, Bool.and_eq_true, decide_eq_true_eq]
  omega

end XsdInfer.Name

namespace XsdInfer

open Name (isSolid)

/-- A key made of simple names. -/
structure TypeKey.IsSimple (k : TypeKey) : Prop where
  tag : Name.isSimple k.tag.toList = true
  parent : ∀ p ∈ k.parent, Name.isSimple p.toList = true

/-- The base name of a key with simple names is solid. -/
lemma TypeKey.isSolid_baseName {k : TypeKey} (h : k.IsSimple) :
    ∀ c ∈ k.baseName.toList, isSolid c = true := by
  intro c mem
  have tag := Name.isSolid_of_isSimple h.tag
  cases eq : k.parent with
  | none =>
    simp only [baseName, eq, Name.typeName, Name.localPart_of_isSimple h.tag, String.toList_append,
      List.mem_append] at mem
    obtain name | suffix := mem
    · exact tag c name
    · exact Name.isSolid_typeSuffix c suffix
  | some p =>
    have parent := h.parent p eq
    simp only [baseName, eq, Name.scopedTypeName, Name.localPart_of_isSimple h.tag,
      Name.localPart_of_isSimple parent, String.toList_append, String.toList_ofList,
      List.mem_append] at mem
    obtain (outer | name) | suffix := mem
    · exact Name.isSolid_of_isSimple parent c outer
    · exact Name.isSolid_capitalize tag c name
    · exact Name.isSolid_typeSuffix c suffix

/-- A name that is handed out for a solid base is solid. -/
lemma Name.Pool.isSolid_pick (p : Name.Pool) {base : String}
    (h : ∀ c ∈ base.toList, isSolid c = true) : ∀ c ∈ (p.pick base).toList, isSolid c = true := by
  unfold pick
  split
  next =>
    intro c mem
    rw [numbered, String.toList_append] at mem
    obtain name | number := List.mem_append.mp mem
    · exact h c name
    · exact isSolid_toString _ c number
  next => exact h

namespace Schema

/-- Types get the names that a new pool hands out for their keys. -/
lemma typeNames_eq (keys : List TypeKey) :
    typeNames keys = (Name.Pool.assignAll {} (keys.map TypeKey.baseName)).1 := by
  rw [typeNames, pool, Name.Pool.foldl_assign, Name.Pool.taken_assignAll, List.append_nil,
    List.reverse_reverse]

/-- Types of different keys have different names. -/
theorem nodup_typeNames (keys : List TypeKey) : (typeNames keys).Nodup := by
  rw [typeNames_eq]
  exact Name.Pool.nodup_assignAll _

/-- A type has the name that its key makes, or that name with a number, if another type has it. -/
lemma typeName_cases {keys : List TypeKey} {x : TypeKey × String}
    (h : x ∈ keys.zip (typeNames keys)) :
    x.2 = x.1.baseName ∨
      x.1.baseName ∈ typeNames keys ∧ ∃ n ≥ 2, x.2 = Name.Pool.numbered x.1.baseName n := by
  induction keys using List.reverseRecOn with
  | nil => cases h
  | append_singleton keys k ih =>
    rw [typeNames_concat, List.zip_append (length_typeNames keys).symm] at h
    rw [typeNames_concat, List.mem_append]
    obtain old | new := List.mem_append.mp h
    · exact (ih old).imp_right fun numbered => ⟨.inl numbered.1, numbered.2⟩
    · obtain rfl := List.mem_singleton.mp new
      have picked := (pool (keys.map TypeKey.baseName)).pick_cases k.baseName
      exact picked.imp_right fun numbered => ⟨.inl (List.mem_reverse.mpr numbered.1), numbered.2⟩

/-- Types of keys of simple names have solid names. -/
theorem isSolid_of_mem_typeNames {keys : List TypeKey} (h : ∀ k ∈ keys, k.IsSimple) :
    ∀ name ∈ typeNames keys, ∀ c ∈ name.toList, isSolid c = true := by
  induction keys using List.reverseRecOn with
  | nil => exact fun _ mem => absurd mem List.not_mem_nil
  | append_singleton keys k ih =>
    intro name mem
    rw [typeNames_concat] at mem
    obtain old | new := List.mem_append.mp mem
    · exact ih (fun k mem => h k (List.mem_append_left _ mem)) name old
    · obtain rfl := List.mem_singleton.mp new
      exact Name.Pool.isSolid_pick _ (TypeKey.isSolid_baseName (h k (by simp)))

end Schema

end XsdInfer
