import Mathlib.Data.List.Nodup
import XsdInfer.Proofs.Sample.Spelling
import XsdInfer.Proofs.Steps
import XsdInfer.Proofs.Text.Cut

/-!
# Attributes of tags

What a text lists behind the name of a tag is given as a relation (`Lists`): attributes one after
another, each with a name, an equals sign and a quoted value, and any space around these parts. Main
statement: attributes are read from a text without a fault just if the text lists them and no name
comes twice (`Tag.readAttributes_eq_iff`). Each part is read up to where it ends, whatever stands behind.
-/

namespace XsdInfer.Sample

open Steps (exists_ok_of_bind)

variable {s t rest value : List Char} {c first : Char} {position after : Nat}
  {seen : List (List Char × Nat)} {read as : List RawAttribute}

/-- A character that the name of an attribute may go on with. -/
def Goes (c : Char) : Prop :=
  c ≠ '=' ∧ Text.isSpace c = false

/-- What some text behind the name of a tag lists. -/
inductive Lists : List Char → List RawAttribute → Prop where
  | nil {trail : Space} :
    Lists trail.chars []
  | cons {lead before behind : Space} {first quote : Char} {more value rest : List Char}
      {as : List RawAttribute} :
    Text.isSpace first = false →
    (∀ c ∈ more, Goes c) →
    quote = '"' ∨ quote = '\'' →
    quote ∉ value →
    Lists rest as →
    Lists (lead.chars ++ first :: (more ++ (before.chars ++ '=' :: (behind.chars ++
      quote :: (value ++ quote :: rest))))) (⟨String.ofList (first :: more), value⟩ :: as)

namespace Space

/-- The space that a text begins with. -/
def ofLead (s : List Char) : Space where
  chars := s.takeWhile Text.isSpace
  space := fun c mem => List.all_eq_true.mp List.all_takeWhile c mem

/-- A text is the space at its front and the rest. -/
lemma ofLead_append (s : List Char) : (ofLead s).chars ++ s.dropWhile Text.isSpace = s :=
  List.takeWhile_append_dropWhile

end Space

namespace Tag

/-! ## One attribute -/

/-- The name of an attribute goes on with all but equals signs and space. -/
lemma goes_iff : (c != '=' && !Text.isSpace c) = true ↔ Goes c := by
  simp [Goes]

/-- A name is read up to its equals sign, over the space before the sign. -/
lemma readKey_append {more : List Char} (goes : ∀ c ∈ more, Goes c) (gap : Space) (rest : List Char)
    (position : Nat) (first : Char) :
    ∃ n, readKey position first (more ++ (gap.chars ++ '=' :: rest)) =
      .ok ⟨first :: more, position, rest, n⟩ := by
  have inside : ∀ c ∈ more, (c != '=' && !Text.isSpace c) = true := fun c mem =>
    goes_iff.mpr (goes c mem)
  -- Neither the space nor the sign behind the name belongs to it.
  have stop : ∀ c ∈ (gap.chars ++ '=' :: rest).head?, (c != '=' && !Text.isSpace c) = false := by
    cases eq : gap.chars with
    | nil => simp
    | cons a s => simp [gap.space a (by simp [eq])]
  have equals : (gap.chars ++ '=' :: rest).dropWhile Text.isSpace = '=' :: rest :=
    Text.dropWhile_append gap.space (by simp [Text.isSpace])
  simp only [readKey, Text.takeWhile_append inside stop, Text.dropWhile_append inside stop, equals]
  exact ⟨_, rfl⟩

/-- A key that has been read is a name with an equals sign behind it, perhaps behind space. -/
lemma exists_of_readKey {k : Key} (h : readKey position first s = .ok k) :
    ∃ (more : List Char) (gap : Space), (∀ c ∈ more, Goes c) ∧ k.name = first :: more ∧
      s = more ++ (gap.chars ++ '=' :: k.rest) := by
  unfold readKey at h
  simp only at h
  split at h
  next rest equals =>
    cases h
    refine ⟨_, .ofLead (s.dropWhile fun c => c != '=' && !Text.isSpace c), fun c mem => ?_, rfl, ?_⟩
    · exact goes_iff.mp (List.all_eq_true.mp List.all_takeWhile c mem)
    · rw [← equals, Space.ofLead_append, List.takeWhile_append_dropWhile]
  next => cases h

/-- A value is read between its quotes, over the space before them. -/
lemma readValue_append {quote : Char} (quoted : quote = '"' ∨ quote = '\'') (plain : quote ∉ value)
    (gap : Space) (rest : List Char) (position : Nat) :
    ∃ n, readValue position (gap.chars ++ quote :: (value ++ quote :: rest)) = .ok (value, rest, n) := by
  have visible : Text.isSpace quote = false := by
    obtain rfl | rfl := quoted <;> decide
  have skipped : (gap.chars ++ quote :: (value ++ quote :: rest)).dropWhile Text.isSpace =
      quote :: (value ++ quote :: rest) := Text.dropWhile_append gap.space (by simpa using visible)
  simp only [readValue, skipped, quoted, if_true, Text.cutAt_append plain]
  exact ⟨_, rfl⟩

/-- A value that has been read stands in quotation marks of one kind, perhaps behind space. -/
lemma exists_of_readValue (h : readValue position s = .ok (value, rest, after)) :
    ∃ (gap : Space) (quote : Char), (quote = '"' ∨ quote = '\'') ∧ quote ∉ value ∧
      s = gap.chars ++ quote :: (value ++ quote :: rest) := by
  unfold readValue at h
  simp only at h
  split at h
  next => cases h
  next quote t begins =>
    split at h
    next quoted =>
      split at h
      next cut =>
        cases h
        obtain ⟨rfl, plain⟩ := Text.eq_of_cutAt cut
        exact ⟨.ofLead _, quote, quoted, plain, by rw [← begins, Space.ofLead_append]⟩
      next => cases h
    next => cases h

/-- A name is new if it is not among those that were seen. -/
lemma checkNew_eq_ok_iff {key : Key} :
    checkNew seen key = .ok () ↔ key.name ∉ seen.map Prod.fst := by
  have unseen : seen.lookup key.name = none ↔ key.name ∉ seen.map Prod.fst := by
    rw [List.lookup_eq_none_iff]
    constructor
    · intro apart mem
      obtain ⟨p, mem, same⟩ := List.mem_map.mp mem
      simpa [same] using apart p mem
    · intro fresh p mem
      rw [bne_iff_ne]
      exact fun same => fresh (List.mem_map.mpr ⟨p, mem, same.symm⟩)
  rw [← unseen, checkNew]
  cases seen.lookup key.name with
  | none => simp
  | some n => simp

/-- An attribute is read as its name and value, if its name is new. -/
lemma readAttribute_append {quote : Char} {more : List Char} (goes : ∀ c ∈ more, Goes c)
    (quoted : quote = '"' ∨ quote = '\'') (plain : quote ∉ value)
    (new : first :: more ∉ seen.map Prod.fst) (before behind : Space) (rest : List Char)
    (position : Nat) :
    ∃ k n, k.name = first :: more ∧
      readAttribute seen position first (more ++ (before.chars ++ '=' :: (behind.chars ++
        quote :: (value ++ quote :: rest)))) = .ok (k, value, rest, n) := by
  obtain ⟨n, key⟩ := readKey_append goes before (behind.chars ++ quote :: (value ++ quote :: rest))
    position first
  obtain ⟨m, read⟩ := readValue_append quoted plain behind rest n
  let k : Key := ⟨first :: more, position, behind.chars ++ quote :: (value ++ quote :: rest), n⟩
  have fresh : checkNew seen k = .ok () := checkNew_eq_ok_iff.mpr new
  refine ⟨k, m, rfl, ?_⟩
  have key : readKey position first (more ++ (before.chars ++ '=' :: k.rest)) = .ok k := key
  simp only [readAttribute, bind, Except.bind, k, key, fresh, read]
  rfl

/-- An attribute that is read has a new name. -/
lemma exists_of_readAttribute {k : Key}
    (h : readAttribute seen position first s = .ok (k, value, rest, after)) :
    ∃ (more : List Char) (before behind : Space) (quote : Char), k.name = first :: more ∧
      (∀ c ∈ more, Goes c) ∧ (quote = '"' ∨ quote = '\'') ∧ quote ∉ value ∧
      first :: more ∉ seen.map Prod.fst ∧
      s = more ++ (before.chars ++ '=' :: (behind.chars ++ quote :: (value ++ quote :: rest))) := by
  unfold readAttribute at h
  obtain ⟨k', key, h⟩ := exists_ok_of_bind h
  obtain ⟨_, fresh, h⟩ := exists_ok_of_bind h
  obtain ⟨v, read, h⟩ := exists_ok_of_bind h
  cases h
  obtain ⟨more, before, goes, name, rfl⟩ := exists_of_readKey key
  obtain ⟨behind, quote, quoted, plain, text⟩ := exists_of_readValue read
  exact ⟨more, before, behind, quote, name, goes, quoted, plain,
    name ▸ checkNew_eq_ok_iff.mp fresh, by rw [text]⟩

/-! ## All attributes -/

/-- Nothing is read where there is nothing but space. -/
lemma readAttributes_of_nil (space : s.dropWhile Text.isSpace = []) :
    readAttributes read seen position s = (read.reverse, none) := by
  rw [readAttributes]
  split
  next => rfl
  next more => rw [space] at more; cases more

/-- One more attribute is read, and its name is remembered. -/
lemma readAttributes_of_cons {key : Key}
    (begins : s.dropWhile Text.isSpace = first :: t)
    (one : readAttribute seen (position + Text.width (s.takeWhile Text.isSpace)) first t =
      .ok (key, value, rest, after)) :
    readAttributes read seen position s =
      readAttributes (⟨String.ofList key.name, value⟩ :: read) ((key.name, key.position) :: seen)
        after rest := by
  rw [readAttributes]
  split
  next none => rw [begins] at none; cases none
  next more =>
    rw [begins] at more
    cases more
    split
    next failed => rw [one] at failed; cases failed
    next found => rw [one] at found; cases found; rfl

/-- Attributes with distinct names that are not remembered yet. -/
structure New (seen : List (List Char × Nat)) (as : List RawAttribute) : Prop where
  distinct : (as.map RawAttribute.name).Nodup
  unseen : ∀ a ∈ as, a.name.toList ∉ seen.map Prod.fst

/-- Attributes are new if the first is and the others are beside it. -/
lemma new_cons_iff {name : List Char} {position : Nat} :
    New seen (⟨String.ofList name, value⟩ :: as) ↔
      name ∉ seen.map Prod.fst ∧ New ((name, position) :: seen) as := by
  constructor
  · rintro ⟨distinct, unseen⟩
    obtain ⟨fresh, distinct⟩ := List.nodup_cons.mp distinct
    obtain ⟨first, unseen⟩ := List.forall_mem_cons.mp unseen
    rw [String.toList_ofList] at first
    refine ⟨first, distinct, fun a mem => ?_⟩
    rw [List.map_cons, List.mem_cons, not_or]
    refine ⟨fun same => fresh (List.mem_map.mpr ⟨a, mem, ?_⟩), unseen a mem⟩
    exact String.toList_inj.mp (same.trans String.toList_ofList.symm)
  · rintro ⟨first, distinct, unseen⟩
    refine ⟨List.nodup_cons.mpr ⟨fun mem => ?_, distinct⟩, List.forall_mem_cons.mpr ⟨?_, ?_⟩⟩
    · obtain ⟨a, mem, same⟩ := List.mem_map.mp mem
      refine unseen a mem ?_
      rw [same, String.toList_ofList]
      exact .head _
    · rw [String.toList_ofList]
      exact first
    · exact fun a mem old => unseen a mem (.tail _ old)

/-- What a text lists is read, if the names are new. -/
lemma readAttributes_of_lists (lists : Lists s as) (new : New seen as) (read : List RawAttribute)
    (position : Nat) : readAttributes read seen position s = (read.reverse ++ as, none) := by
  induction lists generalizing read seen position with
  | @nil trail =>
    rw [readAttributes_of_nil (List.dropWhile_eq_nil_iff.mpr trail.space), List.append_nil]
  | @cons lead before behind first quote more value rest as visible goes quoted plain _ ih =>
    have fresh := new.unseen ⟨String.ofList (first :: more), value⟩ (.head _)
    rw [String.toList_ofList] at fresh
    have stop : ∀ c ∈ (first :: (more ++ (before.chars ++ '=' :: (behind.chars ++
        quote :: (value ++ quote :: rest))))).head?, Text.isSpace c = false := by
      simpa using visible
    have begins := Text.dropWhile_append lead.space stop
    obtain ⟨k, n, name, one⟩ := readAttribute_append goes quoted plain fresh before behind rest
      (position + Text.width ((lead.chars ++ _).takeWhile Text.isSpace))
    rw [readAttributes_of_cons begins one, name, ih (new_cons_iff.mp new).2]
    simp

/-- What has been read without a fault is listed by the text, with new names. -/
lemma exists_of_readAttributes {found : List RawAttribute}
    (h : readAttributes read seen position s = (found, none)) :
    ∃ as, found = read.reverse ++ as ∧ Lists s as ∧ New seen as := by
  -- By the recursion of the reader: at the end there is only space, and otherwise one attribute comes
  -- first.
  fun_induction readAttributes read seen position s with
  | case1 read seen position s none =>
    cases h
    have space : Lists (Space.ofLead s).chars [] := .nil
    have whole := Space.ofLead_append s
    rw [none, List.append_nil] at whole
    exact ⟨[], (List.append_nil _).symm, whole ▸ space, List.nodup_nil, by simp⟩
  | case2 => cases h
  | case3 read seen position s first t begins key value rest after one ih =>
    obtain ⟨as, rfl, lists, new⟩ := ih h
    obtain ⟨more, before, behind, quote, name, goes, quoted, plain, fresh, rfl⟩ :=
      exists_of_readAttribute one
    have visible : Text.isSpace first = false := by
      have stop := List.head?_dropWhile_not Text.isSpace s
      rw [begins] at stop
      simpa using stop
    rw [name] at new ⊢
    refine ⟨⟨String.ofList (first :: more), value⟩ :: as, by simp, ?_, new_cons_iff.mpr ⟨fresh, new⟩⟩
    rw [← Space.ofLead_append s, begins]
    exact .cons visible goes quoted plain lists

/-- Attributes are read without a fault just if they are listed and no name comes twice. -/
theorem readAttributes_eq_iff :
    readAttributes [] [] position s = (as, none) ↔ Lists s as ∧ (as.map RawAttribute.name).Nodup := by
  constructor
  · intro h
    obtain ⟨as, rfl, lists, new⟩ := exists_of_readAttributes h
    exact ⟨lists, new.distinct⟩
  · rintro ⟨lists, distinct⟩
    exact readAttributes_of_lists lists ⟨distinct, by simp⟩ [] position

end Tag

end XsdInfer.Sample
