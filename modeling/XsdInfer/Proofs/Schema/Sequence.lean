import XsdInfer.Proofs.Inference.Evidence
import XsdInfer.Proofs.Schema.Closed
import XsdInfer.Proofs.Schema.Written

/-!
# Sequences of children

A written sequence accepts the names of children in blocks, one for each declaration in turn
(`Sequence.Accepts`). Names are accepted by declarations of different names, if the bounds allow the
number of each and none stands before one that is declared earlier (`Sequence.accepts_iff`). Main
statement: of each element in a sample that is converted, the children are accepted by the sequence
for its type, if they stand in the order in which the elements of the type show them first, and only
then; in some order they are accepted always (`Conversion.convert_covers`).
-/

namespace XsdInfer

open TypeKey (keyAt typeKeys occurrences)

/-- An upper bound allows a number of occurrences. -/
def MaxOccurs.Allows : MaxOccurs → Nat → Prop
  | bounded most, n => n ≤ most
  | unbounded, _ => True

/-- The bounds of a declaration allow a number of occurrences. -/
def ChildDeclaration.Allows (d : ChildDeclaration) (n : Nat) : Prop :=
  d.minOccurs ≤ n ∧ d.maxOccurs.Allows n

/-- A bound is told from its text. -/
lemma MaxOccurs.text_injective : Function.Injective MaxOccurs.text := by
  have number (n : Nat) : toString n ≠ "unbounded" := by
    intro same
    have digit := Nat.isDigit_of_mem_toDigits (n := n) (b := 10) (c := 'u') (by decide) (by decide)
    rw [Nat.toString_eq_ofList_toDigits] at same
    have letters : Nat.toDigits 10 n = "unbounded".toList := by
      rw [← same, String.toList_ofList]
    exact absurd (digit (letters ▸ List.Mem.head _)) (by decide)
  intro a b same
  cases a with
  | bounded m =>
    cases b with
    | bounded n => exact congrArg bounded (Name.Pool.toString_injective same)
    | unbounded => exact absurd same (number m)
  | unbounded =>
    cases b with
    | bounded n => exact absurd same.symm (number n)
    | unbounded => rfl

namespace Sequence

/-- An element declares a child of a given name, with bounds for its occurrences. -/
structure Declares (e : Element) (name : String) (least : Nat) (most : MaxOccurs) : Prop where
  tag : e.name = "xs:element"
  name : e.attribute? "name" = some name
  least : e.attribute? "minOccurs" = some (toString least)
  most : e.attribute? "maxOccurs" = some most.text

/-- Declarations accept names that come in blocks, one for each declaration in turn, which repeats its
name within its bounds. -/
inductive Accepts : List Element → List String → Prop where
  | nil : Accepts [] []
  | cons {e : Element} {declared : List Element} {name : String} {least n : Nat} {most : MaxOccurs}
      {names : List String} (declares : Declares e name least most) (enough : least ≤ n)
      (allowed : most.Allows n) (rest : Accepts declared names) :
      Accepts (e :: declared) (List.replicate n name ++ names)

/-- The declarations in the sequence of the definition with a given name, in a schema that was read. -/
def declarations (written : Element) (typeName : String) : List Element :=
  let definitions := (written.childrenNamed "xs:complexType").filter
    fun e => e.attribute? "name" = some typeName
  definitions.flatMap fun e => (e.childrenNamed "xs:sequence").flatMap Element.children

/-- No name stands before one that is declared earlier. -/
def InOrder (declared names : List String) : Prop :=
  names.Pairwise fun a b => declared.idxOf a ≤ declared.idxOf b

instance (declared names : List String) : Decidable (InOrder declared names) :=
  inferInstanceAs (Decidable (List.Pairwise _ _))

/-- Each name is declared, and no declaration is broken by the number of its occurrences. -/
structure Counted (declared : List (String × ChildDeclaration)) (names : List String) : Prop where
  known : ∀ n ∈ names, n ∈ declared.map Prod.fst
  allowed : ∀ c ∈ declared, c.2.Allows (names.count c.1)

/-- Names are within their bounds in any order. -/
lemma Counted.perm {declared : List (String × ChildDeclaration)} {names names' : List String}
    (h : Counted declared names) (perm : names.Perm names') : Counted declared names' where
  known := fun n mem => h.known n (perm.mem_iff.mpr mem)
  allowed := by
    intro c mem
    rw [← perm.count_eq c.1]
    exact h.allowed c mem

/-- Names can be put in order. -/
lemma exists_perm_inOrder (declared names : List String) :
    ∃ names', names'.Perm names ∧ InOrder declared names' := by
  have sorted : (names.mergeSort fun a b => declared.idxOf a ≤ declared.idxOf b).Pairwise
      fun a b => decide (declared.idxOf a ≤ declared.idxOf b) = true :=
    List.pairwise_mergeSort (fun a b c => by simp; omega) (fun a b => by simp; omega) names
  exact ⟨_, List.mergeSort_perm names _, sorted.imp of_decide_eq_true⟩

/-- If nothing else stands before a name, then all its occurrences do. -/
lemma exists_block {k : String} {names : List String}
    (first : names.Pairwise fun a b => b = k → a = k) :
    ∃ rest, names = List.replicate (names.count k) k ++ rest ∧ k ∉ rest := by
  induction names with
  | nil => exact ⟨[], rfl, List.not_mem_nil⟩
  | cons a names ih =>
    obtain ⟨before, first⟩ := List.pairwise_cons.mp first
    by_cases here : a = k
    · obtain ⟨rest, split, others⟩ := ih first
      subst here
      refine ⟨rest, ?_, others⟩
      rw [List.count_cons_self, List.replicate_succ, List.cons_append, ← split]
    · have absent : k ∉ a :: names := by
        rintro (_ | ⟨_, mem⟩)
        · exact here rfl
        · exact here (before k mem rfl)
      refine ⟨a :: names, ?_, absent⟩
      rw [List.count_eq_zero.mpr absent]
      rfl

/-- Behind a block of the name that is declared first, the order of the others counts. -/
lemma inOrder_block_iff {k : String} {declared rest : List String} (others : k ∉ rest) (n : Nat) :
    InOrder (k :: declared) (List.replicate n k ++ rest) ↔ InOrder declared rest := by
  have behind : InOrder (k :: declared) rest ↔ InOrder declared rest := by
    refine List.Pairwise.iff_of_mem fun {a b} mem mem' => ?_
    have other : a ≠ k := ne_of_mem_of_not_mem mem others
    have other' : b ≠ k := ne_of_mem_of_not_mem mem' others
    rw [List.idxOf_cons_ne _ (Ne.symm other), List.idxOf_cons_ne _ (Ne.symm other'),
      Nat.succ_le_succ_iff]
  refine ⟨fun h => behind.mp (List.pairwise_append.mp h).2.1, fun h => ?_⟩
  refine List.pairwise_append.mpr ⟨?_, behind.mpr h, fun a mem b _ => ?_⟩
  · exact List.pairwise_replicate.mpr (.inr (Nat.le_refl _))
  · rw [List.eq_of_mem_replicate mem, List.idxOf_cons_self]
    exact Nat.zero_le _

/-- A block of the name that is declared first counts for its declaration alone. -/
lemma counted_block_iff {c : String × ChildDeclaration} {declared : List (String × ChildDeclaration)}
    {rest : List String} (new : c.1 ∉ declared.map Prod.fst) (others : c.1 ∉ rest) (n : Nat) :
    Counted (c :: declared) (List.replicate n c.1 ++ rest) ↔
      c.2.Allows n ∧ Counted declared rest := by
  have block : (List.replicate n c.1 ++ rest).count c.1 = n := by
    rw [List.count_append, List.count_replicate_self, List.count_eq_zero.mpr others, Nat.add_zero]
  -- The block counts for no other declaration, since no two have one name.
  have behind (d : String × ChildDeclaration) (mem : d ∈ declared) :
      (List.replicate n c.1 ++ rest).count d.1 = rest.count d.1 := by
    have other : c.1 ≠ d.1 := fun same => new (same ▸ List.mem_map_of_mem mem)
    rw [List.count_append, List.count_replicate, if_neg (by simpa using other), Nat.zero_add]
  constructor
  · intro h
    obtain ⟨here, allowed⟩ := List.forall_mem_cons.mp h.allowed
    rw [block] at here
    refine ⟨here, fun a mem => ?_, fun d mem => ?_⟩
    · obtain same | known := List.mem_cons.mp (h.known a (List.mem_append_right _ mem))
      · exact absurd (same ▸ mem) others
      · exact known
    · rw [← behind d mem]
      exact allowed d mem
  · rintro ⟨here, h⟩
    refine ⟨fun a mem => ?_, List.forall_mem_cons.mpr ⟨?_, fun d mem => ?_⟩⟩
    · obtain same | mem := List.mem_append.mp mem
      · rw [List.eq_of_mem_replicate same]
        exact .head _
      · exact .tail _ (h.known a mem)
    · rw [block]
      exact here
    · rw [behind d mem]
      exact h.allowed d mem

section

variable (s : Schema) (target : Option String)

/-- What the element for a child declares. -/
lemma declares_childElement_iff {c : String × ChildDeclaration} (simple : Name.localPart c.1 = c.1)
    {name : String} {least : Nat} {most : MaxOccurs} :
    Declares (s.childElement target c) name least most ↔
      name = c.1 ∧ least = c.2.minOccurs ∧ most = c.2.maxOccurs := by
  have written : (s.childElement target c).attribute? "name" = some c.1 ∧
      (s.childElement target c).attribute? "minOccurs" = some (toString c.2.minOccurs) ∧
      (s.childElement target c).attribute? "maxOccurs" = some c.2.maxOccurs.text := by
    refine ⟨?_, rfl, rfl⟩
    rw [← simple]
    rfl
  obtain ⟨at_name, at_least, at_most⟩ := written
  constructor
  · intro h
    refine ⟨?_, ?_, ?_⟩
    · exact Option.some.inj (h.name.symm.trans at_name)
    · exact Name.Pool.toString_injective (Option.some.inj (h.least.symm.trans at_least))
    · exact MaxOccurs.text_injective (Option.some.inj (h.most.symm.trans at_most))
  · rintro ⟨rfl, rfl, rfl⟩
    exact ⟨rfl, at_name, at_least, at_most⟩

/-- Written declarations of different names accept just the names that are counted by them and stand
in order. -/
theorem accepts_iff {declared : List (String × ChildDeclaration)}
    (nodup : (declared.map Prod.fst).Nodup) (simple : ∀ c ∈ declared, Name.localPart c.1 = c.1)
    (names : List String) :
    Accepts (declared.map (s.childElement target)) names ↔
      Counted declared names ∧ InOrder (declared.map Prod.fst) names := by
  -- By induction on the declarations: the names of the first one stand in front, as a block.
  induction declared generalizing names with
  | nil =>
    constructor
    · intro h
      cases h
      exact ⟨⟨nofun, nofun⟩, .nil⟩
    · rintro ⟨counted, _⟩
      obtain rfl := List.eq_nil_iff_forall_not_mem.mpr fun n mem =>
        List.not_mem_nil (counted.known n mem)
      exact .nil
  | cons c declared ih =>
    obtain ⟨new, nodup⟩ := List.nodup_cons.mp nodup
    obtain ⟨here, simple⟩ := List.forall_mem_cons.mp simple
    have ih := ih nodup simple
    constructor
    · intro h
      cases h with
      | cons declares enough allowed rest =>
        obtain ⟨rfl, rfl, rfl⟩ := (declares_childElement_iff s target here).mp declares
        obtain ⟨counted, order⟩ := (ih _).mp rest
        have others := fun mem => new (counted.known c.1 mem)
        exact ⟨(counted_block_iff new others _).mpr ⟨⟨enough, allowed⟩, counted⟩,
          (inOrder_block_iff others _).mpr order⟩
    · rintro ⟨counted, order⟩
      -- In order, nothing stands before a name that is declared first but this name itself.
      have first : names.Pairwise fun a b => b = c.1 → a = c.1 := by
        refine order.imp fun {a b} le same => ?_
        by_contra other
        rw [same, List.map_cons, List.idxOf_cons_self,
          List.idxOf_cons_ne _ (Ne.symm other)] at le
        exact Nat.not_succ_le_zero _ le
      obtain ⟨rest, split, others⟩ := exists_block first
      rw [split] at counted order ⊢
      obtain ⟨⟨enough, allowed⟩, counted⟩ := (counted_block_iff new others _).mp counted
      have order := (inOrder_block_iff others _).mp order
      exact .cons ((declares_childElement_iff s target here).mpr ⟨rfl, rfl, rfl⟩) enough allowed
        ((ih rest).mpr ⟨counted, order⟩)

end

/-! ## Sequences in schemas -/

/-- The sequence in the definition of a type, if there is one, declares the children of the type. -/
lemma sequence_typeElement (s : Schema) (target : Option String) {t : SchemaType}
    (complex : t.kind = .complex) :
    ((s.typeElement target t).childrenNamed "xs:sequence").flatMap Element.children =
      t.children.entries.map (s.childElement target) := by
  have attributes : t.attributeElements.filter (·.name == "xs:sequence") = [] := by
    refine List.filter_eq_nil_iff.mpr fun e mem => ?_
    obtain ⟨a, _, rfl⟩ := List.mem_map.mp mem
    exact show ¬ ("xs:attribute" == "xs:sequence") = true by decide
  show ((s.contentElements target t).filter (·.name == "xs:sequence")).flatMap Element.children = _
  rw [Schema.contentElements, SchemaType.content?, complex]
  cases bare : t.children.entries with
  | nil =>
    cases t.primitive with
    | none => exact congrArg (List.flatMap Element.children) attributes
    | some base => rfl
  | cons c entries =>
    cases t.isMixed with
    | false => simp [attributes]
    | true => simp [attributes]

/-- The definitions in a written schema are those of its complex types. -/
lemma definitions_tree (s : Schema) (rootName : String) (target : Option String) :
    (s.tree rootName target).childrenNamed "xs:complexType" =
      s.complexTypes.map (s.typeElement target) := by
  have types : (s.complexTypes.map (s.typeElement target)).filter (·.name == "xs:complexType") =
      s.complexTypes.map (s.typeElement target) := by
    refine List.filter_eq_self.mpr fun e mem => ?_
    obtain ⟨t, _, rfl⟩ := List.mem_map.mp mem
    rfl
  -- The declaration of the root, which comes first, is left out.
  exact types

/-- The declarations for the name of a type in a written schema are those of its children. -/
lemma declarations_tree {s : Schema} (closed : s.Closed) (rootName : String)
    (target : Option String) {t : SchemaType} (mem : t ∈ s.types) :
    declarations (s.tree rootName target) t.typeName =
      t.children.entries.map (s.childElement target) := by
  have named : s.complexTypes.filter (fun t' => t'.typeName = t.typeName) =
      [t].filter SchemaType.isComplex := by
    rw [← FirstSeen.filter_eq_singleton closed.nodup mem, Schema.complexTypes, List.filter_comm]
  have definitions : ((s.tree rootName target).childrenNamed "xs:complexType").filter
      (fun e => e.attribute? "name" = some t.typeName) =
        ([t].filter SchemaType.isComplex).map (s.typeElement target) := by
    have name (t' : SchemaType) :
        (s.typeElement target t').attribute? "name" = some t'.typeName := rfl
    simp only [definitions_tree, List.filter_map, ← named, Function.comp_def, name,
      Option.some.injEq]
  simp only [declarations, definitions]
  cases kind : t.kind with
  | simple =>
    have bare : t.children.entries = [] := by
      by_contra some
      rw [closed.parents t mem some] at kind
      cases kind
    rw [bare, List.filter_cons_of_neg (by rw [SchemaType.isComplex, kind]; decide)]
    rfl
  | complex =>
    rw [List.filter_cons_of_pos (by rw [SchemaType.isComplex, kind]; rfl)]
    exact (List.append_nil _).trans (sequence_typeElement s target kind)

/-- What the declarations for the type of some elements say of the children of one of them. -/
structure Covers (declared : List Element) (es : List Element) (e : Element) : Prop where
  /-- Each child of the elements is declared once, in the order of first sight. -/
  names : declared.map (·.attribute? "name") =
    (es.flatMap Element.childNames).eraseDups.map some
  accepts_iff : Accepts declared e.childNames ↔
    InOrder (es.flatMap Element.childNames).eraseDups e.childNames
  /-- In some order, the children are accepted. -/
  exists_accepted : ∃ names, names.Perm e.childNames ∧ Accepts declared names

end Sequence

namespace Evidence

variable {placeOf : String → Nat} {es : List Element} {tag name : String}

/-- A declared child is counted as often as it is found on some element at most. -/
lemma counted_schemaType {e : Element} (mem : e ∈ es) :
    Sequence.Counted ((ofElements placeOf es).schemaType tag name).children.entries
      e.childNames where
  known := by
    intro n child
    show n ∈ ((ofElements placeOf es).schemaType tag name).children.keys
    rw [keys_children_schemaType, keys_children_ofElements, List.mem_eraseDups]
    exact List.mem_flatMap.mpr ⟨e, mem, child⟩
  allowed := by
    intro c entry
    obtain ⟨⟨n, v⟩, seen, rfl⟩ := List.mem_map.mp entry
    refine ⟨Nat.zero_le _, ?_⟩
    have nodup : (ofElements placeOf es).children.keys.Nodup := by
      rw [keys_children_ofElements]
      exact FirstSeen.nodup_eraseDups _
    -- A name has one entry, so that the evidence of the entry is what is looked up for the name.
    have found := Table.get?_of_mem nodup seen
    rw [get?_children_ofElements] at found
    split at found
    next =>
      obtain rfl := Option.some.inj found
      cases repeated : es.any (Element.repeats · n) with
      | true =>
        simp only [declaration]
        trivial
      | false =>
        have once : ¬ 1 < e.childNames.count n := by
          have here := List.any_eq_false.mp repeated e mem
          simpa [Element.repeats] using here
        simp only [declaration]
        exact Nat.not_lt.mp once
    next => cases found

end Evidence

namespace Schema

variable {scope : Scope} {root : Element} {p : Element.Place}

/-- The type at the place of the key of an element counts the children of the element. -/
lemma exists_counted (scope : Scope) (mem : p ∈ root.places) :
    ∃ t, (described scope root).types[(typeKeys scope root).idxOf (keyAt scope p)]? = some t ∧
      t.Shows scope root (keyAt scope p) ∧
      Sequence.Counted t.children.entries p.2.childNames := by
  have known : keyAt scope p ∈ typeKeys scope root :=
    TypeKey.mem_typeKeys_iff_keyAt.mpr ⟨p, mem, rfl⟩
  obtain ⟨name, _, type⟩ := getElem?_types_described (List.getElem?_idxOf known)
  refine ⟨_, type, shows_schemaType scope root (keyAt scope p) name, ?_⟩
  exact Evidence.counted_schemaType (TypeKey.mem_occurrences_iff.mpr ⟨p.1, mem, rfl⟩)

/-- The type at the place of the key of an element covers the element. -/
lemma covers_described (named : ∀ p ∈ root.places, p.2.Named) (rootName : String)
    (target : Option String) (mem : p ∈ root.places) :
    ∃ t, (described scope root).types[(typeKeys scope root).idxOf (keyAt scope p)]? = some t ∧
      Sequence.Covers
        (Sequence.declarations ((described scope root).tree rootName target) t.typeName)
        (occurrences scope (keyAt scope p) root.places) p.2 := by
  obtain ⟨t, type, shown, counted⟩ := exists_counted scope mem
  refine ⟨t, type, ?_⟩
  rw [Sequence.declarations_tree (closed_described scope root) rootName target
    (List.mem_of_getElem? type)]
  have simple (c : String × ChildDeclaration) (entry : c ∈ t.children.entries) :
      Name.localPart c.1 = c.1 :=
    Name.localPart_of_isSimple (shown.isSimple_child named (List.mem_map_of_mem entry))
  have keys := shown.children
  have nodup := FirstSeen.nodup_eraseDups
    ((occurrences scope (keyAt scope p) root.places).flatMap Element.childNames)
  rw [← keys] at nodup
  have accepts := Sequence.accepts_iff (described scope root) target nodup simple
  refine ⟨?_, ?_, ?_⟩
  · rw [← keys, List.map_map, Table.keys, List.map_map]
    refine List.map_congr_left fun c entry => ?_
    show some (Name.localPart c.1) = some c.1
    rw [simple c entry]
  · rw [accepts, ← keys]
    exact and_iff_right counted
  · obtain ⟨names, perm, order⟩ := Sequence.exists_perm_inOrder _ p.2.childNames
    exact ⟨names, perm, (accepts names).mpr ⟨counted.perm perm.symm, order⟩⟩

end Schema

namespace Conversion

/-- Of each element in a sample that is converted, the children are accepted by the sequence for its
type, if no child stands before one that the elements of the type show earlier, and only then. In some
order they are accepted always. -/
theorem convert_covers {c : Conversion} {xml xsd : String} (converted : c.convert xml = .ok xsd) :
    ∃ root s written, Sample.parse c.limits xml = .ok root ∧ c.infer xml = .ok s ∧
      Sample.parse {} xsd = .ok written ∧ s.Describes c.scope root ∧
      ∀ p ∈ root.places, ∃ t,
        s.types[(typeKeys c.scope root).idxOf (keyAt c.scope p)]? = some t ∧
        Sequence.Covers (Sequence.declarations written t.typeName)
          (occurrences c.scope (keyAt c.scope p) root.places) p.2 := by
  obtain ⟨s, inferred, rfl⟩ := exists_infer_of_convert converted
  obtain ⟨root, parsed, rfl⟩ := exists_parse_of_infer inferred
  refine ⟨root, _, _, parsed, inferred, Schema.parse_render _ _ _,
    Schema.described_describes c.scope root, fun p mem => ?_⟩
  exact Schema.covers_described (Sample.named_of_parse parsed) _ _ mem

/-- A type with two elements, the children of one of which stand in the order of first sight. -/
theorem convert_covers_reordered :
    let c : Conversion := { scope := .parent }
    let xml := "<r><x><a/><b/><b/></x><x><b/><a/></x></r>"
    ∃ xsd, c.convert xml = .ok xsd ∧
      ∃ root s written, Sample.parse c.limits xml = .ok root ∧ c.infer xml = .ok s ∧
        Sample.parse {} xsd = .ok written ∧ s.Describes c.scope root ∧
        ∀ p ∈ root.places, ∃ t,
          s.types[(typeKeys c.scope root).idxOf (keyAt c.scope p)]? = some t ∧
          Sequence.Covers (Sequence.declarations written t.typeName)
            (occurrences c.scope (keyAt c.scope p) root.places) p.2 := by
  intro c xml
  have accepted : (c.convert xml).isOk = true := by decide +kernel
  cases converted : c.convert xml with
  | error e => rw [converted] at accepted; cases accepted
  | ok xsd => exact ⟨xsd, rfl, convert_covers converted⟩

/-- A child that comes back behind another one is not accepted where it comes back. -/
theorem not_forall_convert_accepts :
    ¬ ∀ (c : Conversion) (xml xsd : String) (root : Element) (s : Schema) (written : Element),
      c.convert xml = .ok xsd → Sample.parse c.limits xml = .ok root → c.infer xml = .ok s →
      Sample.parse {} xsd = .ok written → ∀ p ∈ root.places, ∀ t,
        s.types[(typeKeys c.scope root).idxOf (keyAt c.scope p)]? = some t →
        Sequence.Accepts (Sequence.declarations written t.typeName) p.2.childNames := by
  intro all
  have accepted : (convert {} "<r><a/><b/><a/></r>").isOk = true := by decide +kernel
  cases converted : convert {} "<r><a/><b/><a/></r>" with
  | error e => rw [converted] at accepted; cases accepted
  | ok xsd =>
    obtain ⟨s, inferred, rfl⟩ := exists_infer_of_convert converted
    obtain ⟨root, parsed, rfl⟩ := exists_parse_of_infer inferred
    have here : ([], root) ∈ root.places := by
      rw [Element.places_eq]
      exact Element.self_mem_placesFrom [] root
    obtain ⟨t, type, covers⟩ :=
      Schema.covers_described (Sample.named_of_parse parsed) root.name root.namespace? here
    have order := covers.accepts_iff.mp
      (all _ _ _ _ _ _ converted parsed inferred (Schema.parse_render _ _ _) _ here t type)
    have broken : (Sample.parse {} "<r><a/><b/><a/></r>").map (fun root => decide
        (Sequence.InOrder ((occurrences .global (keyAt .global ([], root)) root.places).flatMap
          Element.childNames).eraseDups root.childNames)) = .ok false := by
      decide +kernel
    have parsed : Sample.parse {} "<r><a/><b/><a/></r>" = .ok root := parsed
    rw [parsed] at broken
    exact of_decide_eq_false (Except.ok.inj broken) order

end Conversion

end XsdInfer
