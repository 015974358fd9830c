import Mathlib.Data.Option.Basic
import Mathlib.Tactic.Lemma
import XsdInfer.Command.Files

/-!
# Reading and writing files

A path leads to the same file after a step of writing as before, and to no other one but the file that
is written (`Frame`). This holds when a file is filled and when one is made, since a walk along names
sees of a store no more than its directories and links (`Extends`), and those are as before but for an
entry of the new file. So a file that is opened and filled has what was written, and whatever else is
found is as it was (`Saved`).
-/

namespace XsdInfer.Command

/-! ## Nodes -/

namespace Node

variable {node : Node} {contents : ByteArray} {name : String} {n : Nat}

/-- A file that is filled does not become a directory. -/
@[simp]
lemma directory?_filled : (node.filled contents).directory? = node.directory? := by
  cases node <;> rfl

/-- A file that is filled does not become a link. -/
@[simp]
lemma link?_filled : (node.filled contents).link? = node.link? := by
  cases node <;> rfl

/-- A file that is filled has the new contents. -/
@[simp]
lemma contents?_filled :
    (node.filled contents).contents? = node.contents?.map fun _ => contents := by
  cases node <;> rfl

/-- A directory gets one more entry and keeps its parent. -/
@[simp]
lemma directory?_withEntry : (node.withEntry name n).directory? =
    node.directory?.map fun (parent, entries) => (parent, entries ++ [(name, n)]) := by
  cases node <;> rfl

/-- Nothing becomes a link by a new entry. -/
@[simp]
lemma link?_withEntry : (node.withEntry name n).link? = node.link? := by
  cases node <;> rfl

/-- No contents change by a new entry. -/
@[simp]
lemma contents?_withEntry : (node.withEntry name n).contents? = node.contents? := by
  cases node <;> rfl

end Node

namespace Store

variable {s s' : Store} {path name : String} {contents : ByteArray} {n m k : Nat}

/-! ## What is in a store after a step of writing -/

/-- One number stands for something that is filled, and the others for what they stood for. -/
lemma node?_fill : (s.fill n contents).node? k =
    if n = k then (s.node? k).map (Node.filled contents) else s.node? k := by
  simp only [node?, fill, List.getElem?_modify]
  split <;> simp

/-- What is seen of a node is the same after a file has been filled, if its contents are not seen. -/
lemma bind_node?_fill {α : Type} {see : Node → Option α}
    (blind : ∀ node : Node, see (node.filled contents) = see node) :
    ((s.fill n contents).node? k).bind see = (s.node? k).bind see := by
  rw [node?_fill]
  split <;> cases s.node? k <;> simp [blind]

/-- The directories are the same after a file has been filled. -/
@[simp]
lemma directory?_fill : (s.fill n contents).directory? k = s.directory? k :=
  bind_node?_fill fun _ => Node.directory?_filled

/-- The links are the same after a file has been filled. -/
@[simp]
lemma link?_fill : (s.fill n contents).link? k = s.link? k :=
  bind_node?_fill fun _ => Node.link?_filled

/-- One file has the new contents, and the others have theirs. -/
lemma contents?_fill : (s.fill n contents).contents? k =
    if n = k then (s.contents? k).map fun _ => contents else s.contents? k := by
  rw [contents?, node?_fill]
  split <;> cases h : s.node? k <;> simp [contents?, h]

/-- After a file has been made, a new number stands for it, and the directory has its entry. -/
lemma node?_add : (s.add m name).node? k =
    if s.nodes.length = k then some (.file .empty)
    else if m = k then (s.node? k).map (Node.withEntry name s.nodes.length) else s.node? k := by
  simp only [node?, add, List.getElem?_append, List.length_modify, List.getElem?_modify]
  split
  next lt =>
    rw [if_neg (Nat.ne_of_gt lt)]
    split <;> simp
  next le =>
    by_cases last : s.nodes.length = k
    · simp [last]
    · have beyond : s.nodes.length < k := Nat.lt_of_le_of_ne (Nat.not_lt.mp le) last
      have none : s.nodes[k]? = none := List.getElem?_eq_none (Nat.le_of_lt beyond)
      have apart : k - s.nodes.length ≠ 0 := Nat.sub_ne_zero_of_lt beyond
      rw [if_neg last, none]
      simp [apart]

/-- A number that is not in use has no node. -/
lemma node?_length (s : Store) : s.node? s.nodes.length = none :=
  List.getElem?_eq_none (Nat.le_refl _)

/-- The directories are the same after a file has been made, but for its entry. -/
lemma directory?_add : (s.add m name).directory? k =
    if m = k then (s.directory? k).map fun (parent, entries) =>
      (parent, entries ++ [(name, s.nodes.length)]) else s.directory? k := by
  rw [directory?, node?_add]
  split
  next last =>
    subst last
    simp [directory?, node?_length, Node.directory?]
  next => split <;> cases h : s.node? k <;> simp [directory?, h]

/-- The links are the same after a file has been made. -/
@[simp]
lemma link?_add : (s.add m name).link? k = s.link? k := by
  rw [link?, node?_add]
  split
  next last =>
    subst last
    simp [link?, node?_length, Node.link?]
  next => split <;> cases h : s.node? k <;> simp [link?, h]

/-- A file that has been made is empty, and the others have their contents. -/
lemma contents?_add : (s.add m name).contents? k =
    if s.nodes.length = k then some .empty else s.contents? k := by
  rw [contents?, node?_add]
  split
  next => rfl
  next => split <;> cases h : s.node? k <;> simp [contents?, h]

/-- A node from which no path leads on. -/
def IsLeaf (s : Store) (n : Nat) : Prop :=
  s.directory? n = none ∧ s.link? n = none

/-- Only a file has contents. -/
lemma node?_of_contents (h : s.contents? n = some contents) : s.node? n = some (.file contents) := by
  obtain ⟨node, at_n, file⟩ := Option.bind_eq_some_iff.mp h
  cases node with
  | file _ =>
    cases file
    exact at_n
  | _ => cases file

/-- A file is a leaf. -/
lemma isLeaf_of_contents (h : s.contents? n = some contents) : IsLeaf s n := by
  rw [IsLeaf, directory?, link?, node?_of_contents h]
  exact ⟨rfl, rfl⟩

/-- What a directory refers to is there. -/
lemma lt_of_directory {parent : Nat} {entries : List (String × Nat)}
    (h : s.directory? k = some (parent, entries)) :
    parent < s.nodes.length ∧ ∀ name m, entries.lookup name = some m → m < s.nodes.length := by
  obtain ⟨node, at_k, dir⟩ := Option.bind_eq_some_iff.mp h
  have closed := s.closed node (List.mem_of_getElem? at_k)
  cases node with
  | directory parent' entries' =>
    cases dir
    refine ⟨closed _ (.head _), fun name m found => closed m (.tail _ ?_)⟩
    obtain ⟨l₁, l₂, rfl, -⟩ := List.lookup_eq_some_iff.mp found
    exact List.mem_map.mpr ⟨(name, m), List.mem_append_right _ (.head _), rfl⟩
  | _ => cases dir

/-! ## Names -/

/-- How a name is looked up in a directory. -/
inductive Enters (s : Store) (creating : Bool) (k : Nat) (name : String) (rest : List String) :
    Entry → Prop where
  | here {parent : Nat} {entries : List (String × Nat)}
      (dir : s.directory? k = some (parent, entries)) (dot : name = "" ∨ name = ".") :
      Enters s creating k name rest (.node k)
  | up {parent : Nat} {entries : List (String × Nat)}
      (dir : s.directory? k = some (parent, entries)) (dots : name = "..") :
      Enters s creating k name rest (.node parent)
  | entry {parent : Nat} {entries : List (String × Nat)}
      (dir : s.directory? k = some (parent, entries)) (proper : name ∉ ["", ".", ".."])
      (unslashed : ¬ (creating = true ∧ rest = [""])) (short : name.utf8ByteSize ≤ maxNameBytes) :
      Enters s creating k name rest (s.entry entries name)

/-- Looking up a name succeeds in these three ways only. -/
lemma enter_eq_ok_iff {creating : Bool} {rest : List String} {e : Entry} :
    s.enter creating k name rest = .ok e ↔ Enters s creating k name rest e := by
  constructor
  · intro h
    unfold enter at h
    split at h
    next parent entries dir =>
      split at h
      next dot => cases h; exact .here dir dot
      next no_dot =>
        split at h
        next dots => cases h; exact .up dir dots
        next no_dots =>
          split at h
          next => cases h
          next unslashed =>
            split at h
            next => cases h
            next short =>
              cases h
              exact .entry dir (by simp_all) unslashed (Nat.not_lt.mp short)
    next => cases h
  · intro h
    cases h with
    | here dir dot => simp only [enter, dir, if_pos dot]
    | up dir dots =>
      subst dots
      simp [enter, dir]
    | entry dir proper unslashed short =>
      simp only [List.mem_cons, List.not_mem_nil, or_false, not_or] at proper
      simp [enter, dir, proper, unslashed, Nat.not_lt.mpr short]

/-- What a name comes to is told by the entry that it has, and by the link there. -/
lemma entry_of_lookup {entries : List (String × Nat)} (h : entries.lookup name = some m) :
    s.entry entries name = (s.link? m).elim (.node m) .link := by
  rw [entry, h]

/-- A name is free if there is no entry for it. -/
lemma entry_eq_vacant_iff {entries : List (String × Nat)} :
    s.entry entries name = .vacant ↔ entries.lookup name = none := by
  unfold entry
  cases entries.lookup name with
  | none => exact iff_of_true rfl rfl
  | some k => cases link : s.link? k <;> simp [link]

/-- Names are looked up in directories. -/
lemma Enters.directory {creating : Bool} {rest : List String} {e : Entry}
    (h : Enters s creating k name rest e) :
    ∃ parent entries, s.directory? k = some (parent, entries) := by
  cases h with
  | here dir _ => exact ⟨_, _, dir⟩
  | up dir _ => exact ⟨_, _, dir⟩
  | entry dir _ _ _ => exact ⟨_, _, dir⟩

/-- What a name comes to is there. -/
lemma Enters.lt {creating : Bool} {rest : List String} (here : k < s.nodes.length)
    (h : Enters s creating k name rest (.node m)) : m < s.nodes.length := by
  generalize met : Entry.node m = e at h
  cases h with
  | here _ _ => cases met; exact here
  | up dir _ => cases met; exact (lt_of_directory dir).1
  | @entry parent entries dir _ _ _ =>
    cases found : entries.lookup name with
    | none => rw [entry_eq_vacant_iff.mpr found] at met; cases met
    | some j =>
      rw [entry_of_lookup found] at met
      cases link : s.link? j with
      | none =>
        rw [link] at met
        cases met
        exact (lt_of_directory dir).2 name m found
      | some target => rw [link] at met; cases met

/-! ## Walks through two stores -/

/-- A store has the directories and links of another, but for entries of one file. -/
structure Extends (s s' : Store) (n : Nat) : Prop where
  here : s'.here = s.here
  leaf : IsLeaf s' n
  links : ∀ k, s'.link? k = s.link? k
  kept : ∀ k parent entries, s.directory? k = some (parent, entries) →
    ∃ entries', s'.directory? k = some (parent, entries') ∧
      ∀ name m, entries.lookup name = some m → entries'.lookup name = some m
  others : ∀ k parent entries', s'.directory? k = some (parent, entries') →
    ∃ entries, s.directory? k = some (parent, entries) ∧
      ∀ name m, entries'.lookup name = some m → m = n ∨ entries.lookup name = some m

/-- A store is one that has what it has. -/
lemma Extends.refl (leaf : IsLeaf s n) : Extends s s n where
  here := rfl
  leaf := leaf
  links := fun _ => rfl
  kept := fun _ _ entries dir => ⟨entries, dir, fun _ _ found => found⟩
  others := fun _ _ entries dir => ⟨entries, dir, fun _ _ found => .inr found⟩

/-- A file that is filled changes nothing of directories and links. -/
lemma Extends.fill (leaf : IsLeaf s n) (contents : ByteArray) :
    Extends s (s.fill n contents) n where
  here := rfl
  leaf := by
    rw [IsLeaf, directory?_fill, link?_fill]
    exact leaf
  links := fun _ => link?_fill
  kept := fun _ _ entries dir => ⟨entries, directory?_fill.trans dir, fun _ _ found => found⟩
  others := fun _ _ entries dir =>
    ⟨entries, directory?_fill.symm.trans dir, fun _ _ found => .inr found⟩

/-- A file that is made adds its entry. -/
lemma Extends.add {parent : Nat} {entries : List (String × Nat)}
    (dir : s.directory? m = some (parent, entries)) :
    Extends s (s.add m name) s.nodes.length where
  here := rfl
  leaf := isLeaf_of_contents (by rw [contents?_add, if_pos rfl])
  links := fun _ => link?_add
  kept := by
    intro k parent' entries' dir'
    rw [directory?_add]
    split
    next same =>
      subst same
      rw [dir'] at dir
      cases dir
      refine ⟨_, by rw [dir']; rfl, fun w j found => ?_⟩
      rw [List.lookup_append, found]
      rfl
    next => exact ⟨entries', dir', fun _ _ found => found⟩
  others := by
    intro k parent' entries' dir'
    rw [directory?_add] at dir'
    split at dir'
    next same =>
      subst same
      rw [dir] at dir' ⊢
      cases dir'
      -- The new entry stands behind the others, so that it is found just for a name that was free.
      refine ⟨entries, rfl, fun w j found => ?_⟩
      rw [List.lookup_append, Option.or_eq_some_iff] at found
      rcases found with found | ⟨-, found⟩
      · exact .inr found
      · rw [List.lookup_cons] at found
        split at found
        · exact .inl (Option.some.inj found).symm
        · cases found
    next => exact ⟨entries', dir', fun _ _ found => .inr found⟩

section Extends

variable {creating : Bool} {rest : List String} {e : Entry}

/-- Whatever a name came to, it comes to. -/
lemma Extends.enters (ext : Extends s s' n) (h : Enters s creating k name rest e)
    (met : e ≠ .vacant) : Enters s' false k name rest e := by
  cases h with
  | here dir dot =>
    obtain ⟨entries', dir', -⟩ := ext.kept _ _ _ dir
    exact .here dir' dot
  | up dir dots =>
    obtain ⟨entries', dir', -⟩ := ext.kept _ _ _ dir
    exact .up dir' dots
  | @entry parent entries dir proper unslashed short =>
    obtain ⟨entries', dir', kept⟩ := ext.kept _ _ _ dir
    cases found : entries.lookup name with
    | none => exact absurd (entry_eq_vacant_iff.mpr found) met
    | some j =>
      have same : s'.entry entries' name = s.entry entries name := by
        rw [entry_of_lookup found, entry_of_lookup (kept name j found), ext.links]
      exact same ▸ .entry dir' proper (fun h => nomatch h.1) short

/-- What a name comes to is the file, or the name came to it before. -/
lemma Extends.enters_back (ext : Extends s s' n) (h : Enters s' false k name rest e)
    (met : e ≠ .vacant) : e = .node n ∨ Enters s false k name rest e := by
  cases h with
  | here dir dot =>
    obtain ⟨entries', dir', -⟩ := ext.others _ _ _ dir
    exact .inr (.here dir' dot)
  | up dir dots =>
    obtain ⟨entries', dir', -⟩ := ext.others _ _ _ dir
    exact .inr (.up dir' dots)
  | @entry parent entries dir proper unslashed short =>
    obtain ⟨entries', dir', others⟩ := ext.others _ _ _ dir
    cases found : entries.lookup name with
    | none => exact absurd (entry_eq_vacant_iff.mpr found) met
    | some j =>
      rcases others name j found with rfl | before
      · rw [entry_of_lookup found, ext.leaf.2]
        exact .inl rfl
      · have same : s'.entry entries name = s.entry entries' name := by
          rw [entry_of_lookup found, entry_of_lookup before, ext.links]
        exact .inr (same ▸ .entry dir' proper unslashed short)

end Extends

/-- A place leads to a node, for one that is free if its name has been given to that node. -/
inductive LeadsTo (s : Store) : Place → Nat → Prop where
  | node {n : Nat} : LeadsTo s (.node n) n
  | vacant {k n : Nat} {name : String} (h : Enters s false k name [] (.node n)) :
      LeadsTo s (.vacant k name) n

section Walks

variable {creating : Bool} {follow follow' : Nat → List String → Except FileFault Place}
  {names rest : List String} {place : Place}

/-- How a walk goes on from what a name comes to: from a node, by way of a link, or not at all. -/
inductive GoesOn (s : Store) (creating : Bool) (follow : Nat → List String → Except FileFault Place)
    (k : Nat) (name : String) (rest : List String) : Place → Prop where
  | node {j : Nat} {place : Place} (enters : Enters s creating k name rest (.node j))
      (further : s.along creating follow j rest = .ok place) :
      GoesOn s creating follow k name rest place
  | link {target : String} {place : Place} (enters : Enters s creating k name rest (.link target))
      (further : follow (start k target) (Path.names target ++ rest) = .ok place) :
      GoesOn s creating follow k name rest place
  | vacant (enters : Enters s creating k name rest .vacant) (last : rest = []) :
      GoesOn s creating follow k name rest (.vacant k name)

/-- A walk comes to a place in these three ways only. -/
lemma along_cons_eq_ok_iff : s.along creating follow k (name :: rest) = .ok place ↔
    GoesOn s creating follow k name rest place := by
  constructor
  · intro h
    rw [Store.along] at h
    cases entered : s.enter creating k name rest with
    | error fault => rw [entered] at h; cases h
    | ok e =>
      rw [entered] at h
      have enters := enter_eq_ok_iff.mp entered
      cases e with
      | node j => exact .node enters h
      | link target => exact .link enters h
      | vacant =>
        simp only at h
        split at h
        next last =>
          cases h
          exact .vacant enters last
        next => cases h
  · intro h
    cases h with
    | node enters further =>
      rw [Store.along, enter_eq_ok_iff.mpr enters]
      exact further
    | link enters further =>
      rw [Store.along, enter_eq_ok_iff.mpr enters]
      exact further
    | vacant enters last =>
      rw [Store.along, enter_eq_ok_iff.mpr enters]
      exact if_pos last

/-- A walk along names comes to where it came, if the links in between do. -/
lemma Extends.along (ext : Extends s s' n)
    (follows : ∀ {k names place m}, follow k names = .ok place → LeadsTo s' place m →
      follow' k names = .ok (.node m))
    (h : s.along creating follow k names = .ok place) (leads : LeadsTo s' place m) :
    s'.along false follow' k names = .ok (.node m) := by
  induction names generalizing k with
  | nil =>
    cases h
    cases leads
    rfl
  | cons name rest ih =>
    refine along_cons_eq_ok_iff.mpr ?_
    cases along_cons_eq_ok_iff.mp h with
    | node enters further => exact .node (ext.enters enters nofun) (ih further)
    | link enters further => exact .link (ext.enters enters nofun) (follows further leads)
    | vacant _ last =>
      -- The name was free, and nothing stands behind it.
      subst last
      cases leads with
      | vacant filled => exact .node filled rfl

/-- A walk through links comes to where it came. -/
lemma Extends.walk (ext : Extends s s' n) {links : Nat}
    (h : s.walk creating links k names = .ok place) (leads : LeadsTo s' place m) :
    s'.walk false links k names = .ok (.node m) := by
  -- By induction on the links that are left; the walks between them are compared by `Extends.along`.
  induction links generalizing k names place m with
  | zero =>
    rw [Store.walk] at h ⊢
    refine ext.along (fun stopped _ => ?_) h leads
    cases stopped
  | succ links ih => exact ext.along ih h leads

/-- A walk to anything but the file came there before. -/
lemma Extends.along_back (ext : Extends s s' n) (apart : m ≠ n)
    (follows : ∀ {k names}, follow' k names = .ok (.node m) → follow k names = .ok (.node m))
    (h : s'.along false follow' k names = .ok (.node m)) :
    s.along false follow k names = .ok (.node m) := by
  induction names generalizing k with
  | nil =>
    cases h
    rfl
  | cons name rest ih =>
    refine along_cons_eq_ok_iff.mpr ?_
    cases along_cons_eq_ok_iff.mp h with
    | node enters further =>
      rcases ext.enters_back enters nofun with file | before
      · -- The walk has come to the file, from where no name leads on.
        cases file
        cases rest with
        | nil => cases further; exact absurd rfl apart
        | cons name rest =>
          simp only [Store.along, enter, ext.leaf.1] at further
          cases further
      · exact .node before (ih further)
    | link enters further =>
      rcases ext.enters_back enters nofun with file | before
      · cases file
      · exact .link before (follows further)

/-- A walk through links to anything but the file came there before. -/
lemma Extends.walk_back (ext : Extends s s' n) (apart : m ≠ n) {links : Nat}
    (h : s'.walk false links k names = .ok (.node m)) :
    s.walk false links k names = .ok (.node m) := by
  induction links generalizing k names with
  | zero =>
    rw [Store.walk] at h ⊢
    refine ext.along_back apart (fun stopped => ?_) h
    cases stopped
  | succ links ih => exact ext.along_back apart ih h

/-- A path has a place if it is neither empty nor too long and its names can be walked. -/
lemma place_eq_ok_iff : s.place creating path = .ok place ↔
    path ≠ "" ∧ path.utf8ByteSize ≤ maxPathBytes ∧
      s.walk creating maxLinks (start s.here path) (Path.names path) = .ok place := by
  unfold Store.place
  split
  next unnamed => exact iff_of_false nofun fun h => h.1 unnamed
  next named =>
    split
    next long => exact iff_of_false nofun fun h => absurd h.2.1 (Nat.not_le.mpr long)
    next short => rw [and_iff_right named, and_iff_right (Nat.not_lt.mp short)]

/-- A path leads to the node at its place, when no file is to be made. -/
lemma find_eq_ok_iff : s.find path = .ok n ↔ s.place false path = .ok (.node n) := by
  unfold find
  split
  next m found => rw [found]; simp
  next found => rw [found]; simp
  next fault found => rw [found]; simp

/-- What a path leads to is found also in the other store, with a file that is made there. -/
lemma Extends.find (ext : Extends s s' n) (h : s.place creating path = .ok place)
    (leads : LeadsTo s' place m) : s'.find path = .ok m := by
  obtain ⟨named, short, walked⟩ := place_eq_ok_iff.mp h
  refine find_eq_ok_iff.mpr (place_eq_ok_iff.mpr ⟨named, short, ?_⟩)
  rw [ext.here]
  exact ext.walk walked leads

/-- A path that leads to anything but the file led there before. -/
lemma Extends.find_back (ext : Extends s s' n) (apart : m ≠ n) (h : s'.find path = .ok m) :
    s.find path = .ok m := by
  obtain ⟨named, short, walked⟩ := place_eq_ok_iff.mp (find_eq_ok_iff.mp h)
  refine find_eq_ok_iff.mpr (place_eq_ok_iff.mpr ⟨named, short, ?_⟩)
  rw [ext.here] at walked
  exact ext.walk_back apart walked

end Walks

/-! ## What a step of writing leaves as it is -/

/-- All but one file is as before: what a path led to, it leads to, a path that leads to something else
than the file did so before, and no other file has other contents. -/
structure Frame (s s' : Store) (n : Nat) : Prop where
  kept : ∀ {path m}, s.find path = .ok m → s'.find path = .ok m
  others : ∀ {path m}, m ≠ n → s'.find path = .ok m → s.find path = .ok m
  contents : ∀ {m}, m ≠ n → s'.contents? m = s.contents? m

/-- All but one file is as before after two steps with that file. -/
lemma Frame.trans {s'' : Store} (h : Frame s s' n) (h' : Frame s' s'' n) : Frame s s'' n where
  kept := fun found => h'.kept (h.kept found)
  others := fun apart found => h.others apart (h'.others apart found)
  contents := fun apart => (h'.contents apart).trans (h.contents apart)

/-- All but one file is as before if the directories and links and the other contents are. -/
lemma Extends.frame (ext : Extends s s' n)
    (contents : ∀ {m}, m ≠ n → s'.contents? m = s.contents? m) : Frame s s' n where
  kept := fun found => ext.find (find_eq_ok_iff.mp found) .node
  others := ext.find_back
  contents := contents

/-- All but the file that is filled is as before. -/
lemma frame_fill (leaf : IsLeaf s n) (contents : ByteArray) : Frame s (s.fill n contents) n :=
  (Extends.fill leaf contents).frame fun apart => by rw [contents?_fill, if_neg (Ne.symm apart)]

/-- A file has been saved: a path leads to it, it has what was written, and all else is as before. It
is a new file, or the path led to it. -/
structure Saved (s s' : Store) (path : String) (n : Nat) (contents : ByteArray) : Prop where
  frame : Frame s s' n
  leads : s'.find path = .ok n
  holds : s'.contents? n = some contents
  owned : ∀ {other}, s.find other = .ok n → s.find path = .ok n

/-- What has been saved is read back. -/
lemma Saved.read (h : Saved s s' path n contents) : s'.read path = .ok contents := by
  rw [Store.read, h.leads]
  simp only [node?_of_contents h.holds]

/-- A file that was opened is filled. -/
lemma Saved.fill (h : Saved s s' path n contents) (contents' : ByteArray) :
    Saved s (s'.fill n contents') path n contents' := by
  have step := frame_fill (isLeaf_of_contents h.holds) contents'
  refine ⟨h.frame.trans step, step.kept h.leads, ?_, h.owned⟩
  rw [contents?_fill, if_pos rfl, h.holds]
  rfl

end Store

end XsdInfer.Command
