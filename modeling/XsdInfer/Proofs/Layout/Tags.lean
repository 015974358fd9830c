import XsdInfer.Proofs.Layout.Proper
import XsdInfer.Proofs.Strict.Scopes

/-!
# The tags of written documents

Where no tag declares anything, a document is known by the list of its tags (`tags`): it is proper if
each of them is (`proper_of_tags`), and what is looked up at each of its elements is looked up at the
tags one after another (`flatMap_all_node`).
-/

namespace XsdInfer

namespace Strict

/-- Attributes that declare nothing leave the scopes as they are. -/
lemma scopesIn_of_plain {attributes : List (String × String)}
    (plain : attributes.filterMap declares? = []) (around : Scopes) :
    scopesIn around attributes = around := by
  rw [scopesIn, plain, List.nil_append]
  exact List.filter_eq_self.mpr fun _ _ => rfl

end Strict

namespace Layout

open Strict (Scopes Node IsTag declares? scopesIn tagNode)

/-- The name and the attributes of a tag. -/
abbrev Tag := String × List (String × String)

mutual

/-- The tags of a document, those that start an element, in their order. -/
def tags : Layout → List Tag
  | .leaf name attributes => [(name, attributes)]
  | .block name attributes body => (name, attributes) :: tagsAll body

/-- The tags of documents one after another. -/
def tagsAll : List Layout → List Tag
  | [] => []
  | l :: ls => l.tags ++ tagsAll ls

end

/-- The tags of layouts side by side are those of each of them. -/
lemma tagsAll_eq_flatMap (ls : List Layout) : tagsAll ls = ls.flatMap tags := by
  induction ls with
  | nil => rfl
  | cons l ls ih => rw [tagsAll, ih, List.flatMap_cons]

/-- A tag that declares nothing. -/
def IsPlain (tag : Tag) : Prop :=
  tag.2.filterMap declares? = []

variable {around : Scopes}

mutual

/-- A document is proper if each of its tags is, where none of them declares anything. -/
theorem proper_of_tags (l : Layout) (plain : ∀ tag ∈ l.tags, IsPlain tag)
    (each : ∀ tag ∈ l.tags, IsTag around tag.1 tag.2) : Proper around l := by
  cases l with
  | leaf name attributes => exact .leaf (each (name, attributes) (.head _))
  | block name attributes body =>
    refine .block (each (name, attributes) (.head _)) ?_
    rw [Strict.scopesIn_of_plain (plain (name, attributes) (.head _))]
    exact proper_of_tagsAll body (fun tag mem => plain tag (.tail _ mem))
      fun tag mem => each tag (.tail _ mem)

/-- Documents are proper if each of their tags is, where none of them declares anything. -/
theorem proper_of_tagsAll (ls : List Layout) (plain : ∀ tag ∈ tagsAll ls, IsPlain tag)
    (each : ∀ tag ∈ tagsAll ls, IsTag around tag.1 tag.2) : ∀ l ∈ ls, Proper around l := by
  cases ls with
  | nil => exact fun _ mem => absurd mem List.not_mem_nil
  | cons l ls =>
    refine List.forall_mem_cons.mpr ⟨?_, ?_⟩
    · exact proper_of_tags l (fun tag mem => plain tag (List.mem_append_left _ mem))
        fun tag mem => each tag (List.mem_append_left _ mem)
    · exact proper_of_tagsAll ls (fun tag mem => plain tag (List.mem_append_right _ mem))
        fun tag mem => each tag (List.mem_append_right _ mem)

end

variable {β : Type} {f : Node → List β}

mutual

/-- What is looked up at each element of a document is looked up at each tag. -/
theorem flatMap_inOrder_node (lone : ∀ n children, f { n with children } = f n) (l : Layout)
    (plain : ∀ tag ∈ l.tags, IsPlain tag) :
    (l.node around).inOrder.flatMap f = l.tags.flatMap fun tag => f (tagNode around tag.1 tag.2) := by
  cases l with
  | leaf name attributes => rw [node, Node.inOrder_eq]; rfl
  | block name attributes body =>
    rw [node, Node.inOrder_eq, Strict.scopesIn_of_plain (plain (name, attributes) (.head _)),
      List.flatMap_cons, lone, tags, List.flatMap_cons]
    have inside := flatMap_inOrderAll_nodes lone body fun tag mem => plain tag (.tail _ mem)
    rw [inside]

/-- What is looked up at each element of some documents is looked up at each tag. -/
theorem flatMap_inOrderAll_nodes (lone : ∀ n children, f { n with children } = f n)
    (ls : List Layout) (plain : ∀ tag ∈ tagsAll ls, IsPlain tag) :
    (Node.inOrderAll (nodes around ls)).flatMap f =
      (tagsAll ls).flatMap fun tag => f (tagNode around tag.1 tag.2) := by
  cases ls with
  | nil => rfl
  | cons l ls =>
    rw [nodes, Node.inOrderAll, tagsAll, List.flatMap_append, List.flatMap_append]
    rw [flatMap_inOrder_node lone l fun tag mem => plain tag (List.mem_append_left _ mem),
      flatMap_inOrderAll_nodes lone ls fun tag mem => plain tag (List.mem_append_right _ mem)]

end

end Layout

end XsdInfer
