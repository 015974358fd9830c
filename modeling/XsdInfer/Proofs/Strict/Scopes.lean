import Mathlib.Tactic.SplitIfs
import XsdInfer.Proofs.Steps
import XsdInfer.Proofs.Strict.Sequence
import XsdInfer.Strict.Node

/-!
# Declarations in force

Which declarations hold at an element can be told from the tokens of the document: those of its own tag,
and then those of the tags around it, from the innermost on (`declarations`). Main statement: what
prefixes stand for at the elements of a document that is read, one after another, is what these
declarations say (`uriOf?_all_of_parse`). A tree in the making is tracked by the declarations that are
known so far (`Tracks`), and every token keeps this so (`Tracks.step`).
-/

namespace XsdInfer.Strict

open Steps (exists_ok_of_bind)

/-! ## Document order -/

mutual

/-- An element and all below it in document order. -/
def Node.inOrder : Node → List Node
  | ⟨localName, uri, attributes, scopes, children⟩ =>
    ⟨localName, uri, attributes, scopes, children⟩ :: Node.inOrderAll children

/-- Elements and all below them, one after another. -/
def Node.inOrderAll : List Node → List Node
  | [] => []
  | n :: ns => n.inOrder ++ Node.inOrderAll ns

end

mutual

/-- A visit is a loop over an element and all below it. -/
theorem Node.foldl_eq_foldl {σ : Type} (visit : σ → Node → σ) (s : σ) (n : Node) :
    n.foldl visit s = n.inOrder.foldl visit s := by
  obtain ⟨localName, uri, attributes, scopes, children⟩ := n
  rw [Node.foldl, Node.inOrder, List.foldl_cons]
  exact Node.foldlAll_eq_foldl visit _ children

/-- A visit of several elements is a loop over them and all below them. -/
theorem Node.foldlAll_eq_foldl {σ : Type} (visit : σ → Node → σ) (s : σ) (ns : List Node) :
    Node.foldlAll visit s ns = (Node.inOrderAll ns).foldl visit s := by
  cases ns with
  | nil => rfl
  | cons n ns =>
    rw [Node.foldlAll, Node.inOrderAll, List.foldl_append, Node.foldl_eq_foldl visit s n]
    exact Node.foldlAll_eq_foldl visit _ ns

end

/-- The nodes of a tree are listed in the order of the document. -/
lemma Node.all_eq_inOrder (n : Node) : n.all = n.inOrder := by
  rw [Node.all, Node.foldl_eq_foldl, List.foldl_flip_cons_eq_append', List.append_nil,
    List.reverse_reverse]

/-- A node comes before those below it. -/
lemma Node.inOrder_eq (n : Node) : n.inOrder = n :: Node.inOrderAll n.children := by
  obtain ⟨localName, uri, attributes, scopes, children⟩ := n
  rw [Node.inOrder]

/-- The nodes below nodes side by side come one after another. -/
lemma Node.inOrderAll_eq_flatMap (ns : List Node) : inOrderAll ns = ns.flatMap inOrder := by
  induction ns with
  | nil => rfl
  | cons n ns ih => rw [inOrderAll, ih, List.flatMap_cons]

/-- Nodes side by side come with all below them, one after another. -/
lemma Node.inOrderAll_append (ns ns' : List Node) :
    inOrderAll (ns ++ ns') = inOrderAll ns ++ inOrderAll ns' := by
  rw [inOrderAll_eq_flatMap, inOrderAll_eq_flatMap, inOrderAll_eq_flatMap, List.flatMap_append]

/-! ## Declarations of a document -/

/-- What some declarations say that a prefix stands for, or the lack of one: the first counts. -/
def Scopes.uriOf? (d : Scopes) (pre : Option String) : Option String :=
  d.lookup pre

/-- The value that is written, if it can be read. -/
def Written.text (value : Written) : String :=
  match resolve value.place value.chars with
  | .ok chars => String.ofList chars
  | .error _ => ""

/-- What is declared where an attribute may be, for a prefix or for names without one. The prefix `xml` has
its namespace already, and is never declared. -/
def declaredBy (name : QName) (value : Written) : Scopes :=
  if name.qualifier = declarer then
    if name.localPart = "xml" then [] else [(some name.localPart, value.text)]
  else if name.localPart = declarer then [(none, value.text)]
  else []

/-- What is known of declarations while tokens are read: those of the last tag, those in force in each
open element from the innermost on, and those in force at each element so far from the last on. -/
structure Trail where
  own : Scopes := []
  around : List Scopes := []
  found : List Scopes := []
deriving DecidableEq, Repr

namespace Trail

/-- The declarations in force at the element of the last tag, the nearest first. -/
def here (d : Trail) : Scopes :=
  d.own ++ d.around.headD []

def step (d : Trail) : Token → Trail
  | .tag _ _ => { d with own := [] }
  | .attr name value _ => { d with own := d.own ++ declaredBy name value }
  | .opened => { d with around := d.here :: d.around, found := d.here :: d.found }
  | .empty => { d with found := d.here :: d.found }
  | .close _ _ => { d with around := d.around.tail }
  | .text _ => d
  | .aside => d

end Trail

/-- The declarations in force at each element of a document, in document order. -/
def declarations (text : String) : List Scopes :=
  ((read text.toList).found.foldl Trail.step {}).found.reverse

/-! ## Tags -/

namespace PendingTag

variable {p p' : PendingTag} {name : QName} {value : Written} {place : Place}

/-- A prefix is declared behind what is declared so far, unless it is `xml`. -/
lemma declared_of_declare {pre uri : String} (h : p.declare pre uri place = .ok p') :
    p'.declared = p.declared ++ if pre = "xml" then [] else [(some pre, uri)] := by
  obtain ⟨_, _, h⟩ := exists_ok_of_bind h
  by_cases xml : pre = "xml"
  · rw [if_pos xml] at h ⊢
    split at h
    next => cases h; exact (List.append_nil _).symm
    next => cases h
  · rw [if_neg xml] at h ⊢
    obtain ⟨_, _, h⟩ := exists_ok_of_bind h
    split at h
    next => cases h
    next => cases h; rfl

/-- A declaration without prefix is put to those before it. -/
lemma declared_of_declareUnprefixed {uri : String} (h : p.declareUnprefixed uri place = .ok p') :
    p'.declared = p.declared ++ [(none, uri)] := by
  obtain ⟨_, _, h⟩ := exists_ok_of_bind h
  obtain ⟨_, _, h⟩ := exists_ok_of_bind h
  cases h
  rfl

/-- What is declared where an attribute may be stands behind what is declared so far. -/
lemma declared_of_add {chars : List Char} (read : resolve value.place value.chars = .ok chars)
    (added : p.add name (String.ofList chars) place = .ok p') :
    p'.declared = p.declared ++ declaredBy name value := by
  have text : value.text = String.ofList chars := by rw [Written.text, read]
  unfold add at added
  rw [declaredBy, text]
  split_ifs at added ⊢ with qualified xml unprefixed
  · rw [declared_of_declare added, if_pos xml]
  · rw [declared_of_declare added, if_neg xml]
  · exact declared_of_declareUnprefixed added
  · cases added
    exact (List.append_nil _).symm

/-- A prefix that is not declared is looked up among the declarations of others. -/
lemma lookup_filter {declared : Scopes} {pre : Option String} (fresh : declared.lookup pre = none)
    (around : Scopes) :
    (around.filter fun d => (declared.lookup d.1).isNone).lookup pre = around.lookup pre := by
  induction around with
  | nil => rfl
  | cons d around ih =>
    by_cases same : pre = d.1
    · have kept : (declared.lookup d.1).isNone = true := by rw [← same, fresh]; rfl
      rw [List.filter_cons, if_pos kept, List.lookup_cons, List.lookup_cons, ih]
    · have other : (pre == d.1) = false := beq_false_of_ne same
      rw [List.lookup_cons, other, List.filter_cons]
      split
      next => rw [List.lookup_cons, other]; exact ih
      next => exact ih

/-- What the tags around declare again does not count. -/
lemma uriOf?_scopes (p : PendingTag) (around : Scopes) :
    Scopes.uriOf? (p.scopes around) = Scopes.uriOf? (p.declared ++ around) := by
  funext pre
  rw [Scopes.uriOf?, Scopes.uriOf?, scopes, List.lookup_append, List.lookup_append]
  cases own : p.declared.lookup pre with
  | some uri => rfl
  | none => rw [lookup_filter own]

/-- The element that a tag makes looks prefixes up in what the tag declares, and then around it. -/
lemma of_node {around : Scopes} {n : Node} (h : p.node around = .ok n) :
    n.children = [] ∧ n.uriOf? = Scopes.uriOf? (p.declared ++ around) := by
  obtain ⟨_, _, h⟩ := exists_ok_of_bind h
  obtain ⟨_, _, h⟩ := exists_ok_of_bind h
  cases h
  exact ⟨rfl, uriOf?_scopes p around⟩

end PendingTag

/-! ## Trees in the making -/

/-- What prefixes stand for at some elements and at all below them, in document order. -/
def Node.lookups (ns : List Node) : List (Option String → Option String) :=
  (inOrderAll ns).map Node.uriOf?

/-- The scopes of nodes side by side come one after another. -/
lemma Node.lookups_append (ns ns' : List Node) : lookups (ns ++ ns') = lookups ns ++ lookups ns' := by
  rw [lookups, inOrderAll_append, List.map_append]
  rfl

/-- The scopes of a node come before those of its children. -/
lemma Node.lookups_singleton (n : Node) : lookups [n] = n.uriOf? :: lookups n.children := by
  rw [lookups, inOrderAll, inOrderAll, List.append_nil, inOrder_eq, List.map_cons]
  rfl

namespace Tree

variable {t : Tree}

/-- What prefixes stand for at the elements of a tree so far. -/
def lookups (t : Tree) : List (Option String → Option String) :=
  Node.lookups (t.root.toList ++ (t.stack.map Frame.close).reverse)

/-- An element is put behind all others, if there is no root yet. -/
lemma lookups_attach (single : t.root = none) (n : Node) :
    (t.attach n).lookups = t.lookups ++ Node.lookups [n] := by
  obtain ⟨tag, stack, root⟩ := t
  cases single
  cases stack with
  | nil => rfl
  | cons f stack =>
    have inside : Node.lookups [Frame.close { f with children := n :: f.children }] =
        Node.lookups [f.close] ++ Node.lookups [n] := by
      rw [Node.lookups_singleton, Node.lookups_singleton f.close, List.cons_append, ← Node.lookups_append,
        Frame.close, Frame.close, List.reverse_cons]
      rfl
    simp only [attach, lookups, List.map_cons, List.reverse_cons, Node.lookups_append, inside,
      List.append_assoc]

/-- Where a reader is tells how many elements are open, whether there is a tag, and that there is no root
yet. Behind the root, no element is open, so that there is no second one. -/
def Fits (t : Tree) (own : Scopes) : Mode → Prop
  | .prolog => t.stack = [] ∧ t.root = none
  | .tag depth => t.stack.length = depth ∧ t.root = none ∧ ∃ p, t.tag = some p ∧ p.declared = own
  | .content depth => t.stack.length = depth ∧ t.root = none
  | .epilog => t.stack = []

/-- Behind an element that is put into its place, as many elements are open as before. -/
lemma fits_attach {own : Scopes} {depth : Nat} (deep : t.stack.length = depth) (single : t.root = none)
    (n : Node) : (t.attach n).Fits own (.behindElement depth) := by
  obtain ⟨tag, stack, root⟩ := t
  cases stack with
  | nil =>
    cases deep
    exact rfl
  | cons f stack =>
    cases deep
    exact ⟨rfl, single⟩

/-- The open nodes stay the same when a node goes to its place. -/
lemma map_node_attach (t : Tree) (n : Node) :
    (t.attach n).stack.map (·.node) = t.stack.map (·.node) := by
  obtain ⟨tag, stack, root⟩ := t
  cases stack <;> rfl

end Tree

/-- A tree in the making, and what is known of declarations from the tokens that made it. -/
structure Tracks (mode : Mode) (t : Tree) (d : Trail) : Prop where
  fits : t.Fits d.own mode
  around : (t.stack.map (·.node)).map Node.uriOf? = d.around.map Scopes.uriOf?
  found : t.lookups = d.found.reverse.map Scopes.uriOf?

namespace Tracks

open XsdInfer.Strict.Tree (lookups_attach fits_attach map_node_attach)

variable {t t' : Tree} {d : Trail} {n : Node} {mode mode' : Mode} {token : Token} {depth : Nat}

/-- The element of a tag looks prefixes up in the declarations that are known to be in force there. -/
lemma uriOf?_of_node (h : Tracks mode t d) {p : PendingTag} (own : p.declared = d.own)
    (made : p.node t.scopes = .ok n) : n.uriOf? = Scopes.uriOf? d.here := by
  have around : Scopes.uriOf? t.scopes = Scopes.uriOf? (d.around.headD []) := by
    have same := h.around
    unfold Tree.scopes
    cases frames : t.stack with
    | nil =>
      rw [frames] at same
      rw [List.map_eq_nil_iff.mp same.symm]
      rfl
    | cons f stack =>
      rw [frames] at same
      obtain ⟨a, around, known, first, _⟩ := List.map_eq_cons_iff.mp same.symm
      rw [known]
      exact first.symm
  rw [(PendingTag.of_node made).2, own]
  funext pre
  have outer := congrFun around pre
  simp only [Scopes.uriOf?, Trail.here, List.lookup_append] at outer ⊢
  rw [outer]

/-- A tag starts without declarations. -/
lemma start (h : Tracks mode t d) (deep : t.stack.length = depth) (single : t.root = none) {name : QName}
    {place : Place} (started : t.startTag name place = .ok t') :
    Tracks (.tag depth) t' (d.step (.tag name place)) := by
  unfold Tree.startTag at started
  split at started
  next => cases started
  next =>
    cases started
    exact ⟨⟨deep, single, _, rfl, rfl⟩, h.around, h.found⟩

/-- The tag of an element by itself puts it into its place. -/
lemma attach (h : Tracks (.tag depth) t d) {p : PendingTag} (own : p.declared = d.own)
    (made : p.node t.scopes = .ok n) :
    Tracks (.behindElement depth) (Tree.attach { t with tag := none } n) (d.step .empty) where
  fits := fits_attach (t := { t with tag := none }) h.fits.1 h.fits.2.1 n
  around := by
    rw [map_node_attach]
    exact h.around
  found := by
    have known := h.found
    have here : Node.lookups [n] = [Scopes.uriOf? d.here] := by
      rw [Node.lookups_singleton, h.uriOf?_of_node own made, (PendingTag.of_node made).1]
      rfl
    rw [lookups_attach (t := { t with tag := none }) h.fits.2.1, here, Trail.step, List.reverse_cons,
      List.map_append, ← known]
    rfl

/-- The start of an element opens it. -/
lemma opened (h : Tracks (.tag depth) t d) {p : PendingTag} (own : p.declared = d.own)
    (made : p.node t.scopes = .ok n) :
    Tracks (.content (depth + 1)) { t with tag := none, stack := ⟨p.name, n, []⟩ :: t.stack }
      (d.step .opened) where
  fits := ⟨congrArg (· + 1) h.fits.1, h.fits.2.1⟩
  around := by
    rw [List.map_cons, List.map_cons, h.around, h.uriOf?_of_node own made]
    rfl
  found := by
    have here : Node.lookups [Frame.close ⟨p.name, n, []⟩] = [Scopes.uriOf? d.here] := by
      rw [Node.lookups_singleton, ← h.uriOf?_of_node own made]
      rfl
    rw [Trail.step, List.reverse_cons, List.map_append, ← h.found]
    simp only [Tree.lookups, List.map_cons, List.reverse_cons, ← List.append_assoc]
    rw [Node.lookups_append, here]
    rfl

/-- The end of an element closes the innermost one. -/
lemma close (h : Tracks (.content depth) t d) {name : QName} {place : Place}
    (closed : t.close name place = .ok t') :
    Tracks (.behindElement (depth - 1)) t' (d.step (.close name place)) := by
  obtain ⟨tag, stack, root⟩ := t
  obtain ⟨deep, single⟩ := h.fits
  have same := h.around
  cases stack with
  | nil =>
    cases closed
    cases deep
    refine ⟨rfl, ?_, h.found⟩
    rw [Trail.step, List.map_tail, ← same]
    rfl
  | cons f stack =>
    unfold Tree.close at closed
    simp only at closed
    split at closed
    next =>
      cases closed
      cases deep
      refine ⟨fits_attach (t := ⟨tag, stack, root⟩) rfl single _, ?_, ?_⟩
      · rw [map_node_attach, Trail.step, List.map_tail, ← same]
        rfl
      · rw [lookups_attach (t := ⟨tag, stack, root⟩) single, Trail.step, ← h.found, Tree.lookups,
          ← Node.lookups_append, Tree.lookups, List.map_cons, List.reverse_cons, List.append_assoc]
    next => cases closed

/-- A tree in the making is tracked by every token. -/
theorem step (h : Tracks mode t d) (next : Next mode token mode') (stepped : t.step token = .ok t') :
    Tracks mode' t' (d.step token) := by
  -- Declarations come into force with the attributes of a tag, and are no more behind its end; nothing else
  -- matters.
  cases next with
  | aside =>
    cases stepped
    exact h
  | @text depth data =>
    rw [Tree.step] at stepped
    cases read : resolve data.place data.chars with
    | error fault => rw [read] at stepped; cases stepped
    | ok chars =>
      rw [read] at stepped
      cases stepped
      exact h
  | root => exact h.start (congrArg List.length h.fits.1) h.fits.2 stepped
  | child => exact h.start h.fits.1 h.fits.2 stepped
  | @attr depth name value place =>
    obtain ⟨deep, single, p, tag, own⟩ := h.fits
    simp only [Tree.step, Tree.addAttribute, tag] at stepped
    obtain ⟨chars, read, stepped⟩ := exists_ok_of_bind stepped
    obtain ⟨p', added, stepped⟩ := exists_ok_of_bind stepped
    cases stepped
    refine ⟨⟨deep, single, p', rfl, ?_⟩, h.around, h.found⟩
    rw [PendingTag.declared_of_add read added, own]
    rfl
  | @opened depth =>
    obtain ⟨deep, single, p, tag, own⟩ := h.fits
    simp only [Tree.step, Tree.endTag, tag] at stepped
    obtain ⟨n, made, stepped⟩ := exists_ok_of_bind stepped
    cases stepped
    exact h.opened own made
  | @empty depth =>
    obtain ⟨deep, single, p, tag, own⟩ := h.fits
    simp only [Tree.step, Tree.endTag, tag] at stepped
    obtain ⟨n, made, stepped⟩ := exists_ok_of_bind stepped
    cases stepped
    exact h.attach own made
  | close => exact h.close stepped

/-- A tree in the making is tracked by tokens that follow each other. -/
theorem run {tokens : List Token} (h : Tracks mode t d) (follows : Follows mode tokens)
    (done : tokens.foldlM Tree.step t = .ok t') :
    ∃ mode', Tracks mode' t' (tokens.foldl Trail.step d) := by
  -- By induction on the tokens: the mode says what may be next, and so which case of a step it is.
  induction follows generalizing t d with
  | nil =>
    cases done
    exact ⟨_, h⟩
  | cons next _ ih =>
    obtain ⟨t₁, first, rest⟩ := Steps.foldlM_cons_eq_ok_iff.mp done
    exact ih (h.step next first) rest

end Tracks

/-- What prefixes stand for at the elements of a document is what the declarations in force there say. -/
theorem uriOf?_all_of_parse {text : String} {root : Node} (parsed : parse text = .ok root) :
    root.all.map Node.uriOf? = (declarations text).map Scopes.uriOf? := by
  obtain ⟨t, built, ended⟩ := exists_ok_of_bind parsed
  have start : Tracks .prolog {} {} := ⟨⟨rfl, rfl⟩, rfl, rfl⟩
  obtain ⟨mode, tracks⟩ := start.run (follows_read text.toList) built
  have found := tracks.found
  obtain ⟨tag, stack, root?⟩ := t
  split at ended
  next => cases ended
  next =>
    -- What is finished has no open element, so its trail is that of the root.
    cases stack with
    | cons f stack => cases ended
    | nil =>
      cases root? with
      | none => cases ended
      | some n =>
        cases ended
        rw [declarations, ← found, Node.all_eq_inOrder, Node.inOrder_eq]
        exact (Node.lookups_singleton root).symm

end XsdInfer.Strict
