import XsdInfer.Proofs.Strict.Elements

/-!
# Reading written documents strictly

Each tag of a written document has to be proper inside the declarations around it (`Proper`). Main
statement: the document is then read strictly as the element that it means there
(`strictParse_document`).
-/

namespace XsdInfer.Layout

open Strict (Scopes Node Frame Tree Mode Front Completes IsTag scopesIn tagNode)

/-- A document whose tags can all be read strictly inside some declarations. -/
inductive Proper : Scopes → Layout → Prop where
  | leaf {around : Scopes} {name : String} {attributes : List (String × String)}
      (tag : IsTag around name attributes) : Proper around (.leaf name attributes)
  | block {around : Scopes} {name : String} {attributes : List (String × String)}
      {body : List Layout} (tag : IsTag around name attributes)
      (inner : ∀ l ∈ body, Proper (scopesIn around attributes) l) :
      Proper around (.block name attributes body)

mutual

/-- The element that a document means inside some declarations. -/
def node (around : Scopes) : Layout → Node
  | .leaf name attributes => tagNode around name attributes
  | .block name attributes body =>
    { tagNode around name attributes with children := nodes (scopesIn around attributes) body }

/-- The elements that documents mean one after another. -/
def nodes (around : Scopes) : List Layout → List Node
  | [] => []
  | l :: ls => l.node around :: nodes around ls

end

/-- The nodes of layouts side by side are those of each of them. -/
lemma nodes_eq_map (around : Scopes) (ls : List Layout) : nodes around ls = ls.map (node around) := by
  induction ls with
  | nil => rfl
  | cons l ls ih => rw [nodes, ih, List.map_cons]

variable {around : Scopes} {mode : Mode} {lead rest : List Char} {stack : List Frame}
  {complete : Option Node} {root : Node}

/-- The elements inside of a pair are read one after another. -/
lemma completes_inner {body : List Layout} (depth : Nat) {f : Frame}
    (each : ∀ l ∈ body, ∀ (f' : Frame) (rest : List Char), f'.node = f.node →
      Completes (.content (stack.length + 1)) rest
        ⟨none, { f' with children := l.node around :: f'.children } :: stack, complete⟩ root →
      Completes (.content (stack.length + 1)) (l.text (depth + 1) ++ rest)
        ⟨none, f' :: stack, complete⟩ root)
    (behind : Completes (.content (stack.length + 1)) ('<' :: rest)
      ⟨none, { f with children := (nodes around body).reverse ++ f.children } :: stack, complete⟩
      root) :
    Completes (.content (stack.length + 1)) (inner depth body ++ '<' :: rest)
      ⟨none, f :: stack, complete⟩ root := by
  -- The frame grows by one node for each element, so that it is not fixed in the induction.
  induction body generalizing f with
  | nil => exact Strict.completes_indent depth behind
  | cons l body ih =>
    obtain ⟨s, first⟩ := exists_text_eq_cons (depth + 1) l
    have text : inner depth (l :: body) ++ '<' :: rest =
        '\n' :: indent (depth + 1) ++ '<' :: (s ++ (inner depth body ++ '<' :: rest)) := by
      rw [inner_cons, first]
      simp
    rw [text]
    apply Strict.completes_indent (depth + 1)
    rw [← List.cons_append, ← first]
    refine each l (.head _) f _ rfl (ih (fun l mem f' rest same => ?_) ?_)
    · exact each l (.tail _ mem) f' rest same
    · simpa [nodes] using behind

/-- An element is read as what it means, and put into its place. -/
lemma Proper.completes {l : Layout} (h : Proper around l)
    (front : Front mode lead stack.length) (scopes : Tree.scopes ⟨none, stack, complete⟩ = around)
    (depth : Nat)
    (behind : Completes (.behindElement stack.length) rest
      (Tree.attach ⟨none, stack, complete⟩ (l.node around)) root) :
    Completes mode (lead ++ (l.text depth ++ rest)) ⟨none, stack, complete⟩ root := by
  -- Over what stands inside, the reader is one element deeper and has the declarations of the tag.
  induction h generalizing mode lead rest stack depth with
  | leaf tag =>
    have := Strict.completes_empty front tag scopes behind
    simpa [text] using this
  | @block around name attributes body tag inside ih =>
    let scopes' := scopesIn around attributes
    let f : Frame := ⟨Strict.tagName name, tagNode around name attributes, []⟩
    have closed : Completes (.content (stack.length + 1)) ("</".toList ++ name.toList ++ '>' :: rest)
        ⟨none, { f with children := (nodes scopes' body).reverse ++ [] } :: stack, complete⟩ root := by
      rw [List.append_nil]
      apply Strict.completes_close tag.named
      rw [List.reverse_reverse]
      exact behind
    have filled : Completes (.content (stack.length + 1))
        (inner depth body ++ '<' :: ('/' :: (name.toList ++ '>' :: rest)))
        ⟨none, f :: stack, complete⟩ root := by
      refine completes_inner depth (fun l mem f' rest same behind => ?_) closed
      have here : Tree.scopes ⟨none, f' :: stack, complete⟩ = scopes' := congrArg Node.scopes same
      exact ih l mem (.content _) here (depth + 1) behind
    have := Strict.completes_opened front tag scopes filled
    simpa [text] using this

/-- A document with proper tags is read strictly as the element that it means. -/
theorem strictParse_document {l : Layout} (h : Proper [] l) :
    Strict.parse l.document = .ok (l.node []) := by
  have behind : Completes (.behindElement 0) ['\n'] (Tree.attach {} (l.node [])) (l.node []) :=
    Strict.completes_end
  have front : Front .prolog ['\n'] 0 := .prolog (by decide)
  have whole : Completes .prolog ('\n' :: (l.text 0 ++ ['\n'])) {} (l.node []) :=
    h.completes front rfl 0 behind
  obtain ⟨_, place, started, _⟩ := Strict.Scan.takes_start {}
  show (Strict.read l.document.toList).root = _
  rw [toList_document, Strict.read, started]
  exact whole [] place rfl

end XsdInfer.Layout
