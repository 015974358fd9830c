import XsdInfer.Proofs.Sample.Moves

/-!
# The limit on depth

A sample that is read under some limits is read under another limit on depth as well, just if its tree is
not higher than that (`parse_withDepth`). A draft reaches as deep as the deepest of the elements in it so
far (`Draft.reach`); a tag reaches one level below the open elements, and no other event goes any deeper
(`Draft.reach_of_moves`). So the first tag that goes too deep is refused one level below the limit.
-/

namespace XsdInfer

namespace Element

mutual

/-- The number of levels of a tree. -/
def height : Element → Nat
  | ⟨_, _, _, children, _⟩ => heightAll children + 1

/-- The number of levels of the highest of some trees. -/
def heightAll : List Element → Nat
  | [] => 0
  | e :: es => max (height e) (heightAll es)

end

/-- An element is one higher than its children. -/
lemma height_eq (e : Element) : e.height = heightAll e.children + 1 := by
  obtain ⟨name, attributes, text, children, namespaces⟩ := e
  rfl

/-- Elements side by side are as high as the highest of them. -/
lemma heightAll_append (es es' : List Element) :
    heightAll (es ++ es') = max (heightAll es) (heightAll es') := by
  induction es with
  | nil => simp [heightAll]
  | cons e es ih => rw [List.cons_append, heightAll, heightAll, ih, Nat.max_assoc]

/-- The order of elements makes no difference to their height. -/
lemma heightAll_reverse (es : List Element) : heightAll es.reverse = heightAll es := by
  induction es with
  | nil => rfl
  | cons e es ih => simp [heightAll_append, heightAll, ih, Nat.max_comm]

end Element

namespace Limits

/-- The limits with another one on depth. -/
def withDepth (l : Limits) (n : Nat) : Limits :=
  { l with depth := n }

/-- A use beyond the bound is refused, with the resource, the use and the bound. -/
lemma check_eq_error {l : Limits} {r : Resource} {used : Nat} (h : l.bound r < used) :
    l.check r used = .error ⟨r, used, l.bound r⟩ :=
  if_pos h

end Limits

namespace Sample

open Element (heightAll)
open Steps (exists_ok_of_bind eq_ok_of_mapError)

variable {limits : Limits} {n : Nat} {e root : Element} {f : Frame} {stack : List Frame} {event : Event}

/-- The deepest level on which some open elements or those below them are. -/
def reachOf : List Frame → Nat
  | [] => 0
  | f :: stack => max (stack.length + 1 + heightAll f.children) (reachOf stack)

/-- Open elements reach at least as deep as there are of them. -/
lemma length_le_reachOf (stack : List Frame) : stack.length ≤ reachOf stack := by
  cases stack with
  | nil => exact Nat.le_refl 0
  | cons f stack =>
    rw [reachOf, List.length_cons]
    omega

/-- An element that is closed is one higher than its children. -/
lemma Frame.height_close (f : Frame) : f.close.height = heightAll f.children + 1 := by
  rw [Element.height_eq, close, Element.heightAll_reverse]

/-- Which tags open does not depend on the limit on depth. -/
lemma openTag_withDepth (n : Nat) (around : List Namespace.Declarations) (tag : Tag) :
    openTag (limits.withDepth n) around tag = openTag limits around tag :=
  rfl

namespace Draft

variable {d d' : Draft}

/-- The deepest level that a draft reaches so far. -/
def reach (d : Draft) : Nat :=
  max (reachOf d.stack) (d.root.elim 0 Element.height)

/-- A draft reaches at least as deep as its open elements. -/
lemma length_le_reach (d : Draft) : d.stack.length ≤ d.reach :=
  (length_le_reachOf d.stack).trans (Nat.le_max_left _ _)

/-- An element that goes to its place may make a draft reach deeper. -/
lemma reach_of_attached (attached : Attached e d d') :
    d'.reach = max d.reach (d.stack.length + e.height) := by
  cases attached with
  | root => simp [reach, reachOf]
  | inside =>
    simp only [reach, reachOf, Frame.addChild, heightAll, List.length_cons]
    omega

/-- A tag reaches one level below the open elements, and no other event changes how deep a draft is. -/
lemma reach_of_moves (moves : Moves limits d event d') :
    d'.reach = if event.tag?.isSome then max d.reach (d.stack.length + 1) else d.reach := by
  cases moves with
  | start _ _ _ =>
    simp only [reach, reachOf, heightAll, Event.tag?, Option.isSome_some, if_true]
    omega
  | @empty _ _ tag e opens _ attached =>
    have single : e.height = 1 := by
      rw [Element.height_eq, (plain_of_openTag opens).2]
      rfl
    rw [reach_of_attached attached, single]
    rfl
  | @stop f stack root? _ attached =>
    rw [reach_of_attached attached, Frame.height_close]
    simp only [reach, reachOf, Event.tag?, Option.isSome_none, Bool.false_eq_true, if_false]
    omega
  | @data _ data f stack root? said =>
    have same : (f.addText data).children = f.children := rfl
    simp [reach, reachOf, same, (Event.of_data? said).1]
  | blank said _ => simp [(Event.of_data? said).1]
  | aside => rfl

/-- A step that goes no deeper than a limit is made under this limit as well. -/
lemma Moves.withDepth (moves : Moves limits d event d') (within : d'.reach ≤ n) :
    Moves (limits.withDepth n) d event d' := by
  have room : event.tag?.isSome = true → d.stack.length + 1 ≤ n := by
    intro tag
    rw [reach_of_moves moves, if_pos tag] at within
    omega
  cases moves with
  | start first opens _ => exact .start first opens (room rfl)
  | empty opens _ attached => exact .empty opens (room rfl) attached
  | stop attached => exact .stop attached
  | data said => exact .data said
  | blank said blank => exact .blank said blank
  | aside => exact .aside

/-- A step that is the first to go deeper than a limit is refused under this limit. -/
lemma Moves.step_eq_error (moves : Moves limits d event d') (within : d.reach ≤ n)
    (deeper : n < d'.reach) : d.step (limits.withDepth n) event = .error (.breach ⟨.depth, n + 1, n⟩) := by
  rw [reach_of_moves moves] at deeper
  have level : event.tag?.isSome = true → d.stack.length = n := by
    intro tag
    have := d.length_le_reach
    rw [if_pos tag] at deeper
    omega
  have refused (at_limit : d.stack.length = n) :
      (limits.withDepth n).check .depth (d.stack.length + 1) = .error ⟨.depth, n + 1, n⟩ := by
    rw [at_limit]
    exact Limits.check_eq_error (Nat.lt_succ_self n)
  cases moves with
  | @start _ tag e first opens _ =>
    have fresh : (d.stack.isEmpty && d.root.isSome) = false := by
      cases empty : d.stack with
      | nil => simp [first empty]
      | cons => rfl
    rw [step, push, fresh, openTag_withDepth, opens]
    simp only [bind, Except.bind, refused (level rfl)]
    rfl
  | empty opens _ _ =>
    rw [step, pushEmpty, openTag_withDepth, opens]
    simp only [bind, Except.bind, refused (level rfl)]
    rfl
  | data said | blank said =>
    rw [(Event.of_data? said).1] at deeper
    exact absurd within (Nat.not_le.mpr deeper)
  | stop | aside => exact absurd within (Nat.not_le.mpr deeper)

/-- A step with a location moves a draft as the event does. -/
lemma moves_of_stepAt {e : Located} (h : d.stepAt limits e = .ok d') : Moves limits d e.event d' :=
  moves_of_step (eq_ok_of_mapError h)

/-- No step makes a draft reach less deep. -/
lemma reach_le_of_foldlM {events : List Located} (h : events.foldlM (stepAt limits) d = .ok d') :
    d.reach ≤ d'.reach := by
  refine Steps.keeps_foldlM (P := fun x : Draft => d.reach ≤ x.reach) (fun x e x' le step => ?_)
    (Nat.le_refl _) h
  rw [reach_of_moves (moves_of_stepAt step)]
  split <;> omega

/-- A run that is made under some limits is made under another one on depth as well, or is refused where it
first goes deeper. -/
theorem foldlM_withDepth {events : List Located} (h : events.foldlM (stepAt limits) d = .ok d')
    (within : d.reach ≤ n) :
    (d'.reach ≤ n → events.foldlM (stepAt (limits.withDepth n)) d = .ok d') ∧
      (n < d'.reach → ∃ position, events.foldlM (stepAt (limits.withDepth n)) d =
        .error (.breach ⟨.depth, n + 1, n⟩, some position)) := by
  -- By induction on the events: as long as the draft stays within the limit, its steps are the same; behind
  -- the first one that does not, none matters, since the reach never falls.
  induction events generalizing d with
  | nil =>
    cases h
    exact ⟨fun _ => rfl, fun deeper => absurd within (Nat.not_le.mpr deeper)⟩
  | cons e events ih =>
    rw [List.foldlM_cons] at h
    obtain ⟨d₁, first, rest⟩ := exists_ok_of_bind h
    have moves := moves_of_stepAt first
    rw [List.foldlM_cons]
    obtain here | deeper := Nat.lt_or_ge n d₁.reach |>.symm
    · have step : d.stepAt (limits.withDepth n) e = .ok d₁ := by
        rw [stepAt, step_of_moves (moves.withDepth here)]
        rfl
      rw [step]
      exact ih rest here
    · have step : d.stepAt (limits.withDepth n) e =
          .error (.breach ⟨.depth, n + 1, n⟩, some e.position) := by
        rw [stepAt, moves.step_eq_error within deeper]
        rfl
      rw [step]
      have all := reach_le_of_foldlM rest
      exact ⟨fun shallow => absurd (deeper.trans_le all) (Nat.not_lt.mpr shallow),
        fun _ => ⟨e.position, rfl⟩⟩

end Draft

/-- A sample that is read under some limits is read under another one on depth as well if its tree is not
higher; and if it is, the sample is refused one level below that limit. -/
theorem parse_withDepth {xml : String} (h : parse limits xml = .ok root) (n : Nat) :
    (root.height ≤ n → parse (limits.withDepth n) xml = .ok root) ∧
      (n < root.height → parse (limits.withDepth n) xml = .error (.ofBreach ⟨.depth, n + 1, n⟩)) := by
  have document := eq_ok_of_mapError h
  unfold Reading.document at document
  obtain ⟨d, done, rest⟩ := exists_ok_of_bind document
  have readable : (read xml.toList).fault = none := by
    split at rest
    next => cases rest
    next none => exact none
  rw [readable] at rest
  have ends : d = ⟨[], some root⟩ := Draft.finish_eq_ok_iff.mp rest
  subst ends
  have start : Draft.reach {} ≤ n := Nat.zero_le n
  have height : Draft.reach ⟨[], some root⟩ = root.height := Nat.zero_max _
  obtain ⟨within, beyond⟩ := Draft.foldlM_withDepth done start
  rw [height] at within beyond
  constructor
  · intro shallow
    rw [parse, Reading.document, within shallow, readable]
    rfl
  · intro deeper
    obtain ⟨position, refused⟩ := beyond deeper
    rw [parse, Reading.document, refused]
    rfl

end Sample

end XsdInfer
