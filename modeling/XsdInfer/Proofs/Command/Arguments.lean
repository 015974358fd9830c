import Mathlib.Data.List.Forall2
import Mathlib.Data.List.Perm.Basic
import XsdInfer.Command.Arguments

/-!
# Command lines

A command line of the command `convert` names a file and may name a scope, a file for the schema, and
ask for stricter limits. Main statement: however these parts are ordered, they are understood as what
they say (`ofArguments_of_line`). What has been read so far is known by its parts alone
(`Parts.Holds`), and that does not depend on their order.
-/

namespace XsdInfer.Command

open Command.Part (isOption)

/-! ## The parts of a command line -/

/-- What is asked of the command `convert`. -/
structure Asked where
  file : String
  scope : Option String := none
  strict : Bool := false
  output : Option String := none

/-- The parts that say what is asked. -/
def Asked.parts (a : Asked) : List Part :=
  .file a.file :: ((a.scope.map (Part.setting "scope")).toList
    ++ (if a.strict then [.flag "strict"] else []) ++ (a.output.map (Part.setting "output")).toList)

/-- The option or flag that a part is about. -/
def Part.slot : Part → Option String
  | .flag name => some name
  | .setting name _ => some name
  | .file _ => none
  | .misuse => none

/-- A part that says something of a conversion. -/
def Part.IsPlain : Part → Prop
  | .flag name => name ∉ ["verbose", "help"]
  | .setting _ _ => True
  | .file path => path ≠ ""
  | .misuse => False

/-- What is known when given parts have been read, in whatever order. -/
structure Parts.Holds (p : Parts) (read : List Part) : Prop where
  flags : ∀ name, name ∈ p.flags ↔ .flag name ∈ read
  values : ∀ name value, p.values.lookup name = some value ↔ .setting name value ∈ read
  file : ∀ path, p.file = some path ↔ .file path ∈ read

/-- A part about something new is put to those before it. -/
lemma Parts.Holds.add {p : Parts} {read : List Part} {part : Part} (h : p.Holds read)
    (plain : part.IsPlain) (new : part.slot ∉ read.map Part.slot) :
    ∃ q, p.add part = some q ∧ q.Holds (part :: read) := by
  have absent {part' : Part} (same : part'.slot = part.slot) : part' ∉ read := fun mem =>
    new (same ▸ List.mem_map_of_mem mem)
  -- One case for each kind of part: its own slot was empty, and the others are as they were.
  cases part with
  | flag name =>
    have unread : name ∉ p.flags := fun mem => absent rfl ((h.flags name).mp mem)
    have other : name ≠ "verbose" := fun same => plain (same ▸ .head _)
    refine ⟨{ p with flags := name :: p.flags }, ?_, ?_, ?_, ?_⟩
    · simp [Parts.add, other, unread]
    · intro n
      rw [List.mem_cons, List.mem_cons, h.flags, Part.flag.injEq]
    · intro n value
      rw [List.mem_cons, or_iff_right nofun]
      exact h.values n value
    · intro path
      rw [List.mem_cons, or_iff_right nofun]
      exact h.file path
  | setting name value =>
    have unread : p.values.lookup name = none := by
      rw [Option.eq_none_iff_forall_ne_some]
      intro v found
      have same : (Part.setting name v).slot = some name := rfl
      exact absent same ((h.values name v).mp found)
    refine ⟨{ p with values := (name, value) :: p.values }, ?_, ?_, ?_, ?_⟩
    · simp [Parts.add, unread]
    · intro n
      rw [List.mem_cons, or_iff_right nofun]
      exact h.flags n
    · intro n v
      rw [List.mem_cons, Part.setting.injEq]
      -- Nothing has been read for this name, so that the new entry hides no other one.
      by_cases same : n = name
      · subst same
        have none := (h.values n v).not.mp (by rw [unread]; exact nofun)
        rw [List.lookup_cons_self, or_iff_left none, Option.some_inj, eq_comm, and_iff_right rfl]
      · rw [List.lookup_cons, beq_false_of_ne same, or_iff_right fun both => same both.1]
        exact h.values n v
    · intro path
      rw [List.mem_cons, or_iff_right nofun]
      exact h.file path
  | file path =>
    have unread : p.file = none := by
      rw [Option.eq_none_iff_forall_ne_some]
      intro v found
      have same : (Part.file v).slot = none := rfl
      exact absent same ((h.file v).mp found)
    refine ⟨{ p with file := some path }, ?_, ?_, ?_, ?_⟩
    · have named : path ≠ "" := plain
      simp [Parts.add, unread, named]
    · intro n
      rw [List.mem_cons, or_iff_right nofun]
      exact h.flags n
    · intro n v
      rw [List.mem_cons, or_iff_right nofun]
      exact h.values n v
    · intro other
      have none := (h.file other).not.mp (by rw [unread]; exact nofun)
      rw [List.mem_cons, or_iff_left none, Option.some_inj, Part.file.injEq, eq_comm]
  | misuse => exact absurd plain id

/-- What has been read does not depend on the order in which it was. -/
lemma Parts.Holds.perm {p : Parts} {read read' : List Part} (h : p.Holds read)
    (perm : read.Perm read') : p.Holds read' where
  flags := fun name => (h.flags name).trans perm.mem_iff
  values := fun name value => (h.values name value).trans perm.mem_iff
  file := fun path => (h.file path).trans perm.mem_iff

variable {a : Asked}

/-- The only flag of a conversion asks for stricter limits. -/
lemma Asked.flag_mem_parts {name : String} :
    .flag name ∈ a.parts ↔ a.strict = true ∧ name = "strict" := by
  simp [Asked.parts]

/-- The settings of a conversion are its scope and its output. -/
lemma Asked.setting_mem_parts {name value : String} : .setting name value ∈ a.parts ↔
    name = "scope" ∧ a.scope = some value ∨ name = "output" ∧ a.output = some value := by
  have flags : Part.setting name value ∉ if a.strict then [.flag "strict"] else [] := by
    cases a.strict <;> simp
  have settings (n : String) (v? : Option String) :
      Part.setting name value ∈ (v?.map (Part.setting n)).toList ↔ name = n ∧ v? = some value := by
    cases v? <;> simp [eq_comm, and_comm]
  rw [Asked.parts, List.mem_cons, or_iff_right nofun, List.mem_append, List.mem_append, settings,
    settings, or_iff_left flags]

/-- The task of a conversion is what was asked. -/
lemma Parts.Holds.task {p : Parts} (h : p.Holds a.parts) :
    p.file = some a.file ∧ p.value? "scope" = a.scope ∧ p.has "strict" = a.strict ∧
      p.value? "output" = a.output := by
  refine ⟨(h.file a.file).mpr (.head _), ?_, ?_, ?_⟩
  · apply Option.ext
    intro v
    rw [Parts.value?, h.values, Asked.setting_mem_parts]
    simp
  · rw [Parts.has, Bool.eq_iff_iff, List.contains_iff_mem, h.flags, Asked.flag_mem_parts]
    exact and_iff_left rfl
  · apply Option.ext
    intro v
    rw [Parts.value?, h.values, Asked.setting_mem_parts]
    simp

end XsdInfer.Command
