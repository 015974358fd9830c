import XsdInfer.Element
import XsdInfer.Sample.Opening

/-!
# Spellings

A tree is written in many ways: what a tag declares may stand in any order with any space, an element
without content is one tag or two, and asides and blanks stand between tags. A spelling is a document
with all these choices made. It has a text (`Spelling.text`) and it means a tree
(`Spelling.element`); what cannot be written is no spelling, since each part carries what its
characters may be.
-/

namespace XsdInfer.Sample

/-- A stretch of markup space. -/
structure Space where
  chars : List Char := []
  space : ∀ c ∈ chars, Text.isSpace c = true := by simp

/-- Markup that means nothing. -/
inductive Aside where
  | comment (body : List Char) (plain : '-' ∉ body ∧ '>' ∉ body)
  | instruction (body : List Char) (plain : '?' ∉ body ∧ '>' ∉ body) (some : body ≠ [])

/-- An aside as it is written. -/
def Aside.text : Aside → List Char
  | comment body _ => "<!--".toList ++ body ++ "-->".toList
  | instruction body _ _ => "<?".toList ++ body ++ "?>".toList

/-- What stands between two tags: runs of character data, which may be blank, with asides between
them. -/
structure Stretch where
  first : List Char := []
  more : List (Aside × List Char) := []

namespace Stretch

/-- A stretch as it is written. -/
def text (s : Stretch) : List Char :=
  Text.escape s.first ++ s.more.flatMap fun m => m.1.text ++ Text.escape m.2

/-- The runs of a stretch. -/
def runs (s : Stretch) : List (List Char) :=
  s.first :: s.more.map Prod.snd

end Stretch

/-- What one assignment in a tag says. -/
inductive Setting where
  /-- An attribute. -/
  | plain (name value : String)
  /-- The declaration of a prefix. -/
  | prefixed (pre uri : String)
  /-- The declaration of a namespace for names without a prefix. -/
  | unprefixed (uri : String)
deriving DecidableEq, Repr

namespace Setting

/-- The name that stands before the equals sign. -/
def name : Setting → String
  | plain name _ => name
  | prefixed pre _ => "xmlns:" ++ pre
  | unprefixed _ => "xmlns"

/-- The value that stands behind it. -/
def value : Setting → String
  | plain _ value => value
  | prefixed _ uri => uri
  | unprefixed uri => uri

/-- The attribute that is set. -/
def plain? : Setting → Option (String × String)
  | plain name value => some (name, value)
  | _ => none

/-- The prefix that is declared, with what it stands for. -/
def prefixed? : Setting → Option (String × String)
  | prefixed pre uri => some (pre, uri)
  | _ => none

/-- The namespace that is declared for names without a prefix. -/
def unprefixed? : Setting → Option String
  | unprefixed uri => some uri
  | _ => none

end Setting

/-- A setting as it is written, with space before it and around its equals sign. -/
structure Assignment where
  lead : Space
  setting : Setting
  before : Space := {}
  behind : Space := {}
  spaced : lead.chars ≠ []

/-- An assignment as it is written. -/
def Assignment.text (a : Assignment) : List Char :=
  a.lead.chars ++ a.setting.name.toList ++ a.before.chars ++ '=' :: a.behind.chars
    ++ '"' :: Text.escape a.setting.value.toList ++ ['"']

/-- What stands in a start tag or an empty tag: a name, assignments, and space behind them. -/
structure Head where
  name : String
  assignments : List Assignment := []
  trail : Space := {}
  nodup : (assignments.map (·.setting.name)).Nodup

namespace Head

/-- The settings of a tag. -/
def settings (h : Head) : List Setting :=
  h.assignments.map (·.setting)

/-- A tag as it is written, without its brackets. -/
def text (h : Head) : List Char :=
  h.name.toList ++ h.assignments.flatMap Assignment.text ++ h.trail.chars

/-- The element that a tag means, without content. -/
def element (h : Head) : Element where
  name := h.name
  attributes := ⟨h.settings.filterMap Setting.plain?⟩
  namespaces := ⟨⟨h.settings.filterMap Setting.prefixed?⟩, h.settings.findSome? Setting.unprefixed?⟩

end Head

mutual

/-- A written element: an empty tag, or a start tag, content, and an end tag with space behind its
name. -/
inductive Spelling where
  | lone (head : Head)
  | pair (head : Head) (content : Content) (trail : Space)

/-- Written content: a stretch before each child and one behind the last. -/
inductive Content where
  | last (s : Stretch)
  | child (s : Stretch) (e : Spelling) (more : Content)

end

mutual

/-- An element as it is written. -/
def Spelling.text : Spelling → List Char
  | .lone head => '<' :: head.text ++ "/>".toList
  | .pair head content trail =>
    '<' :: head.text ++ '>' :: content.text
      ++ "</".toList ++ head.name.toList ++ trail.chars ++ ['>']

/-- Content as it is written. -/
def Content.text : Content → List Char
  | .last s => s.text
  | .child s e more => s.text ++ e.text ++ more.text

end

/-- The runs of character data in some content. -/
def Content.runs : Content → List (List Char)
  | .last s => s.runs
  | .child s _ more => s.runs ++ more.runs

/-- The text that runs of character data make: those that are not blank, trimmed, with a space
between any two. -/
def textOfRuns (runs : List (List Char)) : Option String :=
  match (runs.map Text.trim).filter (!·.isEmpty) with
  | [] => none
  | run :: more => some (String.ofList ([' '].intercalate (run :: more)))

mutual

/-- The element that a spelling means. -/
def Spelling.element : Spelling → Element
  | .lone head => head.element
  | .pair head content _ =>
    { head.element with text := textOfRuns content.runs, children := content.children }

/-- The elements in some content. -/
def Content.children : Content → List Element
  | .last _ => []
  | .child _ e more => e.element :: more.children

end

/-- A written document: an element between two stretches of asides and blanks. -/
structure DocumentSpelling where
  before : Stretch := {}
  root : Spelling
  behind : Stretch := {}
  blank : ∀ run ∈ before.runs ++ behind.runs, ∀ c ∈ run, Text.isBlank c = true

/-- A document as it is written. -/
def DocumentSpelling.text (d : DocumentSpelling) : List Char :=
  d.before.text ++ d.root.text ++ d.behind.text

end XsdInfer.Sample
