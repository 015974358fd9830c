import XsdInfer.Strict.Scan

/-!
# Tokens of a document

A document that is read strictly is a sequence of tokens. The tokens of a tag are apart from each
other, because what is wrong with one of them is found before the next is read. Every scanner of a
token takes some of the text.
-/

namespace XsdInfer.Strict

/-- A name with its qualifier, which is empty if there is none. -/
structure QName where
  qualifier : String
  localPart : String
deriving DecidableEq, Repr

def QName.text (n : QName) : String :=
  if n.qualifier = "" then n.localPart else n.qualifier ++ ":" ++ n.localPart

/-- Character data or a value as it is written, with its place. -/
structure Written where
  chars : List Char
  place : Place
deriving DecidableEq, Repr

/-- A token of a document. -/
inductive Token where
  /-- The start of a tag, with its name. -/
  | tag (name : QName) (place : Place)
  | attr (name : QName) (value : Written) (place : Place)
  /-- The end of a tag that opens an element. -/
  | opened
  /-- The end of a tag that is an element by itself. -/
  | empty
  | close (name : QName) (place : Place)
  | text (data : Written)
  /-- A comment, an instruction or literal character data. -/
  | aside
deriving DecidableEq, Repr

/-- Where a reader is. In a tag and in content, `depth` elements are open. -/
inductive Mode where
  | prolog
  | tag (depth : Nat)
  | content (depth : Nat)
  | epilog
deriving DecidableEq, Repr

/-- Where a reader is behind the end of an element inside of `depth` others. -/
def Mode.behindElement : (depth : Nat) → Mode
  | 0 => epilog
  | depth + 1 => content (depth + 1)

namespace Scan

/-- Splits the characters of a name at its colon; a second colon is refused. -/
def splitName (s : List Char) : Option (List Char × List Char) :=
  match Text.cutAt ':' s with
  | none => some ([], s)
  | some (qualifier, rest) => if ':' ∈ rest then none else some (qualifier, rest)

/-- Whether both parts of a name start as they should; the qualifier may be empty. -/
def startsWell (qualifier rest : List Char) : Bool :=
  qualifier.head?.all isNameStart && rest.head?.any isNameStart

def qualified : Scan QName :=
  fun c =>
    let found := c.rest.takeWhile isNameChar
    match splitName found with
    | some (qualifier, rest) =>
      if startsWell qualifier rest then
        .ok (⟨String.ofList qualifier, String.ofList rest⟩, c.skip found.length)
      else .error (.badName c.place)
    | none => .error (.badName c.place)

/-- Takes a comment. It may not hold two hyphens nor end with a third. -/
def comment : Scan Token := do
  let start ← here
  literal "<!--"
  let body ← upTo fun s => "-->".toList.isPrefixOf s
  literal "-->"
  refuse (Text.occurs "--".toList body || body.getLast? == some '-') fun _ => .comment start
  return .aside

/-- Takes an instruction; the declaration of the document is not one. -/
def instruction : Scan Token := do
  let s ← ahead
  refuse ("<?xml ".toList.isPrefixOf s) .declaration
  literal "<?"
  let _ ← name
  spaces
  let _ ← upTo fun s => "?>".toList.isPrefixOf s
  literal "?>"
  return .aside

def cdata : Scan Token := do
  literal "<![CDATA["
  let _ ← upTo fun s => "]]>".toList.isPrefixOf s
  literal "]]>"
  return .aside

/-- Takes character data, at least one character, up to the next markup. -/
def data : Scan Token := do
  let start ← here
  let first ← anyChar
  let body := first :: (← upTo (·.head? == some '<'))
  refuse (Text.occurs "]]>".toList body) .sectionEnd
  return .text ⟨body, start⟩

def tagStart : Scan Token := do
  let start ← here
  char '<'
  return .tag (← qualified) start

def closeTag : Scan Token := do
  let start ← here
  literal "</"
  let n ← qualified
  spaces
  char '>'
  return .close n start

/-- Takes an attribute. Its value ends at its quote and holds no opening bracket. -/
def attr : Scan Token := do
  let start ← here
  let n ← qualified
  equals
  let q ← quote
  let place ← here
  let value ← upTo fun s => s.head? == some q || s.head? == some '<'
  char q
  return .attr n ⟨value, place⟩ start

/-- Takes what comes next in a tag. Attributes have space before them. -/
def tagPart (depth : Nat) : Scan (Token × Mode) := do
  let spaced := (← ahead).head?.any Text.isSpace
  spaces
  match ← peek with
  | '/' =>
    char '/'
    char '>'
    return (.empty, .behindElement depth)
  | '>' =>
    char '>'
    return (.opened, .content (depth + 1))
  | found =>
    refuse (!spaced) (.unexpectedKind "a whitespace" found)
    return (← attr, .tag depth)

/-- A qualified name takes at least one character. -/
theorem advances_qualified : Advances qualified := by
  intro c a c' h
  unfold qualified at h
  simp only at h
  split at h
  next q r cut =>
    split at h
    next well =>
      cases h
      cases found : c.rest.takeWhile isNameChar with
      | nil => simp [found, splitName, Text.cutAt] at cut; simp [cut, startsWell] at well
      | cons x more =>
        have := (List.takeWhile_sublist isNameChar (l := c.rest)).length_le
        simp only [found, List.length_cons] at this
        simp only [Cursor.skip, List.length_drop, List.length_cons]
        omega
    next => cases h
  next => cases h

/-- A comment takes at least its opening. -/
theorem advances_comment : Advances comment :=
  advances_bind_of_second forward_here fun _ =>
    advances_bind (advances_literal (by decide)) fun _ =>
      forward_bind (forward_upTo _) fun _ =>
        forward_bind (advances_literal (by decide)).forward fun _ =>
          forward_bind (forward_refuse _ _) fun _ => forward_pure _

/-- An instruction takes at least its opening. -/
theorem advances_instruction : Advances instruction :=
  advances_bind_of_second forward_ahead fun _ =>
    advances_bind_of_second (forward_refuse _ _) fun _ =>
      advances_bind (advances_literal (by decide)) fun _ =>
        forward_bind advances_name.forward fun _ =>
          forward_bind forward_spaces fun _ =>
            forward_bind (forward_upTo _) fun _ =>
              forward_bind (advances_literal (by decide)).forward fun _ => forward_pure _

/-- A section of character data takes at least its opening. -/
theorem advances_cdata : Advances cdata :=
  advances_bind (advances_literal (by decide)) fun _ =>
    forward_bind (forward_upTo _) fun _ =>
      forward_bind (advances_literal (by decide)).forward fun _ => forward_pure _

/-- A run of character data takes at least one character. -/
theorem advances_data : Advances data :=
  advances_bind_of_second forward_here fun _ =>
    advances_bind advances_anyChar fun _ =>
      forward_bind (forward_upTo _) fun _ =>
        forward_bind (forward_refuse _ _) fun _ => forward_pure _

/-- The start of a tag takes at least its mark. -/
theorem advances_tagStart : Advances tagStart :=
  advances_bind_of_second forward_here fun _ =>
    advances_bind (advances_char _) fun _ =>
      forward_bind advances_qualified.forward fun _ => forward_pure _

/-- A closing tag takes at least its mark. -/
theorem advances_closeTag : Advances closeTag :=
  advances_bind_of_second forward_here fun _ =>
    advances_bind (advances_literal (by decide)) fun _ =>
      forward_bind advances_qualified.forward fun _ =>
        forward_bind forward_spaces fun _ =>
          forward_bind (advances_char _).forward fun _ => forward_pure _

/-- An attribute takes at least its name. -/
theorem advances_attr : Advances attr :=
  advances_bind_of_second forward_here fun _ =>
    advances_bind advances_qualified fun _ =>
      forward_bind forward_equals fun _ =>
        forward_bind advances_quote.forward fun _ =>
          forward_bind forward_here fun _ =>
            forward_bind (forward_upTo _) fun _ =>
              forward_bind (advances_char _).forward fun _ => forward_pure _

/-- A part of a tag takes at least one character. -/
theorem advances_tagPart (depth : Nat) : Advances (tagPart depth) := by
  refine advances_bind_of_second forward_ahead fun _ =>
    advances_bind_of_second forward_spaces fun _ =>
      advances_bind_of_second forward_peek fun _ => ?_
  split
  next =>
    exact advances_bind (advances_char _) fun _ =>
      forward_bind (advances_char _).forward fun _ => forward_pure _
  next => exact advances_bind (advances_char _) fun _ => forward_pure _
  next =>
    exact advances_bind_of_second (forward_refuse _ _) fun _ =>
      advances_bind advances_attr fun _ => forward_pure _

end Scan

end XsdInfer.Strict
