import XsdInfer.Sample.Tag
import XsdInfer.Text.Quoted

/-!
# Events of a sample

A sample is read as a sequence of events: tags, runs of character data, and asides that carry no
structure (declarations, comments, instructions and document types). Markup is recognised by its
first characters and its end alone. The reader does match end tags with start tags by name; whether
tags are well nested beyond that is for the tree that is built from the events.

Each event has a position, a byte offset that tells where it ends: for text, the offset of the
bracket behind it.
-/

namespace XsdInfer.Sample

/-- A kind of markup that ends with a mark of its own. -/
inductive Markup where
  | element
  | comment
  | cdata
  | doctype
  | instruction
  /-- Markup of which only the exclamation mark is there. -/
  | bang
deriving DecidableEq, Repr

/-- The name of a kind of markup in messages. -/
def Markup.name : Markup → String
  | element => "Element"
  | comment => "Comment"
  | cdata => "CData"
  | doctype => "DOCTYPE"
  | instruction => "XmlDecl"
  | bang => "Bang"

/-- Why a sample cannot be read on. -/
inductive Fault where
  /-- Markup does not end, or not as it should. -/
  | unfinished (markup : Markup)
  /-- An exclamation mark is followed by a character that starts no markup. -/
  | unknownBang (c : Char)
  /-- An end tag does not have the name of the last open start tag. -/
  | mismatched (expected found : String)
  /-- A document type says nothing. -/
  | emptyDoctype
deriving DecidableEq, Repr

def Fault.message : Fault → String
  | unfinished markup => "Unexpected EOF during reading " ++ markup.name
  | unknownBang c =>
    "Only Comment (`--`), CDATA (`[CDATA[`) and DOCTYPE (`DOCTYPE`) nodes can start with a '!', "
      ++ s!"but symbol `{c}` found"
  | mismatched expected found => s!"Expecting </{expected}> found </{found}>"
  | emptyDoctype => "DOCTYPE declaration must not be empty"

/-- An event of a sample. -/
inductive Event where
  | start (tag : Tag)
  | empty (tag : Tag)
  | stop
  /-- Character data with references in it. -/
  | text (raw : List Char)
  /-- Character data that is meant as it stands. -/
  | cdata (data : List Char)
  | aside
deriving DecidableEq, Repr

/-- Where a reader stands: the text ahead, its byte offset, and the names of the open start tags
from the last on. -/
structure Cursor where
  rest : List Char
  offset : Nat
  opened : List (List Char) := []
deriving DecidableEq, Repr

/-- An event with its position, and where the reader stands behind it. -/
structure Step where
  event : Event
  position : Nat
  next : Cursor

namespace Event

/-- The text of an element tag and what follows it. The bracket that ends a tag is the first one
outside of quotes; `quote` tells in which quotes the text begins, and `read` is what stands before
it, the last character first. -/
def cutTag (quote : Option Char) (read : List Char) : List Char → Option (List Char × List Char)
  | [] => none
  | c :: s =>
    match quote with
    | some q => cutTag (if c = q then none else some q) (c :: read) s
    | none =>
      if c = '>' then some (read.reverse, s)
      else cutTag (if c = '"' ∨ c = '\'' then some c else none) (c :: read) s

/-- The text of other markup and what follows it: markup ends before the first bracket behind a text
that is complete. Texts are given with the last character first. -/
def cutMarkup (complete : List Char → Bool) (read : List Char) :
    List Char → Option (List Char × List Char)
  | [] => none
  | c :: s =>
    if c = '>' ∧ complete read then some (read.reverse, s) else cutMarkup complete (c :: read) s

/-- Whether a comment is complete: it ends with two hyphens that are not those at its start. -/
def completeComment : List Char → Bool
  | '-' :: '-' :: _ :: _ :: _ :: _ => true
  | _ => false

/-- Whether literal character data is complete: it ends with two square brackets. -/
def completeCData : List Char → Bool
  | ']' :: ']' :: _ => true
  | _ => false

/-- Whether a document type is complete: as many brackets are closed in it as opened. -/
def completeDoctype (s : List Char) : Bool :=
  s.count '<' == s.count '>'

/-- A tag that has been cut off leaves less than there was. -/
theorem length_lt_of_cutTag {quote : Option Char} {read s a b : List Char}
    (h : cutTag quote read s = some (a, b)) : b.length < s.length := by
  fun_induction cutTag quote read s with
  | case1 => cases h
  | case2 _ _ c s ih => exact Nat.lt_succ_of_lt (ih h)
  | case3 => cases h; simp
  | case4 _ _ c s ih => exact Nat.lt_succ_of_lt (ih h)

/-- Markup that has been cut off leaves less than there was. -/
theorem length_lt_of_cutMarkup {complete : List Char → Bool} {read s a b : List Char}
    (h : cutMarkup complete read s = some (a, b)) : b.length < s.length := by
  fun_induction cutMarkup complete read s with
  | case1 => cases h
  | case2 => cases h; simp
  | case3 _ c s _ ih => exact Nat.lt_succ_of_lt (ih h)

/-- An element tag whose text is given: a slash at its end makes it an empty element. -/
def ofTag (c : Cursor) (content rest : List Char) : Step :=
  let stop := c.offset + Text.width content + 1
  let name := content.takeWhile (!Text.isSpace ·)
  match content.reverse with
  | '/' :: before =>
    let content := before.reverse
    let name := content.takeWhile (!Text.isSpace ·)
    ⟨.empty (.ofParts name (content.drop name.length)), stop, ⟨rest, stop, c.opened⟩⟩
  | _ =>
    ⟨.start (.ofParts name (content.drop name.length)), stop, ⟨rest, stop, name :: c.opened⟩⟩

/-- The name in an end tag: its text without the space behind it, or just that space. -/
def endName (content : List Char) : List Char :=
  match Text.dropTrailing Text.isSpace content with
  | [] => content
  | name => name

/-- An end tag, from behind its slash on. It has to name the last open start tag; the end of the
text ends it too. -/
def ofEndTag (c : Cursor) (s : List Char) : Except (Fault × Nat) Step :=
  let (content, rest) := Text.upTo '>' s
  let stop := c.offset + 1 + Text.width content + (if '>' ∈ s then 1 else 0)
  let fault (expected found : List Char) : Except (Fault × Nat) Step :=
    .error (.mismatched (String.ofList expected) (String.ofList found),
      stop - (1 + Text.width content))
  match c.opened with
  | [] => fault [] content
  | expected :: opened =>
    if endName content = expected then .ok ⟨.stop, stop, ⟨rest, stop, opened⟩⟩
    else fault expected (endName content)

/-- A declaration or an instruction, from its question mark on. -/
def ofInstruction (c : Cursor) (s : List Char) : Except (Fault × Nat) Step :=
  let (content, rest) := Text.upTo '>' s
  let stop := c.offset + Text.width content + (if '>' ∈ s then 1 else 0)
  if 2 < Text.width content ∧ content.getLast? = some '?' then
    .ok ⟨.aside, stop, ⟨rest, stop, c.opened⟩⟩
  else .error (.unfinished .instruction, stop - Text.width content)

/-- What complete markup with an exclamation mark says, if it begins as its kind should. -/
def ofBangText (markup : Markup) (content : List Char) : Except Fault Event :=
  match markup with
  | .comment =>
    if "!--".toList.isPrefixOf content then .ok .aside else .error (.unfinished markup)
  | .cdata =>
    if Text.startsFolded "![CDATA[".toList content then
      .ok (.cdata ((content.drop 8).take (content.length - 10)))
    else .error (.unfinished markup)
  | .doctype =>
    if Text.startsFolded "!DOCTYPE".toList content then
      if (content.drop 8).all Text.isSpace then .error .emptyDoctype else .ok .aside
    else .error (.unfinished markup)
  | _ => .error (.unfinished markup)

/-- Markup with an exclamation mark of a given kind, from that mark on. -/
def ofBangKind (c : Cursor) (markup : Markup) (complete : List Char → Bool) (s : List Char) :
    Except (Fault × Nat) Step :=
  match cutMarkup complete [] s with
  | none => .error (.unfinished markup, c.offset)
  | some (content, rest) =>
    let stop := c.offset + Text.width content + 1
    match ofBangText markup content with
    | .ok event => .ok ⟨event, stop, ⟨rest, stop, c.opened⟩⟩
    | .error fault => .error (fault, stop)

/-- Markup with an exclamation mark, from that mark on; its kind is told by the character behind the
mark. -/
def ofBang (c : Cursor) (s : List Char) : Except (Fault × Nat) Step :=
  match s.drop 1 with
  | [] => .error (.unfinished .bang, c.offset)
  | '[' :: _ => ofBangKind c .cdata completeCData s
  | '-' :: _ => ofBangKind c .comment completeComment s
  | 'D' :: _ => ofBangKind c .doctype completeDoctype s
  | 'd' :: _ => ofBangKind c .doctype completeDoctype s
  | k :: _ => .error (.unknownBang (Text.leadByte k), c.offset)

/-- Markup, from behind its opening bracket on. The cursor gives the offset of that place. -/
def ofMarkup (c : Cursor) (s : List Char) : Except (Fault × Nat) (Option Step) :=
  match s with
  | [] => .ok none
  | '!' :: t => (ofBang c ('!' :: t)).map some
  | '/' :: t => (ofEndTag c t).map some
  | '?' :: t => (ofInstruction c ('?' :: t)).map some
  | _ =>
    match cutTag none [] s with
    | none => .error (.unfinished .element, c.offset)
    | some (content, rest) => .ok (some (ofTag c content rest))

/-- Character data, which goes on up to the next bracket or the end. -/
def ofText (c : Cursor) (s : List Char) : Step :=
  let raw := s.takeWhile (· != '<')
  let rest := s.dropWhile (· != '<')
  let stop := c.offset + Text.width raw
  ⟨.text (Text.dropTrailing Text.isSpace raw), if rest.isEmpty then stop - 1 else stop,
    ⟨rest, stop, c.opened⟩⟩

/-- The next event, if there is one. Space before it is skipped; a bracket at the very end of the
text is no event. -/
def next (c : Cursor) : Except (Fault × Nat) (Option Step) :=
  let offset := c.offset + Text.width (c.rest.takeWhile Text.isSpace)
  match c.rest.dropWhile Text.isSpace with
  | [] => .ok none
  | '<' :: s => ofMarkup { c with offset := offset + 1 } s
  | s => .ok (some (ofText { c with offset } s))

end Event

end XsdInfer.Sample
