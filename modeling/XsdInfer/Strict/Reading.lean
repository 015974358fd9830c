import XsdInfer.Strict.Declaration

/-!
# Reading a document

What may come next in a document depends on where the reader is: before the root, in a tag, in
content, or behind the root. Reading ends because each token takes up some of the text
(`Scan.advances_ofMode`). The fault that stops the reading early is kept behind the tokens before
it, so that what is wrong with those is found first.
-/

namespace XsdInfer.Strict

namespace Scan

/-- Takes space and then a token, behind which the reader is in a given mode. -/
def padded (m : Scan Token) (mode : Mode) : Scan (Token × Mode) := do
  spaces
  return (← m, mode)

/-- Takes a token, behind which the reader is in a given mode. -/
def plain (m : Scan Token) (mode : Mode) : Scan (Token × Mode) := do
  return (← m, mode)

/-- Finds that no token starts behind the space ahead. -/
def stray : Scan (Token × Mode) := do
  spaces
  fail (.unknownToken (← here))

/-- A token behind blanks takes something, if the token itself does. -/
theorem advances_padded {m : Scan Token} {mode : Mode} (h : Advances m) :
    Advances (padded m mode) :=
  advances_bind_of_second forward_spaces fun _ => advances_bind h fun _ => forward_pure _

/-- A token takes something, whatever the mode behind it. -/
theorem advances_plain {m : Scan Token} {mode : Mode} (h : Advances m) : Advances (plain m mode) :=
  advances_bind h fun _ => forward_pure _

/-- What is out of place takes something before it is refused. -/
theorem advances_stray : Advances stray :=
  advances_bind_of_second forward_spaces fun _ =>
    advances_bind_of_second forward_here fun _ => advances_fail _

end Scan

/-- The scanner for what is ahead before the root; none at the end of the text. -/
def Scan.ofProlog (s : List Char) : Option (Scan (Token × Mode)) :=
  let t := s.dropWhile Text.isSpace
  if begins "<!--" t then some (padded comment .prolog)
  else if begins "<?" t then some (padded instruction .prolog)
  else if begins "<!DOCTYPE" t then some (fail .doctype)
  else if begins "<" t then some (padded tagStart (.tag 0))
  else if t.isEmpty then none
  else some stray

/-- The scanner for what is ahead in the content of `depth` elements. -/
def Scan.ofContent (depth : Nat) (s : List Char) : Option (Scan (Token × Mode)) :=
  if s.isEmpty then none
  else if begins "<!--" s then some (plain comment (.content depth))
  else if begins "<![CDATA[" s then some (plain cdata (.content depth))
  else if begins "<!" s || s == ['<'] then some (do fail (.unknownToken (← here)))
  else if begins "<?" s then some (plain instruction (.content depth))
  else if begins "</" s then some (plain closeTag (.behindElement (depth - 1)))
  else if begins "<" s then some (plain tagStart (.tag depth))
  else some (plain data (.content depth))

/-- The scanner for what is ahead behind the root. -/
def Scan.ofEpilog (s : List Char) : Option (Scan (Token × Mode)) :=
  let t := s.dropWhile Text.isSpace
  if begins "<!--" t then some (padded comment .epilog)
  else if begins "<?" t then some (padded instruction .epilog)
  else if t.isEmpty then none
  else some stray

/-- The scanner for what is ahead; none at the end of the text. -/
def Scan.ofMode (mode : Mode) (s : List Char) : Option (Scan (Token × Mode)) :=
  match mode with
  | .prolog => ofProlog s
  | .tag depth => if s.isEmpty then none else some (tagPart depth)
  | .content depth => ofContent depth s
  | .epilog => ofEpilog s

namespace Scan

/-- Whatever may stand before the root takes something. -/
theorem advances_ofProlog {s : List Char} {m : Scan (Token × Mode)} (h : ofProlog s = some m) :
    Advances m := by
  unfold ofProlog at h
  simp only at h
  split at h
  next => cases h; exact advances_padded advances_comment
  next =>
    split at h
    next => cases h; exact advances_padded advances_instruction
    next =>
      split at h
      next => cases h; exact advances_fail _
      next =>
        split at h
        next => cases h; exact advances_padded advances_tagStart
        next =>
          split at h
          next => cases h
          next => cases h; exact advances_stray

/-- Whatever may stand in an element takes something. -/
theorem advances_ofContent {depth : Nat} {s : List Char} {m : Scan (Token × Mode)}
    (h : ofContent depth s = some m) : Advances m := by
  unfold ofContent at h
  split at h
  next => cases h
  next =>
    split at h
    next => cases h; exact advances_plain advances_comment
    next =>
      split at h
      next => cases h; exact advances_plain advances_cdata
      next =>
        split at h
        next => cases h; exact advances_bind_of_second forward_here fun _ => advances_fail _
        next =>
          split at h
          next => cases h; exact advances_plain advances_instruction
          next =>
            split at h
            next => cases h; exact advances_plain advances_closeTag
            next =>
              split at h
              next => cases h; exact advances_plain advances_tagStart
              next => cases h; exact advances_plain advances_data

/-- Whatever may stand behind the root takes something. -/
theorem advances_ofEpilog {s : List Char} {m : Scan (Token × Mode)} (h : ofEpilog s = some m) :
    Advances m := by
  unfold ofEpilog at h
  simp only at h
  split at h
  next => cases h; exact advances_padded advances_comment
  next =>
    split at h
    next => cases h; exact advances_padded advances_instruction
    next =>
      split at h
      next => cases h
      next => cases h; exact advances_stray

/-- Each token takes up some of the text. -/
theorem advances_ofMode {mode : Mode} {s : List Char} {m : Scan (Token × Mode)}
    (h : ofMode mode s = some m) : Advances m := by
  unfold ofMode at h
  split at h
  next => exact advances_ofProlog h
  next depth =>
    split at h
    next => cases h
    next => cases h; exact advances_tagPart depth
  next => exact advances_ofContent h
  next => exact advances_ofEpilog h

end Scan

/-- The tokens of a document, and the fault that stopped the reading before its end. -/
structure Tokens where
  found : List Token
  fault : Option Fault
deriving DecidableEq, Repr

/-- Reads on to the end. What is read already is `read`, the last token first. -/
def readFrom (read : List Token) (mode : Mode) (c : Cursor) : Tokens :=
  match _ahead : Scan.ofMode mode c.rest with
  | none => ⟨read.reverse, none⟩
  | some m =>
    match _taken : m c with
    | .error fault => ⟨read.reverse, some fault⟩
    | .ok ((token, mode), next) => readFrom (token :: read) mode next
termination_by c.rest.length
decreasing_by exact Scan.advances_ofMode _ahead _taken

/-- The tokens of a text, behind its declaration. -/
def read (s : List Char) : Tokens :=
  match Scan.start ⟨s, {}⟩ with
  | .ok (_, c) => readFrom [] .prolog c
  | .error fault => ⟨[], some fault⟩

end XsdInfer.Strict
