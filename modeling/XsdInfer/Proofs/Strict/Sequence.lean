import Mathlib.Tactic.Lemma
import Mathlib.Tactic.SplitIfs
import XsdInfer.Strict.Reading

/-!
# What follows what in a document

Which token may be next depends on where the reader is, and so on how many elements are open (`Next`).
Main statement: the tokens of a document follow each other in this way from its start on
(`follows_read`), so there is one root, and nothing but asides around it.
-/

namespace XsdInfer.Strict

/-- Which token may be next where a reader is, and where the reader is behind it. -/
inductive Next : Mode → Token → Mode → Prop where
  | aside {mode : Mode} : Next mode .aside mode
  | text {depth : Nat} {data : Written} : Next (.content depth) (.text data) (.content depth)
  | root {name : QName} {place : Place} : Next .prolog (.tag name place) (.tag 0)
  | child {depth : Nat} {name : QName} {place : Place} :
      Next (.content depth) (.tag name place) (.tag depth)
  | attr {depth : Nat} {name : QName} {value : Written} {place : Place} :
      Next (.tag depth) (.attr name value place) (.tag depth)
  | opened {depth : Nat} : Next (.tag depth) .opened (.content (depth + 1))
  | empty {depth : Nat} : Next (.tag depth) .empty (.behindElement depth)
  | close {depth : Nat} {name : QName} {place : Place} :
      Next (.content depth) (.close name place) (.behindElement (depth - 1))

/-- Tokens that may follow each other from where a reader is. -/
inductive Follows : Mode → List Token → Prop where
  | nil {mode : Mode} : Follows mode []
  | cons {mode mode' : Mode} {token : Token} {tokens : List Token} (next : Next mode token mode')
      (rest : Follows mode' tokens) : Follows mode (token :: tokens)

namespace Scan

variable {α β : Type}

/-- Whatever a scanner gives has a property. -/
def Yields (m : Scan α) (P : α → Prop) : Prop :=
  ∀ ⦃c a c'⦄, m c = .ok (a, c') → P a

/-- A value with a property is given. -/
lemma yields_pure {a : α} {P : α → Prop} (h : P a) : Yields (pure a) P := by
  intro c a' c' taken
  cases taken
  exact h

/-- A fault gives nothing. -/
lemma yields_fail {e : Fault} {P : α → Prop} : Yields (fail e) P :=
  nofun

/-- Two scans in a row give what the second one does. -/
lemma yields_bind {m : Scan α} {f : α → Scan β} {P : β → Prop} (h : ∀ a, Yields (f a) P) :
    Yields (m >>= f) P := by
  intro c b c' taken
  simp only [Bind.bind] at taken
  split at taken
  next a c₁ first => exact h a taken
  next => cases taken

/-- A token behind blanks is given as it is by itself, with the mode. -/
lemma yields_padded {m : Scan Token} {mode : Mode} {P : Token × Mode → Prop}
    (h : Yields m fun token => P (token, mode)) : Yields (padded m mode) P := by
  refine yields_bind fun _ c p c' taken => ?_
  simp only [Bind.bind] at taken
  split at taken
  next token c₁ first =>
    cases taken
    exact h first
  next => cases taken

/-- A token is given as it is by itself, with the mode. -/
lemma yields_plain {m : Scan Token} {mode : Mode} {P : Token × Mode → Prop}
    (h : Yields m fun token => P (token, mode)) : Yields (plain m mode) P := by
  intro c p c' taken
  simp only [plain, Bind.bind] at taken
  split at taken
  next token c₁ first =>
    cases taken
    exact h first
  next => cases taken

variable {mode : Mode} {depth : Nat} {s : List Char} {m : Scan (Token × Mode)}

/-- Behind a comment comes what came before it. -/
lemma yields_comment : Yields comment fun token => Next mode token mode :=
  yields_bind fun _ => yields_bind fun _ => yields_bind fun _ => yields_bind fun _ =>
    yields_bind fun _ => yields_pure .aside

/-- Behind an instruction comes what came before it. -/
lemma yields_instruction : Yields instruction fun token => Next mode token mode :=
  yields_bind fun _ => yields_bind fun _ => yields_bind fun _ => yields_bind fun _ =>
    yields_bind fun _ => yields_bind fun _ => yields_bind fun _ => yields_pure .aside

/-- Behind a section of data comes what came before it. -/
lemma yields_cdata : Yields cdata fun token => Next mode token mode :=
  yields_bind fun _ => yields_bind fun _ => yields_bind fun _ => yields_pure .aside

/-- Behind data comes more of the content. -/
lemma yields_data : Yields data fun token => Next (.content depth) token (.content depth) :=
  yields_bind fun _ => yields_bind fun _ => yields_bind fun _ => yields_bind fun _ => yields_pure .text

/-- The start of a tag is given with its name and place. -/
lemma yields_tagStart {P : Token → Prop} (h : ∀ name place, P (.tag name place)) :
    Yields tagStart P :=
  yields_bind fun place => yields_bind fun _ => yields_bind fun name => yields_pure (h name place)

/-- Behind a closing tag comes what stands behind the element. -/
lemma yields_closeTag :
    Yields closeTag fun token => Next (.content depth) token (.behindElement (depth - 1)) :=
  yields_bind fun _ => yields_bind fun _ => yields_bind fun _ => yields_bind fun _ =>
    yields_bind fun _ => yields_pure .close

/-- Behind an attribute comes more of the tag. -/
lemma yields_attr : Yields attr fun token => Next (.tag depth) token (.tag depth) :=
  yields_bind fun _ => yields_bind fun _ => yields_bind fun _ => yields_bind fun _ =>
    yields_bind fun _ => yields_bind fun _ => yields_bind fun _ => yields_pure .attr

/-- Behind a part of a tag comes what may follow it. -/
lemma yields_tagPart : Yields (tagPart depth) fun p => Next (.tag depth) p.1 p.2 := by
  refine yields_bind fun _ => yields_bind fun _ => yields_bind fun _ => ?_
  split
  next => exact yields_bind fun _ => yields_bind fun _ => yields_pure .empty
  next => exact yields_bind fun _ => yields_pure .opened
  next => exact yields_bind fun _ => yields_plain yields_attr

/-- What is out of place gives nothing. -/
lemma yields_stray {P : Token × Mode → Prop} : Yields stray P :=
  yields_bind fun _ => yields_bind fun _ => yields_fail

/-- Before the root, each token is followed by what may follow it. -/
lemma yields_ofProlog (ahead : ofProlog s = some m) : Yields m fun p => Next .prolog p.1 p.2 := by
  simp only [ofProlog] at ahead
  split_ifs at ahead <;> cases ahead
  · exact yields_padded yields_comment
  · exact yields_padded yields_instruction
  · exact yields_fail
  · exact yields_padded (yields_tagStart fun _ _ => .root)
  · exact yields_stray

/-- In an element, each token is followed by what may follow it. -/
lemma yields_ofContent (ahead : ofContent depth s = some m) :
    Yields m fun p => Next (.content depth) p.1 p.2 := by
  simp only [ofContent] at ahead
  split_ifs at ahead <;> cases ahead
  · exact yields_plain yields_comment
  · exact yields_plain yields_cdata
  · exact yields_bind fun _ => yields_fail
  · exact yields_plain yields_instruction
  · exact yields_plain yields_closeTag
  · exact yields_plain (yields_tagStart fun _ _ => .child)
  · exact yields_plain yields_data

/-- Behind the root, each token is followed by what may follow it. -/
lemma yields_ofEpilog (ahead : ofEpilog s = some m) : Yields m fun p => Next .epilog p.1 p.2 := by
  simp only [ofEpilog] at ahead
  split_ifs at ahead <;> cases ahead
  · exact yields_padded yields_comment
  · exact yields_padded yields_instruction
  · exact yields_stray

/-- The scanner for what is ahead gives a token that may be next. -/
lemma yields_ofMode (ahead : ofMode mode s = some m) : Yields m fun p => Next mode p.1 p.2 := by
  cases mode with
  | prolog => exact yields_ofProlog ahead
  | tag depth =>
    simp only [ofMode] at ahead
    split_ifs at ahead
    cases ahead
    exact yields_tagPart
  | content depth => exact yields_ofContent ahead
  | epilog => exact yields_ofEpilog ahead

end Scan

/-- A reader goes on as the next token says. -/
lemma readFrom_eq (read : List Token) (mode : Mode) (c : Cursor) :
    readFrom read mode c =
      match Scan.ofMode mode c.rest with
      | none => ⟨read.reverse, none⟩
      | some m =>
        match m c with
        | .error fault => ⟨read.reverse, some fault⟩
        | .ok ((token, mode), next) => readFrom (token :: read) mode next := by
  rw [readFrom.eq_def]
  split
  next none => rw [none]
  next m ahead =>
    rw [ahead]
    split
    next failed => simp only [failed]
    next taken => simp only [taken]

/-- What a reader adds to what it has read follows on from where it is. -/
lemma follows_readFrom (read : List Token) (mode : Mode) (c : Cursor) :
    ∃ tokens, (readFrom read mode c).found = read.reverse ++ tokens ∧ Follows mode tokens := by
  induction read, mode, c using readFrom.induct with
  | case1 read mode c ahead =>
    simp only [readFrom_eq read, ahead]
    exact ⟨[], (List.append_nil _).symm, .nil⟩
  | case2 read mode c m ahead fault taken =>
    simp only [readFrom_eq read, ahead, taken]
    exact ⟨[], (List.append_nil _).symm, .nil⟩
  | case3 read mode c m ahead token mode' next taken ih =>
    simp only [readFrom_eq read, ahead, taken]
    obtain ⟨tokens, found, follows⟩ := ih
    refine ⟨token :: tokens, ?_, .cons (Scan.yields_ofMode ahead taken) follows⟩
    rw [found, List.reverse_cons, List.append_assoc, List.singleton_append]

/-- The tokens of a document follow each other. -/
theorem follows_read (s : List Char) : Follows .prolog (read s).found := by
  unfold read
  split
  next =>
    obtain ⟨tokens, found, follows⟩ := follows_readFrom [] .prolog _
    rw [found]
    exact follows
  next => exact .nil

end XsdInfer.Strict
