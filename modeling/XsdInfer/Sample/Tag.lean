import XsdInfer.Text.Cut
import XsdInfer.Text.Location

/-!
# Tags of a sample

Samples are read leniently: a tag is any text between angle brackets, its name is whatever stands
before the first space, and its attributes are read one by one until one cannot be read. The fault
of such an attribute is kept in the tag behind the attributes before it, because what is wrong with
those comes first.
-/

namespace XsdInfer.Sample

/-- Why an attribute cannot be read. Positions are byte offsets in the tag. -/
inductive AttributeFault where
  /-- The name is not followed by an equals sign. -/
  | noEquals (position : Nat)
  /-- The tag ends before the value. -/
  | noValue (position : Nat)
  /-- The value is not quoted. -/
  | noQuote (position : Nat)
  /-- The value does not end before the tag. -/
  | unclosed (position : Nat) (quote : Char)
  /-- An earlier attribute has the same name. -/
  | repeated (position earlier : Nat)
deriving DecidableEq, Repr

def AttributeFault.message : AttributeFault → String
  | noEquals position =>
    s!"position {position}: attribute key must be directly followed by `=` or space"
  | noValue position =>
    s!"position {position}: `=` must be followed by an attribute value"
  | noQuote position =>
    s!"position {position}: attribute value must be enclosed in `\"` or `'`"
  | unclosed position quote =>
    s!"position {position}: missing closing quote `{quote}` in attribute value"
  | repeated position earlier =>
    s!"position {position}: duplicated attribute, previous declaration at position {earlier}"

/-- An attribute as it is written in a tag: its value may hold references. -/
structure RawAttribute where
  name : String
  raw : List Char
deriving DecidableEq, Repr

/-- A tag: its name, its attributes up to the first that cannot be read, and the fault of that. -/
structure Tag where
  name : String
  attributes : List RawAttribute := []
  fault : Option AttributeFault := none
deriving DecidableEq, Repr

namespace Tag

/-- The name of an attribute, the position of the name and the text behind the equals sign with its
position. A name is at least one character, which may be any but a space. -/
structure Key where
  name : List Char
  position : Nat
  rest : List Char
  restPosition : Nat

/-- Reads the name of the next attribute from a text that begins with it, at a given position. -/
def readKey (position : Nat) (first : Char) (s : List Char) : Except AttributeFault Key :=
  let more := s.takeWhile fun c => c != '=' && !Text.isSpace c
  let behind := s.dropWhile fun c => c != '=' && !Text.isSpace c
  let gap := behind.takeWhile Text.isSpace
  let equals := position + first.utf8Size + Text.width more + Text.width gap
  match behind.dropWhile Text.isSpace with
  | '=' :: rest => .ok ⟨first :: more, position, rest, equals + 1⟩
  | _ => .error (.noEquals equals)

/-- Reads a quoted value, with the text behind it and its position. -/
def readValue (position : Nat) (s : List Char) :
    Except AttributeFault (List Char × List Char × Nat) :=
  let start := position + Text.width (s.takeWhile Text.isSpace)
  match s.dropWhile Text.isSpace with
  | [] => .error (.noValue start)
  | quote :: s =>
    if quote = '"' ∨ quote = '\'' then
      match Text.cutAt quote s with
      | some (value, rest) => .ok (value, rest, start + 1 + Text.width value + 1)
      | none => .error (.unclosed (start + 1 + Text.width s) quote)
    else .error (.noQuote start)

/-- Refuses a name that an earlier attribute has. -/
def checkNew (seen : List (List Char × Nat)) (k : Key) : Except AttributeFault Unit :=
  match seen.lookup k.name with
  | some earlier => .error (.repeated k.position earlier)
  | none => .ok ()

/-- Reads one attribute: its name is checked against those seen before its value is read. -/
def readAttribute (seen : List (List Char × Nat)) (position : Nat) (first : Char)
    (s : List Char) : Except AttributeFault (Key × List Char × List Char × Nat) := do
  let key ← readKey position first s
  checkNew seen key
  let value ← readValue key.restPosition key.rest
  return (key, value)

/-- A key leaves less than there was. -/
theorem length_lt_of_readKey {position : Nat} {first : Char} {s : List Char} {k : Key}
    (h : readKey position first s = .ok k) : k.rest.length < s.length := by
  unfold readKey at h
  simp only at h
  split at h
  next rest eq =>
    cases h
    have outer := Text.length_dropWhile_le (fun c => c != '=' && !Text.isSpace c) s
    have inner := Text.length_dropWhile_le Text.isSpace
      (s.dropWhile fun c => c != '=' && !Text.isSpace c)
    rw [eq, List.length_cons] at inner
    simp only
    omega
  next => cases h

/-- A value leaves no more than there was. -/
theorem length_le_of_readValue {position : Nat} {s value rest : List Char} {after : Nat}
    (h : readValue position s = .ok (value, rest, after)) : rest.length ≤ s.length := by
  unfold readValue at h
  simp only at h
  have skipped := Text.length_dropWhile_le Text.isSpace s
  split at h
  next => cases h
  next quote t eq =>
    rw [eq, List.length_cons] at skipped
    split at h
    next =>
      split at h
      next cut =>
        cases h
        have := Text.length_lt_of_cutAt cut
        omega
      next => cases h
    next => cases h

/-- An attribute leaves less than there was. -/
theorem length_lt_of_readAttribute {seen : List (List Char × Nat)} {position : Nat} {first : Char}
    {s value rest : List Char} {k : Key} {after : Nat}
    (h : readAttribute seen position first s = .ok (k, value, rest, after)) :
    rest.length < s.length := by
  unfold readAttribute at h
  cases key : readKey position first s with
  | error f => simp [key, bind, Except.bind] at h
  | ok k' =>
    cases new : checkNew seen k' with
    | error f => simp [key, new, bind, Except.bind] at h
    | ok _ =>
      cases val : readValue k'.restPosition k'.rest with
      | error f => simp [key, new, val, bind, Except.bind] at h
      | ok v =>
        simp [key, new, val, bind, Except.bind, pure, Except.pure] at h
        obtain ⟨rfl, rfl⟩ := h
        have := length_lt_of_readKey key
        have := length_le_of_readValue val
        omega

/-- Reads attributes from a position in the tag on, behind those that are read already. -/
def readAttributes (read : List RawAttribute) (seen : List (List Char × Nat)) (position : Nat)
    (s : List Char) : List RawAttribute × Option AttributeFault :=
  match _skipped : s.dropWhile Text.isSpace with
  | [] => (read.reverse, none)
  | first :: t =>
    match _one : readAttribute seen (position + Text.width (s.takeWhile Text.isSpace)) first t with
    | .error fault => (read.reverse, some fault)
    | .ok (key, value, rest, after) =>
      readAttributes (⟨String.ofList key.name, value⟩ :: read) ((key.name, key.position) :: seen)
        after rest
termination_by s.length
decreasing_by
  have shorter := Text.length_dropWhile_le Text.isSpace s
  rw [_skipped, List.length_cons] at shorter
  have := length_lt_of_readAttribute _one
  omega

/-- The tag with a given name and the attributes that are read from what stands behind the name. -/
def ofParts (name body : List Char) : Tag :=
  let (attributes, fault) := readAttributes [] [] (Text.width name) body
  ⟨String.ofList name, attributes, fault⟩

end Tag

end XsdInfer.Sample
