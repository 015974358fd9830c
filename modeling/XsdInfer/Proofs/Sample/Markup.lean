import XsdInfer.Proofs.Text.Cut
import XsdInfer.Sample.Reading

/-!
# Markup of a sample

What a piece of markup says is given as a relation (`Event.Marks`) with one case for each kind: where it
ends, which event it is, and how the open tags change. Offsets have no part in it. Main statement:
a reader comes over markup just as the relation says (`exists_ofMarkup_iff`). Markup ends at the first
bracket behind a complete text (`Text.Cut`); a tag is complete where its quotes are closed.
-/

namespace XsdInfer.Sample

namespace Tag

/-- The name of a tag with a given text. -/
def nameOf (content : List Char) : List Char :=
  content.takeWhile (!Text.isSpace ·)

/-- The tag with a given text. -/
def ofContent (content : List Char) : Tag :=
  .ofParts (nameOf content) (content.drop (nameOf content).length)

end Tag

namespace Event

/-- The quotes in which a text begins are `quote`; those behind its first character. -/
def quoteBehind (quote : Option Char) (c : Char) : Option Char :=
  match quote with
  | some q => if c = q then none else some q
  | none => if c = '"' ∨ c = '\'' then some c else none

/-- A text whose quotes are closed at its end, if it begins in some quotes. -/
def Closed (quote : Option Char) (s : List Char) : Prop :=
  s.foldl quoteBehind quote = none

/-- A tag is cut off at the first bracket outside of quotes. -/
lemma cutTag_eq_some_iff {quote : Option Char} {read s content rest : List Char} :
    cutTag quote read s = some (content, rest) ↔
      ∃ t, content = read.reverse ++ t ∧ Text.Cut '>' (Closed quote) s t rest := by
  induction s generalizing quote read with
  | nil => exact iff_of_false (by simp [cutTag]) fun ⟨_, _, cut⟩ => cut.not_nil
  | cons c s ih =>
    have step (more : ¬ (c = '>' ∧ Closed quote [])) :
        cutTag (quoteBehind quote c) (c :: read) s = some (content, rest) ↔
          ∃ t, content = read.reverse ++ t ∧ Text.Cut '>' (Closed quote) (c :: s) t rest := by
      rw [ih]
      constructor
      · rintro ⟨t, rfl, cut⟩
        exact ⟨c :: t, by simp, (Text.Cut.cons_of_neg more).mpr ⟨t, rfl, cut⟩⟩
      · rintro ⟨_, rfl, cut⟩
        obtain ⟨t, rfl, inner⟩ := (Text.Cut.cons_of_neg more).mp cut
        exact ⟨t, by simp, inner⟩
    cases quote with
    | some q =>
      rw [cutTag]
      exact step fun both => by simpa [Closed] using both.2
    | none =>
      rw [cutTag]
      split
      next bracket =>
        have here : c = '>' ∧ Closed none [] := ⟨bracket, rfl⟩
        simp only [Text.Cut.cons_of_pos here, Option.some.injEq, Prod.mk.injEq]
        constructor
        · rintro ⟨rfl, rfl⟩
          exact ⟨[], by simp, rfl, rfl⟩
        · rintro ⟨_, rfl, rfl, rfl⟩
          simp
      next other => exact step fun both => other both.1

/-- A text that is complete behind what is read before it, the last character first. -/
def Complete (complete : List Char → Bool) (read t : List Char) : Prop :=
  complete (t.reverse ++ read) = true

/-- What is completed behind one more character has it before what is left. -/
lemma complete_cons (complete : List Char → Bool) (c : Char) (read : List Char) :
    (fun t => Complete complete read (c :: t)) = Complete complete (c :: read) := by
  funext t
  rw [Complete, Complete, List.reverse_cons, List.append_assoc, List.singleton_append]

/-- Markup is cut off at the first bracket that completes it. -/
lemma cutMarkup_eq_some_iff {complete : List Char → Bool} {read s content rest : List Char} :
    cutMarkup complete read s = some (content, rest) ↔
      ∃ t, content = read.reverse ++ t ∧ Text.Cut '>' (Complete complete read) s t rest := by
  -- What has been read grows, since it has a say in whether a bracket completes the markup.
  induction s generalizing read with
  | nil => exact iff_of_false nofun fun ⟨_, _, cut⟩ => cut.not_nil
  | cons c s ih =>
    rw [cutMarkup]
    split
    next here =>
      have here : c = '>' ∧ Complete complete read [] := here
      simp only [Text.Cut.cons_of_pos here, Option.some.injEq, Prod.mk.injEq]
      constructor
      · rintro ⟨rfl, rfl⟩
        exact ⟨[], by simp, rfl, rfl⟩
      · rintro ⟨_, rfl, rfl, rfl⟩
        simp
    next more =>
      have more : ¬ (c = '>' ∧ Complete complete read []) := more
      rw [ih, ← complete_cons]
      constructor
      · rintro ⟨t, rfl, cut⟩
        exact ⟨c :: t, by simp, (Text.Cut.cons_of_neg more).mpr ⟨t, rfl, cut⟩⟩
      · rintro ⟨_, rfl, cut⟩
        obtain ⟨t, rfl, inner⟩ := (Text.Cut.cons_of_neg more).mp cut
        exact ⟨t, by simp, inner⟩

/-- The kind of markup that is told by what stands behind an exclamation mark, with the test for its
end. -/
def bangKind? : List Char → Option (Markup × (List Char → Bool))
  | '[' :: _ => some (.cdata, completeCData)
  | '-' :: _ => some (.comment, completeComment)
  | 'D' :: _ => some (.doctype, completeDoctype)
  | 'd' :: _ => some (.doctype, completeDoctype)
  | _ => none

/-- What markup says from behind its opening bracket on: inside of some tags a reader comes over it to
an event and a rest. -/
inductive Marks : List (List Char) → List Char → Event → List (List Char) → List Char → Prop where
  | bang {opened : List (List Char)} {s content rest : List Char} {markup : Markup}
      {complete : List Char → Bool} {event : Event} :
    bangKind? s = some (markup, complete) →
    Text.Cut '>' (Complete complete []) ('!' :: s) content rest →
    ofBangText markup content = .ok event →
    Marks opened ('!' :: s) event opened rest
  | stop {opened : List (List Char)} {name s : List Char} :
    endName (Text.upTo '>' s).1 = name →
    Marks (name :: opened) ('/' :: s) .stop opened (Text.upTo '>' s).2
  | instruction {opened : List (List Char)} {s : List Char} :
    2 < Text.width (Text.upTo '>' ('?' :: s)).1 →
    (Text.upTo '>' ('?' :: s)).1.getLast? = some '?' →
    Marks opened ('?' :: s) .aside opened (Text.upTo '>' ('?' :: s)).2
  | empty {opened : List (List Char)} {s content rest : List Char} :
    (∀ c ∈ s.head?, c ∉ ['!', '/', '?']) →
    Text.Cut '>' (Closed none) s (content ++ ['/']) rest →
    Marks opened s (.empty (.ofContent content)) opened rest
  | start {opened : List (List Char)} {s content rest : List Char} :
    (∀ c ∈ s.head?, c ∉ ['!', '/', '?']) →
    Text.Cut '>' (Closed none) s content rest →
    content.getLast? ≠ some '/' →
    Marks opened s (.start (.ofContent content)) (Tag.nameOf content :: opened) rest

variable {opened opened' : List (List Char)} {s rest : List Char} {event : Event} {c : Cursor}

/-- Literal character data is complete behind two square brackets. -/
lemma completeCData_iff : Complete completeCData [] s ↔ ∃ u, s = u ++ [']', ']'] := by
  rw [Complete, List.append_nil]
  constructor
  · intro h
    unfold completeCData at h
    split at h
    next u ends => exact ⟨u.reverse, by rw [← List.reverse_reverse s, ends]; simp⟩
    next => cases h
  · rintro ⟨u, rfl⟩
    simp [completeCData]

/-- A comment is complete behind two hyphens with at least three characters before them. -/
lemma completeComment_iff : Complete completeComment [] s ↔ ∃ u, s = u ++ ['-', '-'] ∧ 3 ≤ u.length := by
  rw [Complete, List.append_nil]
  constructor
  · intro h
    unfold completeComment at h
    split at h
    next x y z u ends =>
      refine ⟨(x :: y :: z :: u).reverse, by rw [← List.reverse_reverse s, ends]; simp, ?_⟩
      simp
    next => cases h
  · rintro ⟨u, rfl, long⟩
    rw [List.reverse_append]
    rw [← List.length_reverse] at long
    match u.reverse, long with
    | _ :: _ :: _ :: _, _ => rfl

/-- A tag is empty if it ends with a slash, and a start tag otherwise. -/
lemma ofTag_cases (c : Cursor) (content rest : List Char) :
    (∃ t, content = t ++ ['/'] ∧ ∃ stop,
        ofTag c content rest = ⟨.empty (.ofContent t), stop, ⟨rest, stop, c.opened⟩⟩) ∨
      content.getLast? ≠ some '/' ∧ ∃ stop,
        ofTag c content rest =
          ⟨.start (.ofContent content), stop, ⟨rest, stop, Tag.nameOf content :: c.opened⟩⟩ := by
  unfold ofTag
  split
  next before slash =>
    refine .inl ⟨before.reverse, ?_, _, rfl⟩
    rw [← List.reverse_inj, slash, List.reverse_append, List.reverse_reverse]
    rfl
  next other =>
    refine .inr ⟨fun last => ?_, _, rfl⟩
    obtain ⟨t, rfl⟩ := List.getLast?_eq_some_iff.mp last
    exact other t.reverse (by simp)

/-- Markup behind an exclamation mark is read by its kind. -/
lemma ofBang_eq_ok_iff {step : Step} : ofBang c ('!' :: s) = .ok step ↔
    ∃ markup complete, bangKind? s = some (markup, complete) ∧
      ofBangKind c markup complete ('!' :: s) = .ok step := by
  unfold ofBang
  rw [List.drop_one, List.tail_cons]
  split
  next => exact iff_of_false nofun nofun
  next => simp [bangKind?, and_assoc]
  next => simp [bangKind?, and_assoc]
  next => simp [bangKind?, and_assoc]
  next => simp [bangKind?, and_assoc]
  next k t square hyphen upper lower =>
    have none : bangKind? (k :: t) = none := by
      unfold bangKind?
      split
      next same => exact (square (List.cons.inj same).1).elim
      next same => exact (hyphen (List.cons.inj same).1).elim
      next same => exact (upper (List.cons.inj same).1).elim
      next same => exact (lower (List.cons.inj same).1).elim
      next => rfl
    rw [none]
    exact iff_of_false nofun nofun

/-- Markup with an exclamation mark is an aside, or says the character data in it. -/
lemma cases_of_ofBangText {markup : Markup} {content : List Char}
    (h : ofBangText markup content = .ok event) :
    (markup = .comment ∧ event = .aside ∧ "!--".toList.isPrefixOf content = true) ∨
      (markup = .cdata ∧ event = .cdata ((content.drop 8).take (content.length - 10)) ∧
        Text.startsFolded "![CDATA[".toList content = true) ∨
      (markup = .doctype ∧ event = .aside ∧ Text.startsFolded "!DOCTYPE".toList content = true ∧
        (content.drop 8).all Text.isSpace = false) := by
  unfold ofBangText at h
  split at h
  next =>
    split at h
    next begins => cases h; exact .inl ⟨rfl, rfl, begins⟩
    next => cases h
  next =>
    split at h
    next begins => cases h; exact .inr (.inl ⟨rfl, rfl, begins⟩)
    next => cases h
  next =>
    split at h
    next begins =>
      split at h
      next => cases h
      next visible =>
        cases h
        exact .inr (.inr ⟨rfl, rfl, begins, Bool.eq_false_iff.mpr visible⟩)
    next => cases h
  next => cases h

/-- Markup of one kind is read if it can be cut off and has something to say. -/
lemma exists_ofBangKind_iff {markup : Markup} {complete : List Char → Bool} :
    (∃ position offset, ofBangKind c markup complete s = .ok ⟨event, position, ⟨rest, offset, opened⟩⟩) ↔
      ∃ content, Text.Cut '>' (Complete complete []) s content rest ∧
        ofBangText markup content = .ok event ∧ opened = c.opened := by
  have cut_iff (content rest : List Char) : cutMarkup complete [] s = some (content, rest) ↔
      Text.Cut '>' (Complete complete []) s content rest := by
    rw [cutMarkup_eq_some_iff]
    simp
  unfold ofBangKind
  constructor
  · rintro ⟨position, offset, h⟩
    split at h
    next => cases h
    next content _ cut =>
      simp only at h
      split at h
      next said =>
        cases h
        exact ⟨content, (cut_iff _ _).mp cut, said, rfl⟩
      next => cases h
  · rintro ⟨content, cut, said, rfl⟩
    rw [(cut_iff _ _).mpr cut]
    simp only [said]
    exact ⟨_, _, rfl⟩

/-- A step that is given is one that was made, wherever it ends. -/
lemma exists_map_some_iff {x : Except (Fault × Nat) Step} :
    (∃ position offset, x.map some = .ok (some ⟨event, position, ⟨rest, offset, opened⟩⟩)) ↔
      ∃ position offset, x = .ok ⟨event, position, ⟨rest, offset, opened⟩⟩ := by
  cases x with
  | error fault => exact iff_of_false nofun nofun
  | ok step => simp [Except.map]

/-- Only a bracket at the very end is no markup. -/
lemma eq_nil_of_ofMarkup (h : ofMarkup c s = .ok none) : s = [] := by
  have one {x : Except (Fault × Nat) Step} : x.map some ≠ .ok none := by
    cases x <;> exact nofun
  unfold ofMarkup at h
  split at h
  next => rfl
  next => exact absurd h one
  next => exact absurd h one
  next => exact absurd h one
  next => split at h <;> cases h

/-- A tag that is cut off is read as its text says, unless it begins like markup of another kind. -/
lemma ofMarkup_of_cut (plain : ∀ c ∈ s.head?, c ∉ ['!', '/', '?']) {content : List Char}
    (cut : Text.Cut '>' (Closed none) s content rest) :
    ofMarkup c s = .ok (some (ofTag c content rest)) := by
  unfold ofMarkup
  split
  next => exact absurd cut Text.Cut.not_nil
  next => exact absurd (plain '!' rfl) (by decide)
  next => exact absurd (plain '/' rfl) (by decide)
  next => exact absurd (plain '?' rfl) (by decide)
  next =>
    have read : cutTag none [] s = some (content, rest) :=
      cutTag_eq_some_iff.mpr ⟨content, rfl, cut⟩
    rw [read]

/-- What is read from a tag is what the tag says. -/
lemma marks_of_ofTag (plain : ∀ c ∈ s.head?, c ∉ ['!', '/', '?']) {content rest' : List Char}
    (cut : Text.Cut '>' (Closed none) s content rest') {position offset : Nat}
    (h : ofTag c content rest' = ⟨event, position, ⟨rest, offset, opened⟩⟩) :
    Marks c.opened s event opened rest := by
  obtain ⟨t, rfl, stop, tag⟩ | ⟨other, stop, tag⟩ := ofTag_cases c content rest'
  · rw [tag] at h
    cases h
    exact .empty plain cut
  · rw [tag] at h
    cases h
    exact .start plain cut other

/-- What is read from markup is what it says. -/
lemma marks_of_ofMarkup {position offset : Nat}
    (h : ofMarkup c s = .ok (some ⟨event, position, ⟨rest, offset, opened⟩⟩)) :
    Marks c.opened s event opened rest := by
  have read {x : Except (Fault × Nat) Step}
      (h : x.map some = .ok (some ⟨event, position, ⟨rest, offset, opened⟩⟩)) :
      ∃ position offset, x = .ok ⟨event, position, ⟨rest, offset, opened⟩⟩ :=
    exists_map_some_iff.mp ⟨position, offset, h⟩
  unfold ofMarkup at h
  split at h
  next => cases h
  next =>
    obtain ⟨position, offset, h⟩ := read h
    obtain ⟨markup, complete, kind, h⟩ := ofBang_eq_ok_iff.mp h
    obtain ⟨content, cut, said, rfl⟩ := exists_ofBangKind_iff.mp ⟨position, offset, h⟩
    exact .bang kind cut said
  next =>
    obtain ⟨position, offset, h⟩ := read h
    unfold ofEndTag at h
    simp only at h
    split at h
    next => cases h
    next inside =>
      split at h
      next name =>
        cases h
        rw [inside]
        exact .stop name
      next => cases h
  next =>
    obtain ⟨position, offset, h⟩ := read h
    unfold ofInstruction at h
    simp only at h
    split at h
    next ends =>
      cases h
      exact .instruction ends.1 ends.2
    next => cases h
  next bang slash question =>
    have plain : ∀ c ∈ s.head?, c ∉ ['!', '/', '?'] := by
      cases s with
      | nil => exact fun _ mem => absurd mem nofun
      | cons a t =>
        intro c mem
        obtain rfl : a = c := by simpa using mem
        simp only [List.mem_cons, List.not_mem_nil, or_false, not_or]
        exact ⟨fun e => bang t (by rw [e]), fun e => slash t (by rw [e]),
          fun e => question t (by rw [e])⟩
    split at h
    next => cases h
    next content rest' cut =>
      obtain ⟨_, rfl, cut⟩ := cutTag_eq_some_iff.mp cut
      exact marks_of_ofTag plain cut (Option.some.inj (Except.ok.inj h))

/-- What markup says is read from it, wherever it stands. -/
lemma exists_ofMarkup_of_marks (h : Marks c.opened s event opened rest) :
    ∃ position offset, ofMarkup c s = .ok (some ⟨event, position, ⟨rest, offset, opened⟩⟩) := by
  -- The tags that are open have a say in what an end tag is read as.
  obtain ⟨text, n, around⟩ := c
  cases h with
  | bang kind cut said =>
    obtain ⟨position, offset, read⟩ := exists_ofBangKind_iff.mpr ⟨_, cut, said, rfl⟩
    have bang := ofBang_eq_ok_iff.mpr ⟨_, _, kind, read⟩
    exact exists_map_some_iff.mpr ⟨position, offset, bang⟩
  | stop name =>
    refine exists_map_some_iff.mpr ?_
    simp only [ofEndTag, name, if_true]
    exact ⟨_, _, rfl⟩
  | instruction wide last =>
    refine exists_map_some_iff.mpr ?_
    simp only [ofInstruction, wide, last, and_self, if_true]
    exact ⟨_, _, rfl⟩
  | @empty _ _ content _ plain cut =>
    rw [ofMarkup_of_cut plain cut]
    obtain ⟨t, same, stop, tag⟩ | ⟨other, stop, tag⟩ :=
      ofTag_cases ⟨text, n, around⟩ (content ++ ['/']) rest
    · obtain rfl := List.append_cancel_right same
      exact ⟨stop, stop, by rw [tag]⟩
    · exact absurd List.getLast?_concat other
  | @start _ _ content _ plain cut last =>
    rw [ofMarkup_of_cut plain cut]
    obtain ⟨t, rfl, -⟩ | ⟨other, stop, tag⟩ := ofTag_cases ⟨text, n, around⟩ content rest
    · exact absurd List.getLast?_concat last
    · exact ⟨stop, stop, by rw [tag]⟩

/-- Markup is read where it says something, and as what it says. -/
theorem exists_ofMarkup_iff :
    (∃ position offset, ofMarkup c s = .ok (some ⟨event, position, ⟨rest, offset, opened⟩⟩)) ↔
      Marks c.opened s event opened rest :=
  ⟨fun ⟨_, _, h⟩ => marks_of_ofMarkup h, exists_ofMarkup_of_marks⟩

/-! ## Markup with a given text -/

/-- A comment is cut off at the first mark of its end. -/
lemma cut_comment {body : List Char} (whole : ¬ "-->".toList <:+: body) (rest : List Char) :
    Text.Cut '>' (Complete completeComment []) ("!--".toList ++ body ++ "-->".toList ++ rest)
      ("!--".toList ++ body ++ "--".toList) rest := by
  refine ⟨by simp, completeComment_iff.mpr ⟨"!--".toList ++ body, rfl, by simp⟩, ?_⟩
  intro a b split complete
  obtain ⟨u, rfl, long⟩ := completeComment_iff.mp complete
  obtain ⟨w, behind⟩ := Text.exists_of_mark (by decide) split
  rw [List.append_assoc] at behind
  obtain ⟨v, rfl⟩ := Text.exists_of_lead behind long
  exact whole ⟨v, w, by simp⟩

/-- A section of character data is cut off at the first mark of its end. -/
lemma cut_literal {data : List Char} (whole : ¬ "]]>".toList <:+: data) (rest : List Char) :
    Text.Cut '>' (Complete completeCData []) ("![CDATA[".toList ++ data ++ "]]>".toList ++ rest)
      ("![CDATA[".toList ++ data ++ "]]".toList) rest := by
  refine ⟨by simp, completeCData_iff.mpr ⟨"![CDATA[".toList ++ data, rfl⟩, ?_⟩
  intro a b split complete
  obtain ⟨u, rfl⟩ := completeCData_iff.mp complete
  obtain ⟨w, behind⟩ := Text.exists_of_mark (by decide) split
  rw [List.append_assoc] at behind
  -- The brackets at the end are not in the lead, which has none of their kind.
  have long : "![CDATA[".toList.length ≤ u.length := by
    obtain ⟨v, front, -⟩ | ⟨v, front, inside⟩ := List.append_eq_append_iff.mp behind
    · rw [front, List.length_append]
      omega
    · cases v with
      | nil => rw [front, List.append_nil]
      | cons c v =>
        obtain ⟨rfl, -⟩ := List.cons.inj inside
        have mem : ']' ∈ "![CDATA[".toList := by simp [front]
        exact absurd mem (by decide)
  obtain ⟨v, rfl⟩ := Text.exists_of_lead behind long
  exact whole ⟨v, w, by simp⟩

/-- A section says the data between its marks. -/
lemma ofBangText_literal (data : List Char) :
    ofBangText .cdata ("![CDATA[".toList ++ data ++ "]]".toList) = .ok (.cdata data) := by
  have inside : (("![CDATA[".toList ++ data ++ "]]".toList).drop 8).take
      (("![CDATA[".toList ++ data ++ "]]".toList).length - 10) = data := by
    simp
  have begins :
      Text.startsFolded "![CDATA[".toList ("![CDATA[".toList ++ data ++ "]]".toList) = true := by
    rw [Text.startsFolded, List.append_assoc, List.take_left, beq_iff_eq]
  simp only [ofBangText, begins, if_true, inside]

/-- Text without slash at its end, with its quotes closed, marks a start tag. -/
lemma marks_start (c : Char) (content : List Char) (first : c ∉ ['!', '/', '?'])
    (plain : '>' ∉ c :: content) (closed : Closed none (c :: content))
    (last : (c :: content).getLast? ≠ some '/') (rest : List Char) :
    Marks opened (c :: content ++ '>' :: rest) (.start (.ofContent (c :: content)))
      (Tag.nameOf (c :: content) :: opened) rest :=
  .start (by simpa using first) ⟨rfl, closed, fun a b split => absurd (by simp [split]) plain⟩ last

/-- A comment is marked as an aside. -/
lemma marks_comment {body : List Char} (whole : ¬ "-->".toList <:+: body) (rest : List Char) :
    Marks opened ("!--".toList ++ body ++ "-->".toList ++ rest) .aside opened rest :=
  .bang rfl (cut_comment whole rest) rfl

/-- A section marks its data. -/
lemma marks_literal {data : List Char} (whole : ¬ "]]>".toList <:+: data) (rest : List Char) :
    Marks opened ("![CDATA[".toList ++ data ++ "]]>".toList ++ rest) (.cdata data) opened rest :=
  .bang rfl (cut_literal whole rest) (ofBangText_literal data)

/-- The text of an instruction up to its end is what stands before the first bracket. -/
lemma instruction_eq (body rest : List Char) :
    "?".toList ++ body ++ "?>".toList ++ rest = '?' :: (body ++ '?' :: '>' :: rest) := by
  simp

/-- An instruction is marked as an aside. -/
lemma marks_instruction {body : List Char} (visible : body ≠ []) (plain : '>' ∉ body)
    (rest : List Char) :
    Marks opened ("?".toList ++ body ++ "?>".toList ++ rest) .aside opened rest := by
  have bracket : '>' ∉ '?' :: body ++ ['?'] := by simp [plain]
  have cut : Text.upTo '>' ('?' :: (body ++ '?' :: '>' :: rest)) = ('?' :: body ++ ['?'], rest) := by
    rw [← Text.upTo_append bracket rest]
    simp
  have wide : 2 < Text.width ('?' :: body ++ ['?']) := by
    obtain ⟨c, s, rfl⟩ := List.exists_cons_of_ne_nil visible
    have := Char.utf8Size_pos c
    have mark : '?'.utf8Size = 1 := by decide
    simp only [List.cons_append, Text.width_cons, Text.width_append, mark]
    omega
  have marks : Marks opened ('?' :: (body ++ '?' :: '>' :: rest)) .aside opened
      (Text.upTo '>' ('?' :: (body ++ '?' :: '>' :: rest))).2 :=
    .instruction (by rw [cut]; exact wide) (by rw [cut]; exact List.getLast?_concat)
  rwa [cut, ← instruction_eq] at marks

end Event

end XsdInfer.Sample
