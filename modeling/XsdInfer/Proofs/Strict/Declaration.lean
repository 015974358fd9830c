import XsdInfer.Layout
import XsdInfer.Proofs.Strict.Scanning
import XsdInfer.Strict.Declaration

/-!
# The declaration of a written document

The declaration is taken part by part: the version, the encoding, and no statement whether the
document stands alone. Main statement: a strict reader of a written document starts behind its first
line (`takes_start`).
-/

namespace XsdInfer.Strict

/-- A text begins with what stands at its front. -/
lemma begins_append (lead : String) (s : List Char) : begins lead (lead.toList ++ s) = true :=
  List.isPrefixOf_iff_prefix.mpr (List.prefix_append _ _)

namespace Scan

variable {rest : List Char}

/-- The end of a declaration does not start with space. -/
lemma isSpace_head_end : ∀ c ∈ ("?>".toList ++ rest).head?, Text.isSpace c = false := by
  intro c mem
  cases mem
  decide

/-- A space between two parts is taken. -/
lemma takes_gap (stop : ∀ c ∈ rest.head?, Text.isSpace c = false) :
    Takes gap (' ' :: rest) (fun _ => True) rest := by
  apply takes_ahead.bind
  intro s same
  subst same
  exact (takes_refuse rfl _).bind fun _ _ => takes_spaces (s := [' ']) (by decide) stop

/-- A part of a declaration is taken. -/
lemma takes_part {name value : String} (word : isWord name.toList = true)
    (held : ∀ c ∈ value.toList, isXmlChar c = true ∧ c ∉ ['"', '<']) :
    Takes attr (name.toList ++ '=' :: '"' :: (value.toList ++ '"' :: rest)) (fun _ => True) rest := by
  have plain (c : Char) (special : c ∈ ['"', '<']) : c ∉ value.toList :=
    fun mem => (held c mem).2 special
  have named : Takes qualified (name.toList ++ '=' :: '"' :: (value.toList ++ '"' :: rest)) _ _ :=
    takes_word word fun c mem => by
      cases mem
      decide
  intro place
  obtain ⟨token, place', taken, _⟩ := takes_attr named (fun c mem => (held c mem).1)
    ⟨plain '"' (by simp), plain '<' (by simp)⟩ place
  exact ⟨token, place', taken, trivial⟩

/-- The version of a declaration is taken. -/
lemma takes_version :
    Takes version ("version".toList ++ '=' :: '"' :: ("1.0".toList ++ '"' :: rest))
      (fun _ => True) rest := by
  apply takes_ahead.bind
  intro s same
  subst same
  have known : (!begins "version"
      ("version".toList ++ '=' :: '"' :: ("1.0".toList ++ '"' :: rest))) = false := by
    rw [begins_append]
    rfl
  apply (takes_refuse known _).bind
  intro _ _
  exact (takes_part (by decide) (by decide)).bind fun _ _ => takes_pure trivial

/-- The encoding of a declaration is taken. -/
lemma takes_encoding :
    Takes encoding
      ("encoding".toList ++ '=' :: '"' :: ("UTF-8".toList ++ '"' :: ("?>".toList ++ rest)))
      (fun _ => True) ("?>".toList ++ rest) := by
  apply takes_ahead.bind
  intro s same
  subst same
  rw [if_pos (begins_append _ _)]
  refine (takes_part (by decide) (by decide)).bind fun _ _ => takes_ahead.bind fun s same => ?_
  subst same
  exact (takes_refuse rfl _).bind fun _ _ => takes_no_spaces isSpace_head_end

/-- Where a declaration ends, nothing more is taken. -/
lemma takes_no_standalone :
    Takes standalone ("?>".toList ++ rest) (fun _ => True) ("?>".toList ++ rest) := by
  apply takes_ahead.bind
  intro s same
  subst same
  rw [if_neg (by simp [begins])]
  exact takes_pure trivial

/-- The first line of a written document is taken as its declaration. -/
theorem takes_start : Takes start (Layout.declaration.tag ++ rest) (fun _ => True) rest := by
  have taken : Takes declaration (Layout.declaration.tag ++ rest) (fun _ => True) rest := by
    have text : Layout.declaration.tag ++ rest =
        "<?xml".toList ++ (' ' :: ("version".toList ++ '=' :: '"' :: ("1.0".toList ++ '"' ::
          (' ' :: ("encoding".toList ++ '=' :: '"' :: ("UTF-8".toList ++ '"' ::
            ("?>".toList ++ rest))))))) := rfl
    rw [text]
    refine (takes_literal "<?xml").bind fun _ _ => (takes_gap fun c mem => ?_).bind fun _ _ => ?_
    · cases mem
      decide
    refine takes_version.bind fun _ _ => (takes_gap fun c mem => ?_).bind fun _ _ => ?_
    · cases mem
      decide
    refine takes_encoding.bind fun _ _ => takes_no_standalone.bind fun _ _ => ?_
    exact (takes_no_spaces isSpace_head_end).bind fun _ _ => takes_literal "?>"
  -- Before the declaration there is no byte order mark.
  apply takes_ahead.bind
  intro s same
  subst same
  apply takes_ahead.bind
  intro s same
  subst same
  exact taken

end Scan

end XsdInfer.Strict
