import XsdInfer.Proofs.Check.Written
import XsdInfer.Proofs.Inference.Ledger

/-!
# Conversions are sound

Main statement: there is nothing to report on the schema that a sample is converted to, alone or
together with the sample, whatever the sample is (`check_convert`). Only a root whose namespace is
not one that a document may declare is left out.
-/

namespace XsdInfer.Conversion

/-- There is nothing to report on the schema that a sample is converted to: it is read strictly as a
sound schema, and it declares the root of the sample. -/
theorem check_convert {scope : Scope} {xml xsd : String}
    (converted : convert { scope } xml = .ok xsd)
    (fits : ∀ root uri, Sample.parse {} xml = .ok root → root.namespace? = some uri →
      IsTarget uri) :
    Check.schema xsd = {} ∧ Check.sample xml xsd = {} ∧
      ∃ root schema, Sample.parse {} xml = .ok root ∧ Strict.parse xsd = .ok schema ∧
        Check.Sound schema ∧ root.localName ∈ Check.topLevel schema "element" := by
  obtain ⟨root, parsed, rfl⟩ := exists_parse_of_convert converted
  have parsed : Sample.parse {} xml = .ok root := parsed
  -- What the reader accepts has qualified names, so what is written has solid ones.
  have writable : (Schema.described scope root).Writable root.name root.namespace? := {
    closed := Schema.closed_described scope root
    solid := Schema.solid_described (Sample.named_of_parse parsed) scope
    named := Sample.isSolid_root_of_parse parsed
    fits := (fits root · parsed) }
  obtain ⟨schema, read, sound, declared⟩ := Check.strictParse_render writable
  have read : Strict.parse (Schema.described scope root).xsd = .ok schema := read
  have rooted : Check.schemaRoot (Schema.described scope root).xsd = .ok schema := by
    rw [Check.schemaRoot, read]
    exact if_pos sound.root
  have alone : Check.schema (Schema.described scope root).xsd = {} := by
    rw [Check.schema, rooted]
    exact Check.ofRoot_eq_of_sound sound
  refine ⟨alone, ?_, root, schema, parsed, read, sound, declared⟩
  have matching : Check.rootFindings (Schema.described scope root).xsd root = [] := by
    rw [Check.rootFindings, rooted]
    exact if_pos declared
  rw [Check.sample, parsed, alone]
  show ({ errors := [] ++ Check.rootFindings (Schema.described scope root).xsd root } : Report) = {}
  rw [matching, List.append_nil]

/-- Under the narrower scope, a tag that recurs below itself needs two definitions, and the prefix of
the target namespace. -/
theorem check_convert_recurring :
    let xml := "<o:a xmlns:o=\"urn:o\"><b n=\"1\">x</b><o:a><b/></o:a></o:a>"
    ∃ xsd, convert { scope := .parent } xml = .ok xsd ∧
      (∀ root uri, Sample.parse {} xml = .ok root → root.namespace? = some uri → IsTarget uri) ∧
      Check.schema xsd = {} ∧ Check.sample xml xsd = {} ∧
      ∃ root schema, Sample.parse {} xml = .ok root ∧ Strict.parse xsd = .ok schema ∧
        Check.Sound schema ∧ root.localName ∈ Check.topLevel schema "element" := by
  intro xml
  have accepted : (convert { scope := .parent } xml).isOk = true := by decide +kernel
  have namespaced : (Sample.parse {} xml).map Element.namespace? = .ok (some "urn:o") := by
    decide +kernel
  have fits : ∀ root uri, Sample.parse {} xml = .ok root → root.namespace? = some uri →
      IsTarget uri := by
    intro root uri parsed here
    rw [parsed] at namespaced
    obtain rfl := Option.some.inj (here.symm.trans (Except.ok.inj namespaced))
    exact ⟨by decide, by decide, by decide, by decide⟩
  cases converted : convert { scope := .parent } xml with
  | error e => rw [converted] at accepted; cases accepted
  | ok xsd => exact ⟨xsd, rfl, fits, check_convert converted fits⟩

end XsdInfer.Conversion
