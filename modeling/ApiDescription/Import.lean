import ApiDescription.Binding.Description
import ApiDescription.Validation

/-!
# Importing descriptions

An importer has options and documents that references may lead into.  It loads a text, finds out
the version, binds the description with the text as the entry document, and checks it.  Whatever
is wrong with the description is in the report; only where the options ask for it does a report
make the import fail.
-/

namespace ApiDescription

/-- The key of an entry document for which no URI is given. -/
def standardEntryUri : String := "openapi.yaml"

/-- What an import gives. -/
structure Import where
  /-- The format of the text. -/
  format : Format
  /-- The description. -/
  description : Description
  /-- The report. -/
  report : Report

/-- Whether nothing is wrong with a description. -/
def Import.isValid (i : Import) : Bool := !i.report.hasErrors

/-- Whether the options make a report fail the import. -/
def Options.rejects (o : Options) (r : Report) : Bool :=
  o.strict && (r.hasErrors || (o.warningsAsErrors && r.hasWarnings))

/-- Options, and the documents that references may lead into. -/
structure Importer where
  /-- The options. -/
  options : Options
  /-- The documents. -/
  registry : Registry

namespace Importer

/-- An importer without documents. -/
def ofOptions (o : Options) : Importer := ⟨o, .empty⟩

/-- The importer with one more document. -/
def register (i : Importer) (uri text : String) : Except ImportError Importer := do
  return { i with registry := ← i.registry.register uri text }

/-- The URI of entry documents. -/
def entryUri (i : Importer) : String := i.options.baseUri.getD standardEntryUri

/-- The description of a document and the report of binding it.  The document stands in place of
the one that it replaces, if there is one, and is then looked up by its key. -/
def bind (i : Importer) (d : LoadedDocument) : Except ImportError (Description × Report) := do
  let (version, declared) ←
    (Version.declaredIn d.root).mapError fun fault => .unsupported fault.message
  let (registry, key) ←
    (i.registry.replace i.entryUri d).mapError fun fault => .general fault.message
  (registry.bind key i.options version declared).mapError BindingFault.toImportError

/-- The report behind the checks, if they are asked for. -/
def checked (i : Importer) (d : Description) (r : Report) : Report :=
  if i.options.validate then d.validate r else r

/-- Imports a text. -/
def run (i : Importer) (text : String) : Except ImportError Import := do
  let d ← LoadedDocument.ofText text
  let (description, found) ← i.bind d
  let report := i.checked description found
  if i.options.rejects report then throw (.rejected report)
  return ⟨d.format, description, report⟩

end Importer

end ApiDescription
