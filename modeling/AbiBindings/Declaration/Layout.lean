import AbiBindings.Diagnostic
import AbiBindings.TypeScript.Statement

/-!
# Layout of declaration files

A file starts with three comment lines; its sections follow with an empty line between them.
-/

namespace AbiBindings

/-- The comment lines at the top of every file. -/
def fileHeader : String :=
  "/* Autogenerated file. Do not edit manually. */\n/* tslint:disable */\n/* eslint-disable */\n"

/-- The file of some sections. -/
def fileText (sections : List String) : String := fileHeader ++ paragraphs sections ++ "\n"

/-- The name of the layout of contract files. -/
def contractLayout : String := "contract"

/-- The layouts by name. -/
def layouts : List String := [contractLayout]

/-- Fills a layout.  It must be known, and the sections must be given. -/
def fillLayout (name : String) (sections? : Option (List String)) : Checked String :=
  let failure := Diagnostic.template s!"Failed to render template {name}"
  if name ∈ layouts then
    match sections? with
    | some sections => .ok (fileText sections)
    | none => .error failure
  else .error failure

end AbiBindings
