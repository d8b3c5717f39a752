import ImageBuild.Config.Basic
import ImageBuild.Json.Record

/-!
# Reading configurations

A configuration is read from a JSON document. The version, the list of sections, and the registry,
the tags and the flag of a section may be left out.
-/

namespace ImageBuild

open Json

/-- Reads a tag. -/
def readTagSpec (cs : List Char) : Reading TagSpec :=
  match readText cs with
  | .error f => .error f
  | .ok (s, rest) => .ok (TagSpec.ofText s, rest)

/-- A section as a document writes it. -/
def sectionShape : Shape Section where
  title := "struct ContainerSection"
  fields := [
    .of "name" .required readText fun s x => { s with name := x },
    .of "dockerfile" .required readText fun s x => { s with dockerfile := x },
    .of "registry" .defaulted readText fun s x => { s with registry := x },
    .of "project" .required readText fun s x => { s with project := x },
    .of "tags" .defaulted (readList readTagSpec) fun s x => { s with tags := x },
    .of "skip_push" .defaulted readBoolean fun s x => { s with skipPush := x }]
  empty := ⟨"", "", "", "", [], false⟩

/-- A configuration as a document writes it. -/
def configShape : Shape Config where
  title := "struct UnitConfig"
  fields := [
    .of "version" .defaulted readWord32 fun c x => { c with version := x },
    .of "containers" .defaulted (readList (readRecord sectionShape)) fun c x =>
      { c with sections := x }]
  empty := .ofSections []

/-- Reads a configuration from a document. -/
def Config.ofJson? (document : String) : Except Fault Config :=
  readDocument configShape document.toList

end ImageBuild
