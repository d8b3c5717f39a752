import ImageBuild.Config.Basic
import ImageBuild.Json.Printer

/-!
# Writing configurations

The compact document of a configuration: every field is written, in the order of its declaration.
-/

namespace ImageBuild

open Json

/-- A written tag. -/
def TagSpec.written (tag : TagSpec) : List Char :=
  writtenText tag.text

/-- A written section. -/
def Section.written (s : Section) : List Char :=
  writtenObject [
    ("name", writtenText s.name),
    ("dockerfile", writtenText s.dockerfile),
    ("registry", writtenText s.registry),
    ("project", writtenText s.project),
    ("tags", writtenList (s.tags.map TagSpec.written)),
    ("skip_push", writtenBoolean s.skipPush)]

/-- The document of a configuration. -/
def Config.toJson (c : Config) : String :=
  String.ofList (writtenObject [
    ("version", writtenNatural c.version.toNat),
    ("containers", writtenList (c.sections.map Section.written))])

end ImageBuild
