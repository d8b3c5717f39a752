import ImageBuild.TagSpec
import ImageBuild.Text.Blank

/-!
# Configurations

A configuration lists sections. Each one describes a container image: the dockerfile it is built
from, the repository it belongs to and the tags it gets.
-/

namespace ImageBuild

/-- A section of a configuration. -/
structure Section where
  name : String
  /-- The path of the dockerfile, relative to the root of the context. -/
  dockerfile : String
  registry : String
  project : String
  tags : List TagSpec
  skipPush : Bool
  deriving DecidableEq, Repr

/-- A list of sections, with the version of its format. -/
structure Config where
  version : UInt32
  sections : List Section
  deriving DecidableEq, Repr

/-- The only version that is understood. -/
def Config.currentVersion : UInt32 := 1

/-- The configuration of the current version with the given sections. -/
def Config.ofSections (sections : List Section) : Config :=
  ⟨Config.currentVersion, sections⟩

/-- The image repository of a section: its project, below its registry if there is one. Slashes at
the end of the registry do not count. -/
def Section.repository (s : Section) : String :=
  let registry := Text.trimEndMatches (· == '/') s.registry
  if registry = "" then s.project else registry ++ "/" ++ s.project

end ImageBuild
