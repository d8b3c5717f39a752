import ImageBuild.Config.Basic
import ImageBuild.Text.Blank

/-!
# Well-formed configurations

`Config.validate` accepts a configuration of the current version whose sections have a name, a
dockerfile, a project and no blank tag, and no name twice. Otherwise it names the first fault: that
of the version, or of the first section with one, its parts being looked at in the order above.
-/

namespace ImageBuild

/-- A part of a section that may not be blank. -/
inductive RequiredField
  | name
  | dockerfile
  | project
  deriving DecidableEq, Repr

/-- The name of a required field. -/
def RequiredField.text : RequiredField → String
  | .name => "name"
  | .dockerfile => "dockerfile"
  | .project => "project"

/-- Why a configuration is not well-formed. -/
inductive ConfigFault
  | unsupportedVersion (version : UInt32)
  /-- A required field of the section at a position is blank. -/
  | blankField (position : Nat) (field : RequiredField)
  | blankTag (name : String)
  | repeatedName (name : String)
  deriving DecidableEq, Repr

/-- The wording of a fault. -/
def ConfigFault.message : ConfigFault → String
  | .unsupportedVersion v =>
    s!"unsupported config version {v}, expected {Config.currentVersion}"
  | .blankField i field => s!"container section {i} has an empty `{field.text}`"
  | .blankTag name => "container section \"" ++ name ++ "\" has an empty tag"
  | .repeatedName name => "container section name \"" ++ name ++ "\" is used more than once"

/-- The first required field of a section that is blank. -/
def Section.blankField? (s : Section) : Option RequiredField :=
  if Text.isBlankText s.name then some .name
  else if Text.isBlankText s.dockerfile then some .dockerfile
  else if Text.isBlankText s.project then some .project
  else none

/-- The fault of the section at a position, given the names of the sections before it. -/
def Section.fault? (position : Nat) (names : List String) (s : Section) : Option ConfigFault :=
  match s.blankField? with
  | some field => some (.blankField position field)
  | none =>
    if s.tags.any fun tag => Text.isBlankText tag.text then some (.blankTag s.name)
    else if s.name ∈ names then some (.repeatedName s.name)
    else none

/-- The first fault of a list of sections, given the position of the first one and the names of the
sections before it. -/
def firstFault? (position : Nat) (names : List String) : List Section → Option ConfigFault
  | [] => none
  | s :: rest =>
    match s.fault? position names with
    | some fault => some fault
    | none => firstFault? (position + 1) (s.name :: names) rest

/-- The first fault of a configuration. -/
def Config.fault? (c : Config) : Option ConfigFault :=
  if c.version ≠ Config.currentVersion then some (.unsupportedVersion c.version)
  else firstFault? 0 [] c.sections

/-- Accepts well-formed configurations. -/
def Config.validate (c : Config) : Except ConfigFault Unit :=
  match c.fault? with
  | none => .ok ()
  | some fault => .error fault

end ImageBuild
