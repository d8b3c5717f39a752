import ImageBuild.Config.Validate
import ImageBuild.Plan.Basic
import ImageBuild.Uuid

/-!
# From a configuration to a plan

A section becomes one build under a fresh intermediate reference, one tag for each of its tag specs
and, unless pushing is skipped, one push for each of them, in the order in which they are written.
-/

namespace ImageBuild

/-- How plans are made. -/
structure Compiler where
  uuids : UuidSource
  /-- Whether pushing is skipped in every section. -/
  skipPush : Bool
  deriving DecidableEq, Repr

namespace Compiler

/-- The compiler that draws identifiers and plans pushes. -/
def default : Compiler := ⟨.random, false⟩

/-- The steps of a section under an identifier. -/
def steps (skipPush : Bool) (uuid : String) (s : Section) : List ImageStep :=
  .build (s.repository ++ ":" ++ uuid) :: (s.tags.map (.tag s.repository) ++
    if s.skipPush || skipPush then [] else s.tags.map (.push s.repository))

/-- The part of a plan for a section under an identifier. -/
def planSection (skipPush : Bool) (uuid : String) (s : Section) : SectionPlan :=
  ⟨s.name, s.dockerfile, uuid, steps skipPush uuid s⟩

/-- The parts of a plan for some sections, and how many draws are used up after them. -/
def planSections (c : Compiler) (draw : Nat → String) : Nat → List Section → Plan × Nat
  | used, [] => ([], used)
  | used, s :: rest =>
    let (uuid, used) := c.uuids.next draw used
    let (plan, used) := c.planSections draw used rest
    (planSection c.skipPush uuid s :: plan, used)

/-- The plan for a well-formed configuration, and how many draws are used up after it; a
configuration that is not well-formed uses up none. -/
def compile (c : Compiler) (draw : Nat → String) (used : Nat) (config : Config) :
    Except ConfigFault Plan × Nat :=
  match config.validate with
  | .error fault => (.error fault, used)
  | .ok () =>
    let (plan, used) := c.planSections draw used config.sections
    (.ok plan, used)

end Compiler

end ImageBuild
