import ImageBuild.TagSpec

/-!
# Plans

A plan has one part for each section of a configuration, and each part lists the steps that build,
tag and push its image.
-/

namespace ImageBuild

/-- What is done with an image. -/
inductive ImageStep
  /-- Build it under an intermediate reference. -/
  | build (reference : String)
  /-- Give it the reference `repository:tag`. -/
  | tag (repository : String) (tag : TagSpec)
  /-- Push the reference `repository:tag`. -/
  | push (repository : String) (tag : TagSpec)
  deriving DecidableEq, Repr

/-- A step in one line. -/
def ImageStep.message : ImageStep → String
  | .build reference => "docker build -t " ++ reference ++ " ."
  | .tag repository spec => "docker tag <image> " ++ repository ++ ":" ++ spec.text
  | .push repository spec => "docker push " ++ repository ++ ":" ++ spec.text

/-- The steps of one section, with what is needed to stage its files. -/
structure SectionPlan where
  name : String
  /-- The path of the dockerfile, relative to the root of the context. -/
  dockerfile : String
  /-- The tag of the intermediate image. -/
  uuid : String
  steps : List ImageStep
  deriving DecidableEq, Repr

/-- The parts of a plan, in order. -/
abbrev Plan := List SectionPlan

end ImageBuild
