import ImageBuild.Error
import ImageBuild.TagSpec

/-!
# Version control

Symbolic tags are answered by a provider, which is asked one of three queries about a directory. A
provider may have a state, on which its answers depend.
-/

namespace ImageBuild

/-- What can be asked of version control. -/
inductive Query
  | branch
  | revision
  | description
  deriving DecidableEq, Repr

/-- A source of answers with a state of type `σ`. -/
structure Provider (σ : Type) where
  /-- The answer to a query about a directory. -/
  answer : σ → Query → String → σ × Except Frames String

/-- The query that a tag spec asks, if it asks one. -/
def TagSpec.query? : TagSpec → Option Query
  | .literal _ => none
  | .branch => some .branch
  | .revision _ => some .revision
  | .description _ => some .description

/-- Fixed answers to the three queries. A missing one is a failure. -/
structure FixedAnswers where
  branch : Option String
  revision : Option String
  description : Option String

/-- How a query is called. -/
def Query.name : Query → String
  | .branch => "branch"
  | .revision => "revision"
  | .description => "describe"

/-- The fixed answer to a query. -/
def FixedAnswers.get (answers : FixedAnswers) : Query → Option String
  | .branch => answers.branch
  | .revision => answers.revision
  | .description => answers.description

/-- The provider of fixed answers. -/
def FixedAnswers.provider {σ : Type} (answers : FixedAnswers) : Provider σ where
  answer := fun s query _ =>
    match answers.get query with
    | some text => (s, .ok text)
    | none => (s, .error ["no " ++ query.name, query.name ++ " query failed"])

end ImageBuild
