import ImageBuild.Builder.Basic
import ImageBuild.Plan.Compiler
import ImageBuild.Plan.Run

/-!
# Running plans

Every section of a plan gets a working directory of its own, its files are staged there, its steps
are run, and the intermediate reference of its image is removed again. The first error ends the run
and leaves the working directory of the section in place.
-/

namespace ImageBuild

namespace Builder

variable {σ : Type}

/-- Runs the steps of a section in the working directory. -/
def runSteps (settings : Settings σ) (b : Builder) (plan : SectionPlan) (w : World σ) :
    World σ × Except BuildError (Option String) :=
  match b.workdir with
  | none => (w, .error (.workdir .notAllocated))
  | some place => ImageStep.runAll settings (Place.text place) none false plan.steps w

/-- Looks for the image with the intermediate reference of an identifier and removes the first such
reference. Whatever goes wrong is only recorded. -/
def reclaim (settings : Settings σ) (uuid : String) (w : World σ) : World σ :=
  match settings.backend with
  | none => w
  | some backend =>
    let pattern := Pattern.ofSuffix uuid
    match w.request (.find pattern) (backend.find · pattern) with
    | (w, .error .notConfigured) => w
    | (w, .error (.failed _)) =>
      w.log [.warn .builder "error getting repo tagged with temporary tag" []]
    | (w, .ok none) => w.log [.warn .builder "no image found with temporary tag" [("uuid", uuid)]]
    | (w, .ok (some image)) =>
      match image.references.find? pattern.isMatch with
      | none => w
      | some reference =>
        let w := w.log
          [.info .builder "deleting temporary tag" [("image.id", image.id), ("tag", reference)]]
        match w.request (.removeReference reference) (backend.removeReference · reference) with
        | (w, .ok ()) => w
        | (w, .error _) => w.log [.warn .builder "error deleting temporary tag" []]

/-- The record of a section whose steps are about to be run. -/
def sectionRecord (plan : SectionPlan) : LogRecord :=
  .info .builder "running commands for container section" [("container_section", plan.name)]

/-- Runs one section of a plan. -/
def runSection (settings : Settings σ) (b : Builder) (plan : SectionPlan) (w : World σ) :
    Builder × World σ × Except BuildError Unit :=
  match b.clean w with
  | (b, w, .error e) => (b, w, .error e)
  | (b, w, .ok ()) =>
    let b := b.bind plan
    match setup settings b w with
    | (w, .error e) => (b, w, .error e)
    | (w, .ok ()) =>
      match runSteps settings b plan (w.log [sectionRecord plan]) with
      | (w, .error e) => (b, w, .error e)
      | (w, .ok _) =>
        let (b, w) := b.release (reclaim settings plan.uuid w)
        (b, w, .ok ())

/-- Runs the sections of a plan in order, up to the first error. -/
def runPlan (settings : Settings σ) (b : Builder) (w : World σ) :
    Plan → Builder × World σ × Except BuildError Unit
  | [] => (b, w, .ok ())
  | plan :: rest =>
    match runSection settings b plan w with
    | (b, w, .error e) => (b, w, .error e)
    | (b, w, .ok ()) => runPlan settings b w rest

end Builder

/-- Makes the plan of a configuration with fresh identifiers and runs it on a new builder, whose
working directory is given up at the end. -/
def compileAndRun {σ : Type} (settings : Settings σ) (draw : Nat → String) (used : Nat)
    (config : Config) (w : World σ) : World σ × Except BuildError Unit :=
  match (Compiler.mk .random settings.skipPush).compile draw used config with
  | (.error fault, _) => (w, .error (.config (.notWellFormed fault)))
  | (.ok plan, _) =>
    let (b, w, result) := Builder.new.runPlan settings w plan
    (b.close w, result)

end ImageBuild
