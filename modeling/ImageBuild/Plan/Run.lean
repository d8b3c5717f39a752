import ImageBuild.Plan.Basic
import ImageBuild.World

/-!
# Running the steps of a section

The image that a build gives is handed on to the steps after it. A step that has no backend is
skipped, and once a step was skipped, later ones that lack an image are skipped as well; any other
error ends the section.
-/

namespace ImageBuild

variable {σ : Type}

/-- The text of a tag, with a query to version control about the context if it is symbolic. -/
def TagSpec.resolve (settings : Settings σ) (w : World σ) (spec : TagSpec) :
    World σ × Except BuildError String :=
  match spec with
  | .literal text => (w, .ok text)
  | spec =>
    match spec.query? with
    | none => (w, .ok spec.text)
    | some query =>
      match w.ask settings.provider query settings.context with
      | (w, .ok text) => (w, .ok text)
      | (w, .error frames) => (w, .error (.versionControl spec.text frames))

namespace ImageStep

/-- The record of an image that was built. -/
def builtRecord (id reference : String) : LogRecord :=
  .info .steps "built image" [("image.id", id), ("image.reference", reference)]

/-- Builds a directory under a reference. -/
def runBuild (settings : Settings σ) (dir : String) (reference : String) (w : World σ) :
    World σ × Except BuildError (Option String) :=
  match settings.backend with
  | none => (w, .error .notConfigured)
  | some backend =>
    let context : BuildDir := ⟨w.files, w.cwd, dir⟩
    match w.request (.build context reference) (backend.build · context reference) with
    | (w, .error fault) => (w, .error (.ofBackend "build" fault))
    | (w, .ok id) => (w.log [builtRecord id reference], .ok (some id))

/-- Gives an image another reference; the image stays the same. -/
def runTag (settings : Settings σ) (image : Option String) (repository : String) (spec : TagSpec)
    (w : World σ) : World σ × Except BuildError (Option String) :=
  match settings.backend with
  | none => (w, .error .notConfigured)
  | some backend =>
    match image with
    | none => (w, .error (.noImage (ImageStep.tag repository spec).message))
    | some id =>
      match spec.resolve settings w with
      | (w, .error e) => (w, .error e)
      | (w, .ok text) =>
        match w.request (.tag id repository text) (backend.tag · id repository text) with
        | (w, .error fault) => (w, .error (.ofBackend "tag" fault))
        | (w, .ok ()) => (w, .ok (some id))

/-- Pushes a reference, unless pushing is skipped; the image stays the same. -/
def runPush (settings : Settings σ) (image : Option String) (repository : String) (spec : TagSpec)
    (w : World σ) : World σ × Except BuildError (Option String) :=
  if settings.skipPush then (w, .ok image)
  else
    match settings.backend with
    | none => (w, .error .notConfigured)
    | some backend =>
      match spec.resolve settings w with
      | (w, .error e) => (w, .error e)
      | (w, .ok text) =>
        match w.request (.push repository text) (backend.push · repository text) with
        | (w, .error fault) => (w, .error (.ofBackend "push" fault))
        | (w, .ok ()) => (w, .ok image)

/-- Runs a step in a directory, given the image of the steps before it; the image for the steps
after it. -/
def run (settings : Settings σ) (dir : String) (image : Option String) (step : ImageStep)
    (w : World σ) : World σ × Except BuildError (Option String) :=
  match step with
  | .build reference => runBuild settings dir reference w
  | .tag repository spec => runTag settings image repository spec w
  | .push repository spec => runPush settings image repository spec w

/-- The record of a step about to be run. -/
def startRecord (step : ImageStep) : LogRecord :=
  .info .builder "running docker command" [("command", step.message)]

/-- The record of a step that is skipped for want of an image. -/
def skipRecord (step : String) : LogRecord :=
  .warn .builder "no image id after a skipped command, skipping command" [("command", step)]

/-- Runs steps in order, given the image of the steps before them and whether one of those was
skipped for want of a backend. The result is the last image. -/
def runAll (settings : Settings σ) (dir : String) :
    (image : Option String) → (skipped : Bool) → List ImageStep → World σ →
      World σ × Except BuildError (Option String)
  | image, _, [], w => (w, .ok image)
  | image, skipped, step :: rest, w =>
    match run settings dir image step (w.log [step.startRecord]) with
    | (w, .ok image) => runAll settings dir image skipped rest w
    | (w, .error .notConfigured) => runAll settings dir image true rest w
    | (w, .error (.noImage message)) =>
      if skipped then runAll settings dir image skipped rest (w.log [skipRecord message])
      else (w, .error (.noImage message))
    | (w, .error e) => (w, .error e)

/-- What a step is given, in one line. -/
def summary (settings : Settings σ) (dir : String) (image : Option String) (uuid : String) :
    String :=
  Text.shownStructure "DockerCmdOpts" [
    ("backend", Text.shownBool settings.backend.isSome),
    ("image", Text.quotedOption image),
    ("image_uuid", Text.quoted uuid),
    ("skip_push", Text.shownBool settings.skipPush),
    ("workdir", Text.quoted dir),
    ("context_dir", Text.quoted settings.context)]

end ImageStep

end ImageBuild
