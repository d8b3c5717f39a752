import ImageBuild.Plan.Basic
import ImageBuild.World

/-!
# Builders

A builder holds at most one working directory, and the section whose files go there next. Getting a
working directory gives up the one before it; staging the files of a section looks at the dockerfile
before anything is changed.
-/

namespace ImageBuild

/-- The state of a builder. -/
structure Builder where
  workdir : Option Place
  /-- The section whose files are staged next. -/
  next : Option SectionPlan
  deriving DecidableEq, Repr

namespace Builder

variable {σ : Type}

/-- A builder without a working directory. -/
def new : Builder := ⟨none, none⟩

/-- What the names of working directories begin with. -/
def workdirPrefix : String := "build-runner-"

/-- The name of the working directory of a number. -/
def workdirName (n : Nat) : Name :=
  let digits := toString n
  workdirPrefix ++ String.ofList (List.replicate (6 - digits.length) '0') ++ digits

/-- The permissions of working directories. -/
def workdirMode : Mode := 0o700

/-- The number, from a given one on, of the first name that nothing in a directory has. -/
def freeNumber (fs : FileSystem) (dir : Place) (serial : Nat) : Nat :=
  let isFree (n : Nat) : Bool := (fs.lookup (dir ++ [workdirName n])).isNone
  serial + ((List.range (fs.nodes.length + 1)).find? fun k => isFree (serial + k)).getD 0

/-- Makes a new, empty working directory. -/
def allocate (w : World σ) : World σ × Except FileFault Place :=
  match w.files.resolve w.cwd w.temp with
  | .error fault => (w, .error fault)
  | .ok dir =>
    if !w.files.isDirAt dir then (w, .error .notADirectory)
    else
      let number := freeNumber w.files dir w.serial
      let place := dir ++ [workdirName number]
      if pathLimit ≤ (Place.text place).utf8ByteSize then (w, .error .nameTooLong)
      else
        ({ w with files := w.files.insert place (.dir workdirMode), serial := number + 1 },
          .ok place)

/-- Removes a working directory with all it holds, if a directory or a link stands there. -/
def removeWorkdir (fs : FileSystem) (place : Place) : Except FileFault FileSystem :=
  match fs.lookup place with
  | none => .error .notFound
  | some (.dir _) => .ok (fs.erase place)
  | some (.link _) => .ok (fs.erase place)
  | some _ => .error .notADirectory

/-- Gives up the working directory. That it can not be removed is only recorded. -/
def release (b : Builder) (w : World σ) : Builder × World σ :=
  match b.workdir with
  | none => (b, w)
  | some place =>
    let w :=
      match removeWorkdir w.files place with
      | .ok files => { w with files := files }
      | .error _ => w.log [.warn .builder "failed to remove workdir" []]
    ({ b with workdir := none }, w)

/-- The end of a builder: its working directory is removed without a record. -/
def close (b : Builder) (w : World σ) : World σ :=
  match b.workdir with
  | none => w
  | some place =>
    match removeWorkdir w.files place with
    | .ok files => { w with files := files }
    | .error _ => w

/-- Gives up the working directory and gets a new one. -/
def clean (b : Builder) (w : World σ) : Builder × World σ × Except BuildError Unit :=
  let (b, w) := b.release w
  match allocate w with
  | (w, .error fault) => (b, w, .error (.workdir (.unavailable fault)))
  | (w, .ok place) => ({ b with workdir := some place }, w, .ok ())

/-- Binds the section whose files are staged next. -/
def bind (b : Builder) (plan : SectionPlan) : Builder :=
  { b with next := some plan }

/-- Stages the files of the bound section. -/
def setup (settings : Settings σ) (b : Builder) (w : World σ) :
    World σ × Except BuildError Unit :=
  match b.next with
  | none => (w, .error .noSection)
  | some plan =>
    match (TrustedFile.ofPath plan.dockerfile settings.context).verdict w.files w.cwd with
    | .error fault => (w, .error (.sandbox fault))
    | .ok contained =>
      match b.workdir with
      | none => (w, .error (.workdir .notAllocated))
      | some workdir =>
        let (records, files, result) := w.files.stage contained workdir
        let w := { w with files := files }.log records
        match result with
        | .error fault => (w, .error (.staging fault))
        | .ok () => (w, .ok ())

/-- A builder in one line. -/
def summary (settings : Settings σ) (b : Builder) : String :=
  Text.shownStructure "Builder" [
    ("backend", Text.shownBool settings.backend.isSome),
    ("context_dir", Text.quoted settings.context),
    ("skip_push", Text.shownBool settings.skipPush),
    ("workdir", Text.quotedOption (b.workdir.map Place.text)),
    ("next_sub_sequence", Text.quotedOption (b.next.map (·.name)))]

end Builder

end ImageBuild
