import ImageBuild.FileSystem.Resolve
import ImageBuild.Text.Quoted

/-!
# The sandbox of dockerfile paths

A dockerfile has to lie in the context. `Sandbox.check` decides that twice: by the text of the path,
which catches every way out through the parent directory even if nothing exists there, and by the
place that the path leads to, which catches links that point outside. A `TrustedFile` carries the
verdict of one check from the first time it is asked for.
-/

namespace ImageBuild

/-- Why a dockerfile is refused. -/
inductive SandboxFault
  /-- The file lies outside of the resolved root. -/
  | escape (file : String) (root : String)
  | notFound (file : String)
  | notAFile (file : String)
  | unreadable (file : String) (cause : FileFault)
  | rootUnavailable (root : String) (cause : FileFault)
  deriving DecidableEq, Repr

/-- The wording of a refusal. -/
def SandboxFault.message : SandboxFault → String
  | .escape file root =>
    Text.quoted file ++ " resolves outside of the context root " ++ Text.quoted root
  | .notFound file => Text.quoted file ++ " does not exist"
  | .notAFile file => Text.quoted file ++ " is not a regular file"
  | .unreadable file _ => Text.quoted file ++ " is not readable"
  | .rootUnavailable root _ =>
    "the context root " ++ Text.quoted root ++ " could not be resolved"

/-- The file operation that failed, if the refusal comes from one. -/
def SandboxFault.cause? : SandboxFault → Option FileFault
  | .unreadable _ cause => some cause
  | .rootUnavailable _ cause => some cause
  | _ => none

/-- A file inside a root, both resolved. -/
structure Contained where
  file : Place
  root : Place
  deriving DecidableEq, Repr

namespace Sandbox

/-- The place that a dockerfile text names below a resolved root by its text alone, if that place is
inside the root. -/
def candidate? (root : Place) (file : String) : Option Place :=
  match ((Path.ofPlace root).join (Path.ofText file)).names? with
  | none => none
  | some place => if root.isPrefixOf place then some place else none

/-- Whether the file at a place inside the root can be read, `file` being the text it came from. -/
def inspect (fs : FileSystem) (file : String) (root place : Place) :
    Except SandboxFault Contained :=
  match fs.canonical [] place.text with
  | .error .notFound => .error (.notFound file)
  | .error cause => .error (.unreadable file cause)
  | .ok resolved =>
    if !root.isPrefixOf resolved then .error (.escape file root.text)
    else if !fs.isFileAt resolved then .error (.notAFile file)
    else .ok ⟨resolved, root⟩

/-- The verdict on a dockerfile text and a root, seen from a working directory. -/
def check (fs : FileSystem) (cwd : Place) (file root : String) : Except SandboxFault Contained :=
  match fs.canonical cwd root with
  | .error cause => .error (.rootUnavailable root cause)
  | .ok resolvedRoot =>
    match candidate? resolvedRoot file with
    | none => .error (.escape file resolvedRoot.text)
    | some place => inspect fs file resolvedRoot place

end Sandbox

/-- What is known about a trusted file. -/
inductive Trust
  | unchecked
  | accepted (contained : Contained)
  | refused (fault : SandboxFault)
  deriving DecidableEq, Repr

/-- The trust that a verdict founds. -/
def Trust.ofVerdict : Except SandboxFault Contained → Trust
  | .ok contained => .accepted contained
  | .error fault => .refused fault

/-- A dockerfile path and its root, with the verdict once there is one. -/
structure TrustedFile where
  file : String
  root : String
  trust : Trust
  deriving DecidableEq, Repr

namespace TrustedFile

/-- A dockerfile path below a root, not checked yet. -/
def ofPath (file root : String) : TrustedFile :=
  ⟨file, root, .unchecked⟩

/-- Checks the file if it is not checked yet. -/
def sanitize (fs : FileSystem) (cwd : Place) (t : TrustedFile) : TrustedFile :=
  match t.trust with
  | .unchecked => { t with trust := .ofVerdict (Sandbox.check fs cwd t.file t.root) }
  | _ => t

/-- A dockerfile path below a root, checked at once. -/
def validate (fs : FileSystem) (cwd : Place) (file root : String) : TrustedFile :=
  (ofPath file root).sanitize fs cwd

/-- The file and the root, if the file is accepted. -/
def contained? (t : TrustedFile) : Option Contained :=
  match t.trust with
  | .accepted contained => some contained
  | _ => none

/-- The reason, if the file is refused. -/
def fault? (t : TrustedFile) : Option SandboxFault :=
  match t.trust with
  | .refused fault => some fault
  | _ => none

/-- The verdict, which is founded now if the file is not checked yet. -/
def verdict (fs : FileSystem) (cwd : Place) (t : TrustedFile) : Except SandboxFault Contained :=
  match t.trust with
  | .unchecked => Sandbox.check fs cwd t.file t.root
  | .accepted contained => .ok contained
  | .refused fault => .error fault

end TrustedFile

end ImageBuild
