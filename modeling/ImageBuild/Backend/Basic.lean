import ImageBuild.Error
import ImageBuild.Image
import ImageBuild.Output.LineLogger

/-!
# Container backends

A backend builds images from a directory, gives them references, pushes references, finds images and
removes references. It has a state, on which its answers may depend, so a backend may answer by the
whole history of the calls made to it. Its output is forwarded to the sinks of the run.
-/

namespace ImageBuild

/-- A piece of output. -/
inductive Output
  /-- One line, as it is. -/
  | line (stream : Stream) (text : String)
  /-- A text, of which the lines that are not blank count. -/
  | lines (stream : Stream) (text : String)
  deriving DecidableEq, Repr

/-- A directory that is handed to a backend: its path, and the files and the working directory with
which that has a meaning. -/
structure BuildDir where
  files : FileSystem
  cwd : Place
  path : String

/-- What a backend gives back: its state afterwards, its output and the result. -/
structure Answer (σ α : Type) where
  state : σ
  output : List Output
  result : Except BackendFault α

/-- A container backend with a state of type `σ`. -/
structure Backend (σ : Type) where
  /-- Builds a directory under a reference and gives the identifier of the image. -/
  build : σ → BuildDir → (reference : String) → Answer σ String
  /-- Gives the image of an identifier the reference `repository:tag`. -/
  tag : σ → (id repository tag : String) → Answer σ Unit
  /-- Pushes the reference `repository:tag`. -/
  push : σ → (repository tag : String) → Answer σ Unit
  /-- The image created last among those with a reference that matches a pattern. -/
  find : σ → Pattern → Answer σ (Option Image)
  /-- Removes a reference. -/
  removeReference : σ → (reference : String) → Answer σ Unit

namespace BuildDir

/-- The content of the directory; nothing if it is not there. -/
def tree (d : BuildDir) : Tree :=
  match d.files.resolve d.cwd d.path with
  | .ok place => if d.files.isDirAt place then d.files.below place else []
  | .error _ => []

/-- The paths of everything in the directory but directories, in ascending order of their texts. -/
def filePaths (d : BuildDir) : List String :=
  let paths := d.tree.filterMap fun (path, node) =>
    if node.isDir then none else some (relativeText path)
  paths.mergeSort fun a b => decide (a ≤ b)

/-- The text of the file named `Dockerfile` in the directory; empty if it can not be read. -/
def dockerfileText (d : BuildDir) : String :=
  match d.files.readBytes d.cwd (joinText d.path dockerfileName) with
  | .error _ => ""
  | .ok bytes =>
    match Text.Utf8.decode? bytes with
    | .ok text => text
    | .error _ => ""

end BuildDir

end ImageBuild
