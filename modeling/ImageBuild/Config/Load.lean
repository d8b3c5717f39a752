import ImageBuild.Config.Reader
import ImageBuild.Error
import ImageBuild.Text.Utf8

/-!
# Loading configurations

A configuration is loaded from a text or from a file. Whatever goes wrong is a configuration error.
-/

namespace ImageBuild

/-- The configuration that a document holds. -/
def Config.parse (document : String) : Except BuildError Config :=
  match Config.ofJson? document with
  | .ok config => .ok config
  | .error fault => .error (.config (.malformed document fault))

/-- The configuration in the file that a path leads to. -/
def Config.load (fs : FileSystem) (cwd : Place) (path : String) : Except BuildError Config :=
  match fs.readBytes cwd path with
  | .error fault => .error (.config (.unreadable path fault))
  | .ok bytes =>
    match Text.Utf8.decode? bytes with
    | .error _ => .error (.config (.unreadable path .notText))
    | .ok document => Config.parse document

end ImageBuild
