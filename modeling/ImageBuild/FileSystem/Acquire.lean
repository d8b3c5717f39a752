import ImageBuild.FileSystem.Resolve
import ImageBuild.Text.Quoted

/-!
# Acquiring directories

A directory that something is done in is resolved first, with a report that says what went wrong.
-/

namespace ImageBuild

/-- The place of the directory that the path of a text leads to, or the frames of a report. -/
def FileSystem.acquireDir (fs : FileSystem) (cwd : Place) (path : String) :
    Except (List String) Place :=
  let frame := "acquire_dir_path(dir_path_str: " ++ Text.quoted path ++ ")"
  match fs.canonical cwd path with
  | .error fault => .error [fault.message, frame]
  | .ok place =>
    if fs.isDirAt place then .ok place else .error [frame ++ " -> is not a directory"]

end ImageBuild
