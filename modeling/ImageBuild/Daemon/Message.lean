import ImageBuild.Daemon.Basic

/-!
# Messages of a daemon

The documents in the bodies of replies to a build and a push. Unknown members are passed over, known
ones are checked even if nothing is done with them.

Messages come as a stream of documents, one on a line. A line that breaks off is continued by the
next one, once before the stream is known to have ended; what is left over then is a fault.
-/

namespace ImageBuild

open Json

/-- A message of a build. -/
structure BuildMessage where
  /-- Output of the build. -/
  text : Option String
  error : Option String
  /-- The identifier of the image. -/
  id : Option String
  deriving DecidableEq, Repr

/-- A message of a push. -/
structure PushMessage where
  status : Option String
  progress : Option String
  error : Option String
  deriving DecidableEq, Repr

/-- A field that may be absent or null. -/
def optionalField {α β : Type} (name : String) (value : List Char → Reading β)
    (keep : α → Option β → α) : RecordField α :=
  .of name .optional (readOptional value) keep

/-- A field that may be absent or null, and is checked only. -/
def checkedField {α β : Type} (name : String) (value : List Char → Reading β) : RecordField α :=
  .checked name .optional (readOptional value)

/-- The identifier of a built image, as a document writes it. -/
def imageIdShape : Shape (Option String) where
  title := "struct ImageId"
  fields := [optionalField "ID" readText fun _ x => x]
  empty := none

/-- The progress of a step, as a document writes it. -/
def progressShape : Shape Unit where
  title := "struct ProgressDetail"
  fields := [checkedField "current" readInteger64, checkedField "total" readInteger64]
  empty := ()

/-- The details of an error, as a document writes them. -/
def errorDetailShape : Shape Unit where
  title := "struct ErrorDetail"
  fields := [checkedField "code" readInteger64, checkedField "message" readText]
  empty := ()

/-- A message of a build, as a document writes it. -/
def BuildMessage.shape : Shape BuildMessage where
  title := "struct BuildInfo"
  fields := [
    checkedField "id" readText,
    optionalField "stream" readText fun m x => { m with text := x },
    optionalField "error" readText fun m x => { m with error := x },
    checkedField "errorDetail" (readRecord errorDetailShape),
    checkedField "status" readText,
    checkedField "progress" readText,
    checkedField "progressDetail" (readRecord progressShape),
    optionalField "aux" (readRecord imageIdShape) fun m x => { m with id := x.join }]
  empty := ⟨none, none, none⟩

/-- A message of a push, as a document writes it. -/
def PushMessage.shape : Shape PushMessage where
  title := "struct PushImageInfo"
  fields := [
    optionalField "error" readText fun m x => { m with error := x },
    optionalField "status" readText fun m x => { m with status := x },
    optionalField "progress" readText fun m x => { m with progress := x },
    checkedField "progressDetail" (readRecord progressShape)]
  empty := ⟨none, none, none⟩

/-! ## Streams -/

/-- The frame of a stream that ends within a document. -/
def leftoverFrame : String := "bytes remaining on stream"

/-- The frame of a message with an error. -/
def streamErrorFrame : String := "Docker stream error"

/-- The documents of a stream up to the first fault. `ended` says whether the stream is known to
have ended. The first argument bounds the number of lines. -/
def documentsFrom {α : Type} (value : List Char → Reading α) :
    Nat → (ended : Bool) → List Char → List (Except Frames α)
  | 0, _, _ => []
  | fuel + 1, ended, text =>
    if text = [] then []
    else
      let line := text.takeWhile (· ≠ '\n')
      let rest := (text.dropWhile (· ≠ '\n')).drop 1
      let continued : List (Except Frames α) :=
        if !ended then documentsFrom value fuel true (line ++ rest)
        else if line ++ rest = [] then []
        else [.error [leftoverFrame]]
      match readWhole (readOptional value) line with
      | .ok (some x) => .ok x :: documentsFrom value fuel ended rest
      | .ok none => continued
      | .error fault =>
        match fault.cause.kind with
        | .unfinished => continued
        | .mismatched => [.error [mismatchFrame (String.ofList line) fault]]
        | .malformed => [.error [fault.message line]]

/-- The documents of a stream. -/
def documents {α : Type} (value : List Char → Reading α) (body : String) :
    List (Except Frames α) :=
  documentsFrom value (body.length + 2) false body.toList

/-- A message without an error; one with an error ends its stream with a report. -/
def refuseError {α : Type} (error? : α → Option String) :
    Except Frames α → Except Frames α
  | .error frames => .error frames
  | .ok message => if (error? message).isSome then .error [streamErrorFrame] else .ok message

/-- The messages of a build in the body of a reply. -/
def BuildMessage.ofBody (body : String) : List (Except Frames BuildMessage) :=
  (documents (readRecord BuildMessage.shape) body).map (refuseError (·.error))

/-- The messages of a push in the body of a reply. -/
def PushMessage.ofBody (body : String) : List (Except Frames PushMessage) :=
  (documents (readRecord PushMessage.shape) body).map (refuseError (·.error))

end ImageBuild
