import ImageBuild.Backend.Basic
import ImageBuild.Daemon.Description

/-!
# The backend of a daemon

Every operation of a backend becomes one request to a daemon, a build without an identifier in its
messages two. A build and a push follow the messages of their reply: output is forwarded up to the
first failure, and the first failure is the result. The identifier of an image is the last one that
a message gives; only if none does, the daemon is asked about the reference that was built.
-/

namespace ImageBuild

/-- Follows the messages of a build, given the last identifier seen: the output, and the last
identifier or the first failure. -/
def BuildMessage.follow (id : Option String) :
    List (Except Frames BuildMessage) → List Output × Except Frames (Option String)
  | [] => ([], .ok id)
  | .error frames :: _ => ([], .error (frames ++ ["error while building image"]))
  | .ok message :: rest =>
    let written : List Output := (message.text.map (Output.lines .stdout)).toList
    match message.error with
    | some error => (written, .error ["image build failed: " ++ error])
    | none =>
      let (output, result) := follow (message.id.or id) rest
      (written ++ output, result)

/-- The line of a message of a push, if it has one. -/
def PushMessage.line? (message : PushMessage) : Option String :=
  message.status.map fun status =>
    match message.progress with
    | none => status
    | some progress => status ++ " " ++ progress

/-- Follows the messages of a push of a reference: the output, and the first failure if there is
one. -/
def PushMessage.follow (reference : String) :
    List (Except Frames PushMessage) → List Output × Except Frames Unit
  | [] => ([], .ok ())
  | .error frames :: _ => ([], .error (frames ++ ["error while pushing image"]))
  | .ok message :: rest =>
    match message.error with
    | some error => ([], .error ["push of " ++ reference ++ " failed: " ++ error])
    | none =>
      let written : List Output := (message.line?.map (Output.line .stdout)).toList
      let (output, result) := follow reference rest
      (written ++ output, result)

namespace Daemon

/-- A result with another frame on its report. -/
def framed {α : Type} (frame : String) : Except Frames α → Except BackendFault α
  | .ok x => .ok x
  | .error frames => .error (.failed (frames ++ [frame]))

/-- A result whose report is complete. -/
def reported {α : Type} : Except Frames α → Except BackendFault α
  | .ok x => .ok x
  | .error frames => .error (.failed frames)

/-- The request to build an archived directory. -/
def buildRequest (archive : Archive) (reference : String) : Request :=
  { Request.new .post "/build" [("dockerfile", dockerfileName), ("rm", "true"), ("t", reference)]
    with context := some archive }

/-- The request about the image of a reference. -/
def inspectRequest (reference : String) : Request :=
  .plain .get ("/images/" ++ reference ++ "/json")

/-- The request to give an image another reference. -/
def tagRequest (id repository tag : String) : Request :=
  .new .post ("/images/" ++ id ++ "/tag") [("repo", repository), ("tag", tag)]

/-- The request to push a reference. -/
def pushRequest (repository tag : String) : Request :=
  .new .post ("/images/" ++ repository ++ "/push") [("tag", tag)]

/-- The request for all images that are not intermediate. -/
def listRequest : Request :=
  .new .get "/images/json" [("all", "false")]

/-- The request to remove a reference. -/
def removeRequest (reference : String) : Request :=
  .new .delete ("/images/" ++ reference) [("force", "false"), ("noprune", "false")]

/-- Asks for the identifier of the image of a reference. -/
def inspect (daemon : Daemon) (reference : String) : Daemon × Except BackendFault String :=
  let frame := "image built without id"
  match daemon.exchange (inspectRequest reference) with
  | (daemon, .error frames) => (daemon, .error (.failed (frames ++ [frame])))
  | (daemon, .ok body) =>
    match readBodyOf (Json.readRecord descriptionShape) body with
    | .error frames => (daemon, .error (.failed (frames ++ [frame])))
    | .ok none => (daemon, .error (.failed [frame]))
    | .ok (some id) => (daemon, .ok id)

/-- What a reply streams: the messages in its body, or why there is none. -/
def streamed {α : Type} (ofBody : String → List (Except Frames α)) :
    Except Frames String → List (Except Frames α)
  | .error frames => [.error frames]
  | .ok body => ofBody body

/-- Concludes a build whose stream has some items. -/
def concludeBuild (daemon : Daemon) (reference : String)
    (items : List (Except Frames BuildMessage)) : Answer Daemon String :=
  match BuildMessage.follow none items with
  | (output, .error frames) => ⟨daemon, output, .error (.failed frames)⟩
  | (output, .ok (some id)) => ⟨daemon, output, .ok id⟩
  | (output, .ok none) =>
    let (daemon, result) := daemon.inspect reference
    ⟨daemon, output, result⟩

/-- Sends an archive to be built under a reference. -/
def buildArchive (daemon : Daemon) (archive : Archive) (reference : String) :
    Answer Daemon String :=
  let (daemon, reply) := daemon.exchange (buildRequest archive reference)
  daemon.concludeBuild reference (streamed BuildMessage.ofBody reply)

/-- Archives a directory and has it built under a reference. -/
def build (daemon : Daemon) (dir : BuildDir) (reference : String) : Answer Daemon String :=
  match (dir.files.archive dir.cwd dir.path).2 with
  | .error fault => ⟨daemon, [], .error (.failed (fault.frames dir.path))⟩
  | .ok archive => daemon.buildArchive archive reference

/-- Gives an image another reference. -/
def tag (daemon : Daemon) (id repository tag : String) : Answer Daemon Unit :=
  let (daemon, reply) := daemon.exchange (tagRequest id repository tag)
  let frame := "failed to tag " ++ id ++ " as " ++ repository ++ ":" ++ tag
  ⟨daemon, [], framed frame (reply.map fun _ => ())⟩

/-- Concludes a push whose stream has some items. -/
def concludePush (daemon : Daemon) (repository tag : String)
    (items : List (Except Frames PushMessage)) : Answer Daemon Unit :=
  let (output, result) := PushMessage.follow (repository ++ ":" ++ tag) items
  ⟨daemon, output, reported result⟩

/-- Pushes a reference. -/
def push (daemon : Daemon) (repository tag : String) : Answer Daemon Unit :=
  let (daemon, reply) := daemon.exchange (pushRequest repository tag)
  daemon.concludePush repository tag (streamed PushMessage.ofBody reply)

/-- Finds the image created last among those with a reference that matches a pattern. -/
def find (daemon : Daemon) (pattern : Pattern) : Answer Daemon (Option Image) :=
  let (daemon, reply) := daemon.exchange listRequest
  let images := reply.bind (readBodyOf (Json.readList (Json.readRecord Image.shape)))
  ⟨daemon, [], framed "failed to list images" (images.map (Image.latest? pattern))⟩

/-- Removes a reference. -/
def remove (daemon : Daemon) (reference : String) : Answer Daemon Unit :=
  let (daemon, reply) := daemon.exchange (removeRequest reference)
  let removed := reply.bind (readBodyOf (Json.readList (Json.readRecord removalShape)))
  ⟨daemon, [], framed ("failed to remove " ++ reference) (removed.map fun _ => ())⟩

/-- The backend of a daemon. -/
def backend : Backend Daemon where
  build := build
  tag := tag
  push := push
  find := find
  removeReference := remove

end Daemon

end ImageBuild
