import ImageBuild.Archive.Basic
import ImageBuild.Daemon.Target
import ImageBuild.Error
import ImageBuild.Json.Record

/-!
# A container daemon

A daemon is asked by requests and gives a reply to each one, with a status and a body. Its state
lists the replies that it is going to give and the requests that were made. `Daemon.exchange` makes
a request and hands on the body of its reply; a reply with another status than a successful one
becomes a report.
-/

namespace ImageBuild

/-- What a request does. -/
inductive Method
  | get
  | post
  | delete
  deriving DecidableEq, Repr

/-- How a method is called. -/
def Method.name : Method → String
  | .get => "GET"
  | .post => "POST"
  | .delete => "DELETE"

/-- A request to a daemon. -/
structure Request where
  method : Method
  /-- The path, as the daemon sees it. -/
  path : String
  query : List (String × String)
  /-- The archive that is sent along, if there is one. -/
  context : Option Archive

/-- A request to an address, with a query instead of the one that is part of the address. -/
def Request.new (method : Method) (address : String) (query : List (String × String)) : Request :=
  ⟨method, Target.seen address, query, none⟩

/-- A request to an address with the query that is part of it. -/
def Request.plain (method : Method) (address : String) : Request :=
  ⟨method, Target.seen address, Target.query address, none⟩

/-- A reply of a daemon. -/
structure Reply where
  status : Nat
  body : String
  deriving DecidableEq, Repr

/-- The frame of a document that holds something else than expected. -/
def mismatchFrame (document : String) (fault : Json.Fault) : String :=
  "Failed to deserialize JSON: " ++ fault.message document.toList

/-- The frame of a document that can not be read. -/
def documentFrame (document : String) (fault : Json.Fault) : String :=
  match fault.cause.kind with
  | .unfinished => fault.message document.toList
  | _ => mismatchFrame document fault

namespace Reply

/-- Whether a reply says that its request was carried out. -/
def isSuccess (reply : Reply) : Bool :=
  (200 ≤ reply.status && reply.status < 300) || reply.status == 101 || reply.status == 304

/-- Whether a status is one of a final reply. -/
def isFinal (reply : Reply) : Bool :=
  reply.status == 101 || (200 ≤ reply.status && reply.status < 1000)

/-- The body that is read of a reply: some replies never have one. -/
def content (reply : Reply) : String :=
  if reply.status = 101 || reply.status = 204 || reply.status = 304 then "" else reply.body

/-- The explanation in the body of a refusal, as a document writes it. -/
def explanationShape : Json.Shape String where
  title := "struct DockerServerErrorMessage"
  fields := [.of "message" .required Json.readText fun _ s => s]
  empty := ""

/-- The frame of a refusal: its explanation if the body is a document with one, the body itself if
it is something else. Nothing explains a refusal whose body breaks off. -/
def refusalFrame (reply : Reply) : String :=
  let frame (explanation : String) : String :=
    s!"Docker responded with status code {reply.status}: " ++ explanation
  if reply.content = "" then frame ""
  else
    match Json.readDocument explanationShape reply.content.toList with
    | .ok explanation => frame explanation
    | .error fault =>
      match fault.cause.kind with
      | .unfinished => fault.message reply.content.toList
      | _ => frame reply.content

end Reply

/-- A daemon: the replies that it still gives, and the requests made to it. -/
structure Daemon where
  replies : List Reply
  requests : List Request

namespace Daemon

/-- The frame of a request that gets no reply. -/
def silenceFrame : String := "client error (SendRequest)"

/-- Makes a request; the body of the reply to it. -/
def exchange (daemon : Daemon) (request : Request) : Daemon × Except Frames String :=
  let requests := daemon.requests ++ [request]
  match daemon.replies with
  | [] => (⟨[], requests⟩, .error [silenceFrame])
  | reply :: replies =>
    (⟨replies, requests⟩,
      if !reply.isFinal then .error [silenceFrame]
      else if reply.isSuccess then .ok reply.content
      else .error [reply.refusalFrame])

end Daemon

end ImageBuild
