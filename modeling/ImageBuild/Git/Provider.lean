import ImageBuild.Command.Host
import ImageBuild.Command.Programs
import ImageBuild.Git.History
import ImageBuild.VersionControl

/-!
# Answers from a repository

Version control is asked by running the program `git` in a directory. The program looks for the
repository that the directory belongs to and writes one line, or fails.
-/

namespace ImageBuild.Git

/-- The answer of the program: a line, or a failure. -/
def answerLine : Option String → Outcome
  | some line => Programs.written (Text.Utf8.encode (line ++ "\n"))
  | none => Programs.failure 128 "fatal: ambiguous argument 'HEAD'\n"

/-- The answer about what is checked out. If nothing is, the name may be that of a file. -/
def answerHead (i : Invocation) (answer : Option String) : Outcome :=
  if i.dir.getLast? = some ".git" || (i.files.lookup (i.dir ++ ["HEAD"])).isSome then answerLine (some (answer.getD "HEAD"))
  else answerLine answer

/-- The program that answers queries about repositories. -/
def program (repositories : List Repository) : Program := fun i =>
  match repositoryOf? repositories i.dir with
  | none =>
    Programs.failure 128
      "fatal: not a git repository (or any of the parent directories): .git\n"
  | some r =>
    if !r.isSound then Programs.failure 128 "fatal: bad config\n"
    else
      match i.args with
      | ["rev-parse", "-q", "--abbrev-ref", "HEAD"] => answerHead i r.branchName?
      | ["rev-parse", "-q", "HEAD"] => answerHead i r.headId?
      | ["describe", "--always", "--dirty", "--tags"] =>
        if r.tracksIn i.dir then answerLine (r.describe? i.files)
        else Programs.failure 128 "fatal: this operation must be run in a work tree\n"
      | _ => Programs.failure 1 "git: not a command\n"

/-- The command that asks a query. -/
def commandText : Query → String
  | .branch => "git rev-parse -q --abbrev-ref HEAD"
  | .revision => "git rev-parse -q HEAD"
  | .description => "git describe --always --dirty --tags"

/-- How a failed query is reported. -/
def queryFrame (query : Query) (top : String) : String :=
  let name :=
    match query with
    | .branch => "current_branch"
    | .revision => "current_revision"
    | .description => "describe_revision"
  "Git::" ++ name ++ "(top: " ++ Text.quoted top ++ ")"

/-- Asks a query about a directory by running a command on a host. -/
def ask (host : Host) (query : Query) (top : String) : Except Frames String :=
  match host.capture (commandText query) [] top with
  | .ok text => .ok text
  | .error frames => .error (frames ++ [queryFrame query top])

/-- The provider that runs commands on a host. -/
def provider {σ : Type} (host : Host) : Provider σ where
  answer := fun s query top => (s, ask host query top)

end ImageBuild.Git
