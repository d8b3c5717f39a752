import ImageBuild.FileSystem.Resolve
import ImageBuild.Git.Snapshot

/-!
# Repositories

A repository belongs to a directory, its root. It has commits, each with its parents, and branches
and tags that point to them. `Repository.head` is the branch or the commit that is checked out; a
branch without commits is possible. The index lists the tracked files as the next commit will hold
them.
-/

namespace ImageBuild.Git

/-- Who makes commits, and when. -/
structure Identity where
  name : String
  email : String
  seconds : Nat
  deriving DecidableEq, Repr

/-- A commit, by its name in hexadecimal digits. -/
structure Commit where
  id : String
  parents : List String
  snapshot : Snapshot
  /-- Its message, which ends in a line feed unless it is empty. -/
  message : String
  author : Identity

/-- What is checked out. -/
inductive Head
  | branch (name : String)
  | detached (id : String)
  deriving DecidableEq, Repr

/-- The name of what is checked out. -/
def Head.name : Head → String
  | .branch name => name
  | .detached id => id

/-- A name for a commit. An annotated one is an object of its own, with a message. -/
structure Tag where
  name : String
  target : String
  note : Option String
  deriving DecidableEq, Repr

/-- A tracked file in the index. -/
structure IndexEntry where
  tracked : Tracked
  /-- The time that the file had when it was last looked into. A file of the same time and the same
  size is taken to be the same. -/
  time : Option Time
  /-- Whether the file in the directory counts as it stands in the index, whatever it is. -/
  assumed : Bool
  deriving DecidableEq

/-- The tracked files by their paths. -/
abbrev Index := List (List Name × IndexEntry)

/-- What was begun and waits for its commit. -/
inductive Undertaking
  | merge
  | pick
  | revert
  deriving DecidableEq, Repr

/-- A change that was begun and waits for its commit: the further parents of the commit, its message,
and its author if that is not the one who commits. -/
structure Pending where
  undertaking : Undertaking
  parents : List String
  message : String
  author : Option Identity
  deriving DecidableEq, Repr

/-- Changes that were put aside: the commit they were made on and the files as they were in the index
and in the directory. -/
structure Shelf where
  base : String
  index : Snapshot
  files : Snapshot

/-- A repository. -/
structure Repository where
  root : Place
  head : Head
  branches : List (String × String)
  tags : List Tag
  index : Index
  /-- The paths whose content is disputed. -/
  conflicts : List (List Name)
  pending : Option Pending
  commits : List Commit
  shelves : List Shelf
  /-- The names of the branches and commits that were left for others, last one first. -/
  departures : List String
  /-- The commits that were checked out, last one first. -/
  visited : List String
  /-- The commit that was checked out before the last great change. -/
  origin : Option String
  settings : List (String × String)

namespace Repository

/-- A repository without commits. -/
def new (root : Place) (branch : String) : Repository where
  root := root
  head := .branch branch
  branches := []
  tags := []
  index := []
  conflicts := []
  pending := none
  commits := []
  shelves := []
  departures := []
  visited := []
  origin := none
  settings := []

/-- The name of the commit that is checked out. -/
def headId? (r : Repository) : Option String :=
  match r.head with
  | .branch name => r.branches.lookup name
  | .detached id => some id

/-- The commit of a name. -/
def commit? (r : Repository) (id : String) : Option Commit :=
  r.commits.find? fun c => c.id == id

/-- The parents of a commit. -/
def parents (r : Repository) (id : String) : List String :=
  ((r.commit? id).map (·.parents)).getD []

/-- The snapshot of a commit. -/
def snapshotOf (r : Repository) (id : String) : Snapshot :=
  ((r.commit? id).map (·.snapshot)).getD []

/-- The snapshot that is checked out. -/
def headSnapshot (r : Repository) : Snapshot :=
  (r.headId?.map r.snapshotOf).getD []

/-- What the next commit will hold. -/
def staged (r : Repository) : Snapshot :=
  r.index.map fun (path, entry) => (path, entry.tracked)

/-- What stands in the directory of the repository where a path is tracked. -/
def workingFile? (r : Repository) (files : FileSystem) (path : List Name) : Option Tracked :=
  (files.lookup (r.root ++ path)).bind Tracked.ofNode?

/-! ## Settings -/

/-- The truth that a setting states. -/
def truth? (text : String) : Option Bool :=
  let word := text.toLower
  if ["true", "yes", "on"].contains word then some true
  else if ["false", "no", "off", ""].contains word then some false
  else text.toInt?.map (· ≠ 0)

/-- The length that a setting gives to short names of commits: all digits, or some of them. -/
def abbreviation? (text : String) : Option Nat :=
  if text.toLower = "auto" then some 7
  else if ["false", "no", "off", ""].contains text.toLower then some 40
  else
    match text.toNat? with
    | some n => if 4 ≤ n && n ≤ 40 then some n else none
    | none => none

/-- Whether a setting holds; `usual` says whether it does when it is not set. -/
def holds (r : Repository) (name : String) (usual : Bool) : Bool :=
  match r.settings.lookup name with
  | none => usual
  | some text => (truth? text).getD usual

/-- Whether the settings can be read. No command works if they cannot. -/
def isSound (r : Repository) : Bool :=
  r.settings.all fun (name, text) =>
    if name = "core.abbrev" then (abbreviation? text).isSome
    else if ["core.filemode", "core.bare", "core.ignorecase", "core.symlinks",
        "core.trustctime"].contains name then (truth? text).isSome
    else true

/-- Whether a directory belongs to the files that the repository tracks. It does not if it lies among
the repository's own files. -/
def tracksIn (r : Repository) (dir : Place) : Bool :=
  !r.holds "core.bare" false && (dir.drop r.root.length).head? != some ".git"

/-- Whether the permissions to run a file matter. -/
def minds (r : Repository) : Bool := r.holds "core.filemode" true

/-! ## The state of files -/

/-- A time from which on a file is always looked into: it cannot be told from the time at which the
index is written. -/
def recent : Int := 1800000000

/-- What a file in the directory counts as: it has the content of its index entry if it is not looked
into, and its permissions if those do not matter. -/
def observed (r : Repository) (files : FileSystem) (path : List Name) (entry : IndexEntry) :
    Option Tracked :=
  if entry.assumed then some entry.tracked
  else
    match files.lookup (r.root ++ path) with
    | some (.file content mode time) =>
      let executable := mode &&& 0o100 != 0
      match entry.tracked with
      | .file before executableBefore =>
        let looksSame := entry.time == some time && time.seconds < recent &&
          before.length == content.length
        some (.file (if looksSame then before else content)
          (if r.minds then executable else executableBefore))
      | .link _ => some (.file content executable)
    | node => node.bind Tracked.ofNode?

/-- The index after a look into the tracked files: those that turn out to be the same are known by
their present times. -/
def noticed (r : Repository) (files : FileSystem) : Repository :=
  { r with index := r.index.map fun (path, entry) =>
      match files.lookup (r.root ++ path) with
      | some (.file _ _ time) =>
        if !entry.assumed && r.observed files path entry = some entry.tracked then
          (path, { entry with time := some time })
        else (path, entry)
      | _ => (path, entry) }

/-- Whether tracked files differ from the commit that is checked out. -/
def isDirty (r : Repository) (files : FileSystem) : Bool :=
  !r.staged.same r.headSnapshot || r.conflicts != [] ||
    r.index.any fun (path, entry) => r.observed files path entry != some entry.tracked

end Repository

/-- The repository that a directory belongs to: the one with the longest root above it. -/
def repositoryOf? (repositories : List Repository) (dir : Place) : Option Repository :=
  (repositories.filter fun r => r.root.isPrefixOf dir).foldl (fun best r =>
    match best with
    | none => some r
    | some b => if b.root.length ≤ r.root.length then some r else some b) none

end ImageBuild.Git
