import ImageBuild.FileSystem.Edit
import ImageBuild.Git.Commit
import ImageBuild.Git.Ignore

/-!
# Files of repositories

A workspace has files and the repositories among them. `Repository.stage` takes files into the index,
and `Workspace.transfer?` changes the files from one snapshot to another one if nothing of value is
lost by that.
-/

namespace ImageBuild.Git

/-- Files and the repositories among them. -/
structure Workspace where
  files : FileSystem
  repositories : List Repository

/-! ## Paths -/

/-- A choice of paths: a path with everything below it, or a glob. -/
structure PathChoice where
  path : List Name
  isGlob : Bool

/-- Whether a path is chosen. -/
def PathChoice.holds (choice : PathChoice) (path : List Name) : Bool :=
  choice.path.isPrefixOf path ||
    choice.isGlob && globMatches (relativeText choice.path).toList (relativeText path).toList

namespace Repository

/-- The names of a path from the root of a repository, given one seen from a directory below it. -/
def pathOf? (r : Repository) (dir : Place) (text : String) : Option (List Name) :=
  match ((Path.ofPlace dir).join (Path.ofText text)).names? with
  | none => none
  | some place => if r.root.isPrefixOf place then some (place.drop r.root.length) else none

/-- The choice that a text makes, seen from a directory. -/
def choice? (r : Repository) (dir : Place) (text : String) : Option PathChoice :=
  (r.pathOf? dir text).map fun path => ⟨path, isGlob text⟩

/-- The choices that texts make; none if one of them leads out of the repository. -/
def choices? (r : Repository) (dir : Place) (texts : List String) : Option (List PathChoice) :=
  texts.mapM (r.choice? dir)

/-! ## Taking files in -/

/-- Whether a path lies in the directory of the repository's own files, or in another repository. -/
def isForeign (r : Repository) (files : FileSystem) (path : List Name) : Bool :=
  path.contains ".git" || (List.range path.length).any fun k =>
    k ≠ 0 && (files.lookup (r.root ++ path.take k ++ [".git"])).isSome

/-- The entry that a node becomes at a path. -/
def entryOf? (r : Repository) (path : List Name) (node : Node) : Option IndexEntry :=
  match node with
  | .file content mode time =>
    let before :=
      match r.index.lookup path with
      | some ⟨.file _ executable, _, _⟩ => executable
      | _ => false
    some ⟨.file content (if r.minds then mode &&& 0o100 != 0 else before), some time, false⟩
  | .link target => some ⟨.link target, none, false⟩
  | _ => none

/-- Puts an entry at a path. A directory there gives way, and so does a file on the way. -/
def putEntry (r : Repository) (path : List Name) (entry : IndexEntry) : Repository :=
  let others := r.index.filter fun (p, _) => !p.isPrefixOf path && !path.isPrefixOf p
  { r with
    index := others ++ [(path, entry)]
    conflicts := r.conflicts.filter (· ≠ path) }

/-- Takes a path out of the index. -/
def dropEntry (r : Repository) (path : List Name) : Repository :=
  { r with
    index := r.index.filter fun (p, _) => p ≠ path
    conflicts := r.conflicts.filter (· ≠ path) }

/-- Takes in the present state of a tracked path. -/
def refresh (r : Repository) (files : FileSystem) (path : List Name) : Repository :=
  match (files.lookup (r.root ++ path)).bind (r.entryOf? path), r.index.lookup path with
  | none, entry => if entry.any (·.assumed) then r else r.dropEntry path
  | some now, none => r.putEntry path now
  | some now, some entry =>
    if entry.assumed then r
    else if r.observed files path entry = some entry.tracked then
      r.putEntry path { entry with time := now.time }
    else r.putEntry path now

/-- The tracked paths, also the disputed ones. -/
def tracked (r : Repository) : List (List Name) :=
  r.index.map (·.1) ++ r.conflicts

/-- The files that are not tracked and are not those of another repository. -/
def untracked (r : Repository) (files : FileSystem) : List (List Name) :=
  files.nodes.filterMap fun (place, node) =>
    match FileSystem.relative? r.root place, Tracked.ofNode? node with
    | some path, some _ =>
      if r.tracked.contains path || r.isForeign files path then none else some path
    | _, _ => none

/-- Takes in the present state of all tracked files that are chosen, and the chosen files that are
not ignored unless told otherwise. -/
def stage (r : Repository) (files : FileSystem) (chosen : List Name → Bool)
    (withUntracked withIgnored : Bool) : Repository :=
  let known := r.tracked.filter chosen
  let fresh :=
    if withUntracked then
      (r.untracked files).filter fun p => chosen p && (withIgnored || !r.ignores files p)
    else []
  (known ++ fresh).foldl (fun r p => r.refresh files p) r

/-- The index of a snapshot, with the entries that stay the same. -/
def indexOf (r : Repository) (s : Snapshot) : Index :=
  s.map fun (path, tracked) =>
    match r.index.lookup path with
    | some entry => if entry.tracked = tracked then (path, entry) else (path, ⟨tracked, none, false⟩)
    | none => (path, ⟨tracked, none, false⟩)

/-- The tracked files as they are in the directory. -/
def workingSnapshot (r : Repository) (files : FileSystem) : Snapshot :=
  r.index.filterMap fun (path, entry) =>
    (r.observed files path entry).map fun tracked => (path, tracked)

end Repository

/-! ## Changing files -/

/-- Takes away the empty directories among the ones a path lies in, deepest one first. -/
def pruneDirs (files : FileSystem) (root : Place) : List Name → FileSystem
  | path =>
    (List.range path.length).reverse.foldl (fun files k =>
      let dir := root ++ path.take k
      if k ≠ 0 && files.isDirAt dir && files.below dir = [] then files.erase dir else files) files

/-- Puts a tracked file where it is tracked, or takes it away. -/
def placeFile (files : FileSystem) (root : Place) (path : List Name) :
    Option Tracked → FileSystem
  | none =>
    if files.isDirAt (root ++ path) then files
    else pruneDirs (files.erase (root ++ path)) root path
  | some tracked =>
    let files := (List.range path.length).foldl (fun files k =>
      let place := root ++ path.take k
      if files.isDirAt place then files else files.erase place) files
    match files.makeDirs root (path.dropLast.map .name) with
    | .error _ => files
    | .ok files =>
      let place := root ++ path
      let files := if files.isDirAt place then files.erase place else files
      match tracked with
      | .link target => files.insert place (.link target)
      | .file content executable =>
        files.insert place (.file content (if executable then 0o755 else 0o644) Time.epoch)

namespace Workspace

/-- Replaces the repository of a root, or adds it. -/
def update (w : Workspace) (r : Repository) : Workspace :=
  { w with repositories := w.repositories.filter (fun s => s.root ≠ r.root) ++ [r] }

/-! ### Files of the repository's own -/

/-- The name of a commit in a text, with blanks behind it. -/
def commitName? (text : String) : Option String :=
  let cs := text.toList
  let digits := cs.take 40
  if digits.length = 40 && digits.all (fun c => c.isDigit || ('a' ≤ c && c ≤ 'f')) &&
      (cs.drop 40).head?.all isMessageBlank then some (String.ofList digits) else none

/-- What the file `HEAD` says is checked out. -/
def headOf? (text : String) : Option Head :=
  let start := "ref:".toList
  if start.isPrefixOf text.toList then
    let target := (text.toList.drop start.length).dropWhile isMessageBlank
    let target := (target.reverse.dropWhile isMessageBlank).reverse
    let branches := "refs/heads/".toList
    if branches.isPrefixOf target then
      some (.branch (String.ofList (target.drop branches.length)))
    else none
  else (commitName? text).map .detached

/-- Takes in what stands in the files of a repository's own. It is none any more if these say nothing
of what is checked out. -/
def reread (files : FileSystem) (r : Repository) : Option Repository :=
  let texts := files.nodes.filterMap fun (place, node) =>
    match FileSystem.relative? (r.root ++ [".git"]) place, node with
    | some path, .file content _ _ => some (path, Text.Utf8.decodeLossy content)
    | _, _ => none
  let r := texts.foldl (fun r (path, text) =>
    match path with
    | "refs" :: "heads" :: name =>
      let name := "/".intercalate name
      let others := r.branches.filter fun (n, _) => n ≠ name
      { r with branches := others ++ ((commitName? text).map fun id => (name, id)).toList }
    | "refs" :: "tags" :: name =>
      let name := "/".intercalate name
      let others := r.tags.filter fun t => t.name ≠ name
      { r with tags := others ++ ((commitName? text).map fun id => Tag.mk name id none).toList }
    | _ => r) r
  match texts.lookup ["HEAD"] with
  | none => some r
  | some text => (headOf? text).map fun head => { r with head := head }

/-- Takes in what was written to the files of the repositories' own. -/
def absorb (w : Workspace) : Workspace :=
  let own (place : Place) (node : Node) : Bool :=
    w.repositories.any fun r =>
      match FileSystem.relative? (r.root ++ [".git"]) place, node with
      | some ["HEAD"], .file .. => true
      | some ("refs" :: _), .file .. => true
      | _, _ => false
  { files := ⟨w.files.nodes.filter fun (place, node) => !own place node⟩
    repositories := w.repositories.filterMap (reread w.files) }

/-- Whether a change of a tracked file would lose something: what is staged, or what stands in the
directory. -/
def blocks (w : Workspace) (r : Repository) (path : List Name) (old new : Option Tracked) : Bool :=
  match r.index.lookup path with
  | some entry =>
    if some entry.tracked = new then false
    else if some entry.tracked != old then true
    else
      match r.observed w.files path { entry with assumed := false } with
      | none => w.files.isDirAt (r.root ++ path)
      | some now => now != entry.tracked
  | none =>
    if new.isSome && old.isSome then true
    else if w.files.isDirAt (r.root ++ path) then
      (r.untracked w.files).any fun p => path.isPrefixOf p && !r.ignores w.files p
    else (w.files.lookup (r.root ++ path)).isSome && !r.ignores w.files path

/-- Changes the files that differ between two snapshots, and their index entries. Nothing is changed
if something would be lost by that. -/
def transfer? (w : Workspace) (r : Repository) (old new : Snapshot) :
    Option (Workspace × Repository) :=
  let paths := ((old ++ new).map (·.1)).eraseDups.filter fun p => old.lookup p != new.lookup p
  if r.conflicts ≠ [] || paths.any fun p => w.blocks r p (old.lookup p) (new.lookup p) then none
  else
    let paths := paths.filter fun p => (r.index.lookup p).map (·.tracked) != new.lookup p
    let (gone, kept) := paths.partition fun p => (new.lookup p).isNone
    let files := (gone ++ kept).foldl (fun files p => placeFile files r.root p (new.lookup p)) w.files
    let others := r.index.filter fun (p, _) => !paths.contains p
    let entries := (new.filter fun (p, _) => paths.contains p).map fun (p, tracked) =>
      (p, IndexEntry.mk tracked none false)
    some ({ w with files := files }, { r with index := others ++ entries })

/-- Gives all tracked files the state of a snapshot. -/
def overwrite (w : Workspace) (r : Repository) (new : Snapshot) : Workspace × Repository :=
  let gone := r.tracked.filter fun p => (new.lookup p).isNone
  let changed := new.filter fun (p, tracked) =>
    match r.index.lookup p with
    | some entry =>
      entry.tracked != tracked ||
        r.observed w.files p { entry with assumed := false } != some tracked ||
        entry.time.any fun time =>
          match w.files.lookup (r.root ++ p) with
          | some (.file _ _ now) => now != time
          | _ => false
    | none => true
  let files := gone.foldl (fun files p => placeFile files r.root p none) w.files
  let files := changed.foldl (fun files (p, tracked) => placeFile files r.root p (some tracked)) files
  let same := r.index.filter fun (p, _) => !gone.contains p && (changed.lookup p).isNone
  let entries := changed.map fun (p, tracked) => (p, IndexEntry.mk tracked none false)
  ({ w with files := files },
    { r with index := same ++ entries, conflicts := [], pending := none })

/-- Gives files at some paths the state of a snapshot. -/
def restore (w : Workspace) (r : Repository) (source : Snapshot) (chosen : List Name → Bool) :
    Workspace × Repository :=
  let lost := source.filter fun (p, tracked) =>
    chosen p && (r.index.lookup p).bind (fun entry => r.observed w.files p entry) != some tracked
  let files := lost.foldl (fun files (p, tracked) => placeFile files r.root p (some tracked)) w.files
  let index := r.index.map fun (p, entry) =>
    if (lost.lookup p).isSome then (p, { entry with time := none }) else (p, entry)
  ({ w with files := files }, { r with index := index })

end Workspace

end ImageBuild.Git
