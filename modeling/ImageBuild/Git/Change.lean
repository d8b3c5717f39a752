import ImageBuild.Git.Arguments
import ImageBuild.Git.Combine

/-!
# Changing repositories

`Workspace.execute` follows the commands that make repositories, commits, branches and tags, that
check out commits and that combine histories. A command that fails or is not known changes nothing.
-/

namespace ImageBuild.Git.Workspace

/-- The options that take a message. -/
def messageOptions : List String := ["m", "message"]

/-! ## Repositories and the index -/

/-- Makes a repository in a directory. -/
def init (w : Workspace) (dir : Place) (args : List String) : Workspace :=
  let a := Arguments.read ["b", "initial-branch"] args
  let branch := (a.value? ["b", "initial-branch"]).getD "master"
  let make (w : Workspace) (dir : Place) : Workspace :=
    if (w.repositories.any fun r => r.root == dir) || !isRefName branch then w
    else
      let own := [] :: ["branches", "hooks", "info", "objects", "refs"].map ([·])
      let w := { w with
        files := own.foldl (fun files path =>
          files.insert (dir ++ ".git" :: path) (.dir defaultDirMode)) w.files }
      w.update (.new dir branch)
  match a.plain with
  | [] => make w dir
  | path :: _ =>
    match w.files.makeDirs dir (Path.ofText path).steps with
    | .error _ => w
    | .ok files =>
      match files.resolve dir path with
      | .error _ => w
      | .ok place => make { w with files := files } place

/-- Takes files into the index. A path that names nothing makes the command fail. -/
def add (w : Workspace) (r : Repository) (dir : Place) (args : List String) : Workspace :=
  let a := Arguments.read ["chmod"] args
  let everything := a.has ["A", "all"]
  let texts := a.all
  match r.choices? dir texts with
  | none => w
  | some choices =>
    let force := a.has ["f", "force"]
    let known := r.tracked ++ r.untracked w.files
    let names (choice : PathChoice) : Bool :=
      choice.path = [] || (w.files.lookup (r.root ++ choice.path)).isSome || known.any choice.holds
    if a.has ["n", "dry-run"] || (texts = [] && !everything && !a.has ["u", "update"]) ||
        !choices.all names then w
    else
      let chosen (p : List Name) : Bool := texts = [] || choices.any (·.holds p)
      let r := r.stage w.files chosen (!a.has ["u", "update"]) force
      match a.value? ["chmod"] with
      | none => w.update r
      | some mode =>
        let executable := mode == "+x"
        w.update { r with index := r.index.map fun (p, entry) =>
          match entry.tracked with
          | .file content _ =>
            if chosen p then (p, { entry with tracked := .file content executable }) else (p, entry)
          | .link _ => (p, entry) }

/-- Takes tracked files out of the index and away. -/
def remove (w : Workspace) (r : Repository) (dir : Place) (args : List String) : Workspace :=
  let a := Arguments.read [] args
  match r.choices? dir a.all with
  | none => w
  | some choices =>
    let gone := r.tracked.filter fun p => choices.any (·.holds p)
    let matched (choice : PathChoice) : Bool := r.tracked.any choice.holds
    let deep := choices.any fun choice =>
      r.tracked.any fun p => choice.path.isPrefixOf p && choice.path.length < p.length
    let cached := a.has ["cached"]
    let changed := gone.any fun p =>
      match r.index.lookup p with
      | none => false
      | some entry =>
        let staged := r.headSnapshot.lookup p != some entry.tracked
        match r.observed w.files p entry with
        | none => false
        | some now =>
          let edited := now != entry.tracked
          if cached then staged && edited else staged || edited
    if a.all = [] || a.has ["n", "dry-run"] || (deep && !a.has ["r"]) ||
        (changed && !a.has ["f", "force"]) ||
        (!a.has ["ignore-unmatch"] && !choices.all matched) then w
    else
      let files :=
        if cached then w.files
        else gone.foldl (fun files p => placeFile files r.root p none) w.files
      { w with files := files }.update (gone.foldl (fun r p => r.dropEntry p) r)

/-- Gives a path another start. -/
def rebased (source target path : List Name) : List Name := target ++ path.drop source.length

/-- Moves a file or a directory with what is tracked there. -/
def moveOne (w : Workspace) (r : Repository) (force : Bool) (source target : List Name) :
    Option (Workspace × Repository) :=
  let place := r.root ++ source
  let goal := r.root ++ target
  let tracked := r.index.any fun (p, _) => source.isPrefixOf p
  if source = [] || !tracked || (w.files.lookup place).isNone || source.isPrefixOf target ||
      !w.files.isDirAt goal.dropLast ||
      ((w.files.lookup goal).isSome && (!force || w.files.isDirAt goal || w.files.isDirAt place)) then
    none
  else
    let nodes := (w.files.erase goal).nodes.map fun (p, node) =>
      if place.isPrefixOf p then (goal ++ p.drop place.length, node) else (p, node)
    let index := (r.index.filter fun (p, _) => p ≠ target).map fun (p, entry) =>
      if source.isPrefixOf p then (rebased source target p, entry) else (p, entry)
    some ({ w with files := ⟨nodes⟩ }, { r with index := index })

/-- Moves files and directories, into a directory if there are several or if the goal is one. -/
def move (w : Workspace) (r : Repository) (dir : Place) (args : List String) : Workspace :=
  let a := Arguments.read [] args
  match a.all.reverse with
  | goal :: first :: more =>
    match r.pathOf? dir goal, ((first :: more).reverse.mapM (r.pathOf? dir)) with
    | some target, some sources =>
      let into := w.files.isDirAt (r.root ++ target)
      if a.has ["n", "dry-run"] || (!into && more ≠ []) || (!into && goal.endsWith "/") then w
      else
        let moved := sources.foldl (fun state source => state.bind fun (w, r) =>
          let goal := if into then target ++ source.getLast?.toList else target
          match moveOne w r (a.has ["f", "force"]) source goal with
          | some state => some state
          | none => if a.has ["k"] then some (w, r) else none) (some (w, r))
        match moved with
        | some (w, r) => w.update r
        | none => w
    | _, _ => w
  | _ => w

/-- Changes entries of the index directly. -/
def updateIndex (w : Workspace) (r : Repository) (dir : Place) (args : List String) : Workspace :=
  let a := Arguments.read ["cacheinfo"] args
  let chmod := a.value? ["chmod"]
  w.update (a.all.foldl (fun r text =>
    match r.pathOf? dir text with
    | none => r
    | some path =>
      let r := if a.has ["force-remove"] then r.dropEntry path else r
      let known := (r.index.lookup path).isSome
      let present := (r.workingFile? w.files path).isSome
      let plain := !a.has ["assume-unchanged", "no-assume-unchanged", "skip-worktree",
        "no-skip-worktree", "force-remove"]
      let r :=
        if plain && ((known && (present || a.has ["remove"])) || (present && a.has ["add"])) then
          r.refresh w.files path
        else r
      match r.index.lookup path with
      | none => r
      | some entry =>
        let tracked :=
          match chmod, entry.tracked with
          | some mode, .file content _ => Tracked.file content (mode == "+x")
          | _, tracked => tracked
        let assumed :=
          if a.has ["assume-unchanged", "skip-worktree"] then true
          else if a.has ["no-assume-unchanged", "no-skip-worktree"] then false
          else entry.assumed
        { r with index := r.index.map fun (p, e) =>
          if p = path then (p, ⟨tracked, e.time, assumed⟩) else (p, e) }) r)

/-! ## Commits and tags -/

/-- The author that an option names. -/
def authorOf (who : Identity) (text : String) : Option Identity :=
  let cs := text.toList
  let name := cs.takeWhile (· ≠ '<')
  match cs.drop name.length with
  | _ :: rest =>
    let email := rest.takeWhile (· ≠ '>')
    some { who with
      name := String.ofList (name.reverse.dropWhile isMessageBlank).reverse
      email := String.ofList email }
  | [] => none

/-- The message of a commit by its options: given texts, a file, or the message of another commit. -/
def messageOf (w : Workspace) (r : Repository) (dir : Place) (a : Arguments) : Option String :=
  match a.values messageOptions with
  | [] =>
    match a.value? ["F", "file"] with
    | some path =>
      match w.files.readBytes dir path with
      | .ok bytes => some (Text.Utf8.decodeLossy bytes)
      | .error _ => none
    | none =>
      match (a.value? ["C", "reuse-message"]).bind fun name => (r.revision? name).bind r.commit? with
      | some c => some c.message
      | none =>
        if !a.has ["no-edit"] then none
        else if a.has ["amend"] then (r.headId?.bind r.commit?).map (·.message)
        else r.pending.map (·.message)
  | texts => some (paragraphs texts)

/-- Whether a commit would hold something new. -/
def isWorthwhile (r : Repository) (staged : Snapshot) (amend : Bool) : Bool :=
  if amend then
    match r.headId?.map r.parents with
    | some [parent] => !staged.same (r.snapshotOf parent)
    | some [] => staged != []
    | _ => true
  else
    match r.headId? with
    | some _ => !staged.same r.headSnapshot || r.pending.any (·.parents ≠ [])
    | none => staged != []

/-- Commits, after taking in changes of tracked files if asked to. With paths, only their files
change. -/
def commit (w : Workspace) (who : Identity) (r : Repository) (dir : Place) (args : List String) :
    Workspace :=
  let a := Arguments.read (messageOptions ++ ["F", "file", "C", "reuse-message", "author", "date",
    "c", "t", "template", "cleanup", "fixup", "squash", "trailer"]) args
  let w := if a.all = [] && !a.has ["a", "all"] then w.update r else w
  let amend := a.has ["amend"]
  let r := if a.has ["a", "all"] then r.stage w.files (fun _ => true) false false else r
  match r.choices? dir a.all with
  | none => w
  | some choices =>
    let chosen (p : List Name) : Bool := choices.any (·.holds p)
    let only := a.all ≠ [] && !a.has ["i", "include"]
    let head := r.headSnapshot
    let r := if a.all = [] then r else r.stage w.files chosen false false
    let gone := (head.map (·.1)).filter fun p => only && chosen p && !r.tracked.contains p
    let r := gone.foldl (fun r p => r.refresh w.files p) r
    let snapshot :=
      if only then
        (head.filter fun (p, _) => !chosen p) ++ r.staged.filter fun (p, _) => chosen p
      else r.staged
    let matched := !only || choices.all fun choice =>
      r.tracked.any choice.holds || head.any fun (p, _) => choice.holds p
    match messageOf w r dir a with
    | none => w
    | some message =>
      let message := cleanMessage message
      let message :=
        if a.has ["s", "signoff"] then
          message ++ "\nSigned-off-by: " ++ who.name ++ " <" ++ who.email ++ ">\n"
        else message
      let current := r.headId?.bind r.commit?
      if r.conflicts ≠ [] || !matched || (message = "" && !a.has ["allow-empty-message"]) ||
          (amend && (current.isNone || r.pending.any (·.undertaking ≠ .revert))) || a.has ["dry-run"] ||
          (!a.has ["allow-empty"] && !isWorthwhile r snapshot amend) then w
      else
        let kept := if amend then current.map (·.author) else r.pending.bind (·.author)
        let before := if a.has ["reset-author"] then who else kept.getD who
        let author := ((a.value? ["author"]).bind (authorOf before)).getD before
        let parents :=
          if amend then (current.map (·.parents)).getD []
          else r.headId?.toList ++ (r.pending.map (·.parents)).getD []
        w.update (r.addCommit who author parents snapshot message)

/-- Names a commit. -/
def tag (w : Workspace) (r : Repository) (dir : Place) (args : List String) : Workspace :=
  let a := Arguments.read (messageOptions ++ ["F", "file", "u", "local-user", "n", "sort", "format",
    "contains", "points-at", "merged", "no-merged", "no-contains", "cleanup"]) args
  let names := r.tags.map (·.name)
  if a.has ["d", "delete"] then
    w.update { r with tags := r.tags.filter fun t => !a.all.contains t.name }
  else if a.has ["l", "list", "n", "contains", "points-at", "merged", "no-merged", "v", "verify",
      "s", "sign", "u", "local-user"] then w
  else
    match a.all with
    | name :: rest =>
      let message := (messageOf w r dir a).map cleanMessage
      let annotated := a.has (["a", "annotate", "F", "file"] ++ messageOptions)
      match r.revision? (rest.headD "HEAD") with
      | none => w
      | some id =>
        let force := a.has ["f", "force"]
        if rest.length > 1 || !isRefName name || (names.contains name && !force) ||
            !fitsBeside name (names.filter (· ≠ name)) ||
            (annotated && message.isNone) then w
        else
          w.update { r with
            tags := r.tags.filter (fun t => t.name ≠ name) ++
              [⟨name, id, if annotated then message else none⟩] }
    | [] => w

/-! ## Branches -/

/-- The names of the branches, with the one that is checked out. -/
def branchNames (r : Repository) : List String :=
  r.branches.map (·.1)

/-- Whether a name may become that of a branch. -/
def isNewBranch (r : Repository) (name : String) : Bool :=
  isRefName name && name != "HEAD" &&
    fitsBeside name ((branchNames r).filter (· ≠ name))

/-- Points a branch to a commit. -/
def setBranch (r : Repository) (name id : String) : Repository :=
  { r with branches := r.branches.filter (fun (n, _) => n ≠ name) ++ [(name, id)] }

/-- The name of the branch that is checked out. -/
def currentBranch? (r : Repository) : Option String :=
  match r.head with
  | .branch name => some name
  | .detached _ => none

/-- Gives a branch another name, or copies it. -/
def renameBranch (r : Repository) (old new : String) (force copies : Bool) : Option Repository :=
  let taken := (r.branches.lookup new).isSome && old != new
  let others := (branchNames r).filter fun n => n != old || copies
  if !isRefName new || new = "HEAD" || !fitsBeside new (others.filter (· ≠ new)) ||
      (taken && !force) || (taken && currentBranch? r = some new) then none
  else
    match r.branches.lookup old with
    | some id =>
      let r := if copies then r else { r with branches := r.branches.filter fun (n, _) => n ≠ old }
      let r := setBranch r new id
      some (if currentBranch? r = some old && !copies then { r with head := .branch new } else r)
    | none =>
      if currentBranch? r = some old && !copies then some { r with head := .branch new } else none

/-- Makes, moves, renames and removes branches. -/
def branch (w : Workspace) (r : Repository) (args : List String) : Workspace :=
  let a := Arguments.read ["u", "set-upstream-to", "sort", "format", "contains", "no-contains",
    "merged", "no-merged", "points-at"] args
  let done (r : Option Repository) : Workspace := (r.map w.update).getD w
  if a.has ["d", "D", "delete"] then
    let force := a.has ["D", "f", "force"]
    w.update (a.all.foldl (fun r name =>
      match r.branches.lookup name with
      | none => r
      | some id =>
        let merged := r.headId?.any fun head => r.isAncestor id head
        if currentBranch? r = some name || (!force && !merged) then r
        else { r with branches := r.branches.filter fun (n, _) => n ≠ name }) r)
  else if a.has ["m", "M", "move", "c", "C", "copy"] then
    let force := a.has ["M", "C", "f", "force"]
    let copies := a.has ["c", "C", "copy"]
    match a.all with
    | [new] => done ((currentBranch? r).bind fun old => renameBranch r old new force copies)
    | [old, new] => done (renameBranch r old new force copies)
    | _ => w
  else if a.has ["l", "list", "show-current", "contains", "merged", "no-merged", "points-at", "a", "r",
      "v", "u", "set-upstream-to", "unset-upstream", "edit-description"] then w
  else
    match a.all with
    | name :: rest =>
      match r.revision? (rest.headD "HEAD") with
      | none => w
      | some id =>
        let taken := (r.branches.lookup name).isSome
        if rest.length > 1 || !isNewBranch r name ||
            (taken && (!a.has ["f", "force"] || currentBranch? r = some name)) then w
        else w.update (setBranch r name id)
    | [] => w

/-! ## Checking out -/

/-- Gives the files and the index the state of a commit. Unless that is forced, nothing is changed if
something would be lost by it. -/
def changed? (w : Workspace) (r : Repository) (id : String) (force : Bool) :
    Option (Workspace × Repository) :=
  let r := r.noticed w.files
  if force then some (w.overwrite r (r.snapshotOf id))
  else w.transfer? r r.headSnapshot (r.snapshotOf id)

/-- Checks out a commit with its files. -/
def checkOut (w : Workspace) (r : Repository) (id : String) (head : Head) (force : Bool) : Workspace :=
  match w.changed? r id force with
  | some (w, r) => w.update (r.attach head)
  | none => w

/-- Gives the files the state of the commit that is checked out if that is forced. -/
def checkOutAgain (w : Workspace) (r : Repository) (id : String) (force : Bool) : Workspace :=
  if force then
    let (w, r) := w.overwrite (r.noticed w.files) (r.snapshotOf id)
    w.update { r with pending := none }
  else w

/-- Checks out a new branch. -/
def checkOutNew (w : Workspace) (r : Repository) (name : String) (start : Option String)
    (replace force : Bool) : Workspace :=
  let taken := (r.branches.lookup name).isSome
  if !isNewBranch r name || (taken && !replace) || (r.conflicts ≠ [] && !force) then w
  else
    match r.revision? (start.getD "HEAD") with
    | some id =>
      let branched := setBranch r name id
      if start.isNone && !force then
        w.update ({ branched with branches := branched.branches }.attach (.branch name))
      else
        match w.changed? r id force with
        | some (w, r) => w.update ((setBranch r name id).attach (.branch name))
        | none => w
    | none => if start.isNone && r.headId?.isNone then w.update { r with head := .branch name } else w

/-- Gives chosen files their state in the index or in a commit again. A path that names nothing makes
the command fail. -/
def checkOutFiles (w : Workspace) (r : Repository) (source : Option String) (choices : List PathChoice)
    : Workspace :=
  let snapshot := (source.map r.snapshotOf).getD r.staged
  let chosen (p : List Name) : Bool := choices.any (·.holds p)
  if !choices.all (fun choice => snapshot.any fun (p, _) => choice.holds p) ||
      (source.isNone && r.conflicts.any chosen) then w
  else
    let r :=
      if source.isNone then r
      else
        let entries := snapshot.filter fun (p, _) => chosen p
        entries.foldl (fun r (p, tracked) =>
          match r.index.lookup p with
          | some entry => if entry.tracked = tracked then r else r.putEntry p ⟨tracked, none, false⟩
          | none => r.putEntry p ⟨tracked, none, false⟩) r
    let (w, r) := w.restore r snapshot chosen
    w.update r

/-- Checks out a branch, a commit or files. `strict` allows branches only, unless told otherwise. -/
def switch (w : Workspace) (r : Repository) (dir : Place) (strict : Bool) (args : List String) :
    Workspace :=
  let create := if strict then ["c", "create"] else ["b"]
  let recreate := if strict then ["C", "force-create"] else ["B"]
  let a := Arguments.read (create ++ recreate ++ ["orphan", "conflict"]) args
  let force := a.has ["f", "force", "discard-changes"]
  if strict && r.pending.isSome then w
  else
  match a.value? ["orphan"], a.value? create, a.value? recreate with
  | some name, _, _ =>
    if !isNewBranch r name || (r.branches.lookup name).isSome || r.conflicts ≠ [] then w
    else if strict then
      match w.transfer? r r.headSnapshot [] with
      | some (w, r) => w.update { r with head := .branch name, pending := none }
      | none => w
    else
      match a.plain with
      | [] => w.update { r with head := .branch name, pending := none }
      | start :: _ =>
        match r.revision? start with
        | none => w
        | some id =>
          match w.transfer? r r.headSnapshot (r.snapshotOf id) with
          | some (w, r) => w.update { r with head := .branch name, pending := none }
          | none => w
  | none, some name, _ => checkOutNew w r name (a.plain.head?.map r.expandDash) false force
  | none, none, some name => checkOutNew w r name (a.plain.head?.map r.expandDash) true force
  | none, none, none =>
    let detach := a.has ["detach", "d"]
    let files (source : Option String) (texts : List String) : Workspace :=
      match r.choices? dir texts with
      | some choices => checkOutFiles w r source choices
      | none => w
    match a.plain, a.behind with
    | [], some texts => if strict then w else files none texts
    | name :: _, some (text :: texts) =>
      match r.revision? (r.expandDash name) with
      | some id => if strict then w else files (some id) (text :: texts)
      | none => w
    | [], none =>
      match r.headId? with
      | none => w
      | some id =>
        if detach then w.checkOut r id (.detached id) force
        else w.checkOutAgain r id force
    | name :: rest, _ =>
      let name := r.expandDash name
      match r.revision? name with
      | none =>
        if strict || a.behind.isSome then w else files none (name :: rest)
      | some id =>
        if rest ≠ [] then if strict then w else files (some id) rest
        else
          let head : Head :=
            if detach then .detached id
            else
              if (r.branches.lookup name).isSome then .branch name else .detached id
          let id := match head with
            | .branch name => (r.branches.lookup name).getD id
            | .detached id => id
          if strict && !detach && head = .detached id then w
          else if name = "HEAD" && !detach then w.checkOutAgain r id force
          else w.checkOut r id head force

/-- Gives files their state in the index or in a commit again, in the directory or in the index. -/
def restoreFiles (w : Workspace) (r : Repository) (dir : Place) (args : List String) : Workspace :=
  let a := Arguments.read ["s", "source"] args
  let staged := a.has ["S", "staged"]
  let working := !staged || a.has ["W", "worktree"]
  let source := (a.value? ["s", "source"]).map r.revision?
  match r.choices? dir a.all, source with
  | none, _ => w
  | _, some none => w
  | some choices, source =>
    let snapshot :=
      match source.join with
      | some id => r.snapshotOf id
      | none => if staged then r.headSnapshot else r.staged
    let chosen (p : List Name) : Bool := choices.any (·.holds p)
    let known (choice : PathChoice) : Bool :=
      snapshot.any (fun (p, _) => choice.holds p) || r.tracked.any choice.holds
    if choices = [] || !choices.all known then w
    else
      let paths := (snapshot.map (·.1) ++ r.tracked).eraseDups.filter chosen
      let goneFiles := paths.filter fun p =>
        (snapshot.lookup p).isNone && (r.index.lookup p).isSome
      let r :=
        if !staged then r
        else
          paths.foldl (fun r p =>
            match snapshot.lookup p with
            | none => r.dropEntry p
            | some tracked =>
              if (r.index.lookup p).any fun entry => entry.tracked = tracked then r
              else r.putEntry p ⟨tracked, none, false⟩) r
      if !working then w.update r
      else
        let w := { w with
          files := goneFiles.foldl (fun files p => placeFile files r.root p none) w.files }
        let (w, r) := w.restore r snapshot chosen
        w.update r

/-- Moves what is checked out to a commit, and the index and the files with it. -/
def reset (w : Workspace) (r : Repository) (dir : Place) (args : List String) : Workspace :=
  let a := Arguments.read [] args
  let (name, texts) :=
    match a.plain with
    | [] => ("HEAD", a.behind.getD [])
    | name :: rest =>
      if (r.revision? name).isSome || a.behind.isSome then (name, rest ++ a.behind.getD [])
      else ("HEAD", a.plain)
  let target := r.revision? name
  let new := (target.map r.snapshotOf).getD []
  if texts ≠ [] then
    match r.choices? dir texts with
    | none => w
    | some choices =>
      let names (choice : PathChoice) : Bool :=
        choice.isGlob || (w.files.lookup (r.root ++ choice.path)).isSome
      let doubtful := a.behind.isNone && texts = a.plain && !(choices.head?.any names)
      if doubtful then w
      else
      let chosen (p : List Name) : Bool := choices.any (·.holds p)
      if a.has ["hard", "soft", "keep", "merge"] then w
      else
        let others := r.index.filter fun (p, _) => !chosen p
        let entries := r.indexOf (new.filter fun (p, _) => chosen p)
        w.update { r with
          index := others ++ entries
          conflicts := r.conflicts.filter fun p => !chosen p }
  else
    match target with
    | none =>
      if r.headId?.isNone && a.plain = [] then
        if a.has ["hard"] then
          let (w, r) := w.overwrite r []
          w.update r
        else if a.has ["soft"] then w
        else w.update { r with index := [], conflicts := [] }
      else w
    | some id =>
      let moved (r : Repository) : Repository := { r with origin := r.headId?, pending := none }.moveHead id
      if a.has ["soft"] then
        if r.pending.any (·.undertaking = .merge) || r.conflicts ≠ [] then w else w.update (moved r)
      else if a.has ["hard"] then
        let (w, r) := w.overwrite r new
        w.update (moved r)
      else if a.has ["keep", "merge"] then
        match w.transfer? { r with conflicts := [] } r.headSnapshot new with
        | some (w, r) => w.update (moved { r with pending := none })
        | none => w
      else
        let r := moved { r with index := r.indexOf new, conflicts := [] }
        w.update (r.noticed w.files)

/-- Takes away files that are not tracked. -/
def clean (w : Workspace) (r : Repository) (dir : Place) (args : List String) : Workspace :=
  let a := Arguments.read ["e", "exclude"] args
  if !a.has ["f", "force"] || a.has ["n", "dry-run"] then w
  else
    match r.choices? dir a.all with
    | none => w
    | some choices =>
      let tracked := r.tracked
      let gone := (r.untracked w.files).filter fun p =>
        let ignored := r.ignores w.files p
        let wanted := if a.has ["X"] then ignored else a.has ["x"] || !ignored
        let shallow := a.has ["d"] ||
          (List.range p.length).all fun k =>
            k = 0 || tracked.any fun t => (p.take k).isPrefixOf t
        wanted && shallow && (choices = [] || choices.any (·.holds p))
      { w with files := gone.foldl (fun files p => placeFile files r.root p none) w.files }

/-! ## Combining -/

/-- The side that options let win. -/
def winnerOf (a : Arguments) : Option Side :=
  match a.value? ["X", "strategy-option"] with
  | some "ours" => some .ours
  | some "theirs" => some .theirs
  | _ => none

/-- Merges, or gives a merge up. -/
def mergeCommand (w : Workspace) (who : Identity) (r : Repository) (args : List String) : Workspace :=
  let a := Arguments.read (messageOptions ++ ["s", "strategy", "X", "strategy-option", "F", "file"]) args
  if a.has ["abort"] then
    if !r.pending.any (·.undertaking = .merge) then w
    else
      let (w, r) := w.overwrite r r.headSnapshot
      w.update r
  else if a.has ["quit"] then w.update { r with pending := none }
  else if a.has ["continue"] then
    match r.pending with
    | some pending =>
      if r.conflicts ≠ [] || pending.undertaking ≠ .merge then w
      else w.update (closeMerge who r pending.parents (cleanMessage pending.message))
    | none => w
  else
    match a.all with
    | [name] =>
      let message :=
        match a.values messageOptions with
        | [] => none
        | texts => some (paragraphs texts)
      w.merge who r
        { message := message
          fastForward := !a.has ["no-ff"]
          onlyFastForward := a.has ["ff-only"]
          squash := a.has ["squash"]
          commits := !a.has ["no-commit"]
          keepOurs := a.value? ["s", "strategy"] = some "ours"
          unrelated := a.has ["allow-unrelated-histories"]
          winner := winnerOf a } name
    | _ => w

/-- The commits that a text names: one, or those between two, oldest first. -/
def commitsOf (r : Repository) (text : String) : Option (List String) :=
  let text := r.expandDash text
  match Text.split '.' text.toList with
  | [old, [], new] =>
    let name (cs : List Char) : String := if cs = [] then "HEAD" else String.ofList cs
    match r.revision? (name old), r.revision? (name new) with
    | some a, some b => some (r.between a b)
    | _, _ => none
  | _ => (r.revision? text).map ([·])

/-- The repository of a root in its present state. -/
def current (w : Workspace) (root : Place) : Option Repository :=
  w.repositories.find? fun r => r.root == root

/-- Picks or reverts commits one after the other, up to the first one that does not go well. -/
def pickAll (who : Identity) (a : Arguments) (undo : Bool) (root : Place) :
    Workspace → List String → Workspace
  | w, [] => w
  | w, id :: rest =>
    match w.current root with
    | none => w
    | some r =>
      match r.commit? id with
      | none => w
      | some c =>
        let mainline := (a.value? ["m", "mainline"]).bind (·.toNat?)
        let parent :=
          match mainline with
          | some (n + 1) => some (c.parents[n]?)
          | some 0 => none
          | none => if c.parents.length > 1 then none else some c.parents.head?
        match parent with
        | none => w
        | some parent =>
          let message :=
            if undo then
              if c.parents.length > 1 then revertMergeMessage c (parent.getD "") else revertMessage c
            else if a.has ["x"] then
              c.message ++ "\n(cherry picked from commit " ++ id ++ ")\n"
            else c.message
          let message :=
            if a.has ["s", "signoff"] then
              message ++ "\nSigned-off-by: " ++ who.name ++ " <" ++ who.email ++ ">\n"
            else message
          let keeps := a.has ["keep-redundant-commits"] || (a.has ["allow-empty"] &&
            c.snapshot.same ((parent.map r.snapshotOf).getD []))
          let (w, goesOn) := w.pick who r c undo (!a.has ["n", "no-commit"]) parent message
            (if keeps then .keep else .stop) (winnerOf a)
          if goesOn then pickAll who a undo root w rest else w

/-- Picks or reverts the commits that are named, or goes on with or gives up the one begun. -/
def pickCommand (w : Workspace) (who : Identity) (r : Repository) (undo : Bool) (args : List String) :
    Workspace :=
  let a := Arguments.read ["m", "mainline", "X", "strategy-option", "strategy", "cleanup"] args
  let undertaking := if undo then Undertaking.revert else .pick
  if a.has ["abort"] then
    if !r.pending.any (·.undertaking = undertaking) then w
    else
      let (w, r) := w.overwrite r r.headSnapshot
      w.update r
  else if a.has ["quit"] then w.update { r with pending := none }
  else if a.has ["skip"] then
    if !r.pending.any (·.undertaking = undertaking) then w
    else
    let (w, r) := w.overwrite r r.headSnapshot
    w.update r
  else if a.has ["continue"] then
    match r.pending with
    | some pending =>
      if r.conflicts ≠ [] || r.staged.same r.headSnapshot || pending.undertaking ≠ undertaking then w
      else w.update (r.addCommit who who r.headId?.toList r.staged (cleanMessage pending.message))
    | none => w
  else
    match a.all.mapM (commitsOf r) with
    | none => w
    | some ids =>
      let ids := if undo then ids.map List.reverse else ids
      pickAll who a undo r.root w ids.flatten

/-- Makes the commits of a branch again on top of another commit. -/
def rebase (w : Workspace) (who : Identity) (r : Repository) (args : List String) : Workspace :=
  let a := Arguments.read ["onto", "s", "strategy", "X", "strategy-option"] args
  match a.all with
  | upstream :: more =>
    let upstream := r.expandDash upstream
    let w := match more with
      | [] => w
      | name :: _ =>
        match r.branches.lookup name with
        | some id => w.checkOut r id (.branch name) false
        | none => w
    let r := (w.current r.root).getD r
    match r.revision? upstream, r.headId?, r.revision? ((a.value? ["onto"]).getD upstream) with
    | some old, some head, some onto =>
      let clean := isUnstaged r && (r.workingSnapshot w.files).same r.staged
      let picked := (r.between old head).filter fun id => (r.parents id).length ≤ 1
      let linear := (r.between old head).all fun id => (r.parents id).length ≤ 1
      if !clean || r.pending.isSome || (r.isAncestor onto head && onto = old && linear &&
          !a.has ["f", "force-rebase", "no-ff"]) then w
      else
        let before := r.head
        match w.transfer? r r.headSnapshot (r.snapshotOf onto) with
        | none => w
        | some (w, r) =>
          let r := { r with head := .detached onto, origin := some head }
          let w := picked.foldl (fun w id =>
            match w.current r.root with
            | none => w
            | some r =>
              match r.commit? id with
              | none => w
              | some c =>
                if r.conflicts ≠ [] then w
                else
                  let wasEmpty := c.snapshot.same ((c.parents.head?.map r.snapshotOf).getD [])
                  (w.pick who r c false true c.parents.head? c.message
                    (if wasEmpty then .keep else .drop) (winnerOf a)).1) (w.update r)
          match w.current r.root with
          | none => w
          | some r =>
            if r.conflicts ≠ [] then w
            else
              match before, r.headId? with
              | .branch name, some id => w.update { setBranch r name id with head := .branch name }
              | _, _ => w
    | _, _, _ => w
  | [] => w

/-- Puts changes aside and takes them up again. -/
def stash (w : Workspace) (r : Repository) (args : List String) : Workspace :=
  let number (a : Arguments) : Nat :=
    let digits := ((a.all.headD "0").toList.filter Char.isDigit)
    ((String.ofList digits).toNat?).getD 0
  let save (args : List String) : Workspace :=
    let a := Arguments.read messageOptions args
    w.shelve r (a.has ["u", "include-untracked", "a", "all"]) (a.has ["k", "keep-index"])
  match args with
  | "pop" :: rest =>
    let a := Arguments.read [] rest
    w.unshelve r (number a) (a.has ["index"]) true
  | "apply" :: rest =>
    let a := Arguments.read [] rest
    w.unshelve r (number a) (a.has ["index"]) false
  | "drop" :: rest =>
    w.update { r with shelves := r.shelves.eraseIdx (number (Arguments.read [] rest)) }
  | "clear" :: _ => w.update { r with shelves := [] }
  | "push" :: rest => save rest
  | "save" :: rest => save rest
  | [] => save []
  | option :: rest => if option.startsWith "-" then save (option :: rest) else w

/-! ## References and settings -/

/-- The name of a branch by the full name of its reference. -/
def branchOfRef? (name : String) : Option String :=
  if name.startsWith "refs/heads/" then some (String.ofList (name.toList.drop 11)) else none

/-- The name of a tag by the full name of its reference. -/
def tagOfRef? (name : String) : Option String :=
  if name.startsWith "refs/tags/" then some (String.ofList (name.toList.drop 10)) else none

/-- Points `HEAD` to a branch without a look at files. -/
def symbolicRef (w : Workspace) (r : Repository) (args : List String) : Workspace :=
  let a := Arguments.read messageOptions args
  match a.all with
  | ["HEAD", target] =>
    match branchOfRef? target with
    | some name => if isRefName name then w.update { r with head := .branch name } else w
    | none => w
  | _ => w

/-- Points a reference to a commit, or removes it. -/
def updateRef (w : Workspace) (r : Repository) (args : List String) : Workspace :=
  let a := Arguments.read messageOptions args
  match a.all with
  | name :: rest =>
    if a.has ["d"] then
      match branchOfRef? name, tagOfRef? name with
      | some branch, _ =>
        w.update { r with branches := r.branches.filter fun (n, _) => n ≠ branch }
      | none, some tag => w.update { r with tags := r.tags.filter fun t => t.name ≠ tag }
      | none, none => w
    else
      match r.revision? (rest.headD "") with
      | none => w
      | some id =>
        match branchOfRef? name, tagOfRef? name with
        | some branch, _ => w.update (setBranch r branch id)
        | none, some tag =>
          w.update { r with tags := r.tags.filter (fun t => t.name ≠ tag) ++ [⟨tag, id, none⟩] }
        | none, none =>
          if name = "HEAD" then
            w.update (if a.has ["no-deref"] then { r with head := .detached id } else r.moveHead id)
          else w
  | [] => w

/-- Changes a setting. -/
def config (w : Workspace) (r : Repository) (args : List String) : Workspace :=
  let a := Arguments.read ["f", "file", "type", "default"] args
  let args := if a.all.head? = some "set" then a.all.drop 1 else a.all
  if a.has ["global", "system", "f", "file"] then w
  else
    match args with
    | [name, value] =>
      let others := r.settings.filter fun (n, _) => n ≠ name.toLower
      w.update { r with settings := (name.toLower, value) :: others }
    | [name] =>
      if a.has ["unset", "unset-all"] then
        w.update { r with settings := r.settings.filter fun (n, _) => n ≠ name.toLower }
      else w
    | _ => w

/-! ## All commands -/

/-- Follows a command of a repository that is run in a directory. -/
def executeIn (w : Workspace) (who : Identity) (r : Repository) (dir : Place) (name : String)
    (args : List String) : Workspace :=
  match name with
  | "add" | "stage" => w.add r dir args
  | "commit" => w.commit who (r.noticed w.files) dir args
  | "tag" => w.tag r dir args
  | "rm" => w.remove r dir args
  | "mv" => w.move r dir args
  | "checkout" => w.switch r dir false args
  | "switch" => w.switch r dir true args
  | "restore" => w.restoreFiles r dir args
  | "reset" => w.reset r dir args
  | "branch" => w.branch r args
  | "merge" => w.mergeCommand who (r.noticed w.files) args
  | "cherry-pick" => w.pickCommand who (r.noticed w.files) false args
  | "revert" => w.pickCommand who (r.noticed w.files) true args
  | "rebase" => w.rebase who (r.noticed w.files) args
  | "stash" => w.stash (r.noticed w.files) args
  | "clean" => w.clean r dir args
  | "update-index" => w.updateIndex r dir args
  | "symbolic-ref" => w.symbolicRef r args
  | "update-ref" => w.updateRef r args
  | "config" => w.config r args
  | _ => w

/-- Whether a command can be run in a directory: the settings have to be right, and a command that
looks at files needs files that are tracked. -/
def permits (r : Repository) (dir : Place) (name : String) : Bool :=
  if name = "config" then true
  else if ["tag", "branch", "symbolic-ref", "update-ref"].contains name then r.isSound
  else r.isSound && r.tracksIn dir

/-- Follows a command that is run in a directory. -/
def execute (w : Workspace) (who : Identity) : Place → List String → Workspace
  | dir, "-C" :: path :: rest =>
    match w.files.resolve dir path with
    | .ok dir => w.execute who dir rest
    | .error _ => w
  | dir, "-c" :: _ :: rest => w.execute who dir rest
  | dir, "init" :: rest => w.init dir rest
  | dir, name :: rest =>
    if name.startsWith "-" then w.execute who dir rest
    else
      match repositoryOf? w.repositories dir with
      | none => w
      | some r => if permits r dir name then w.executeIn who r dir name rest else w
  | _, [] => w

end ImageBuild.Git.Workspace
