import ImageBuild.Git.Merge
import ImageBuild.Git.Workspace

/-!
# Combining histories

Merging joins the history of another commit to that of the commit that is checked out. Picking a
commit makes its changes again on top of that commit, reverting takes them back, and shelving puts
changes aside. All of them merge three snapshots; disputed files wait for a decision.
-/

namespace ImageBuild.Git.Workspace

/-! ## Three snapshots -/

/-- Applies the changes between two snapshots to what is checked out: the index and the files become
the merged ones, and disputed files get marks. Nothing is changed if something would be lost. -/
def patched? (w : Workspace) (r : Repository) (sides : Sides) (base theirs : Snapshot) :
    Option (Workspace × Repository) :=
  let ours := r.staged
  let merged := Snapshot.merge sides base ours theirs
  let kept := merged.disputes.filterMap fun (p, _) => (ours.lookup p).map fun tracked => (p, tracked)
  let disturbed := merged.disputes.any fun (p, version) =>
    version != ours.lookup p && w.blocks r p (ours.lookup p) version
  if disturbed then none
  else
    (w.transfer? r ours (merged.snapshot ++ kept)).map fun (w, r) =>
      let files := merged.disputes.foldl (fun files (p, version) =>
        if version = ours.lookup p || version = r.workingFile? files p then files else placeFile files r.root p version) w.files
      let paths := merged.disputes.map (·.1)
      ({ w with files := files },
        { r with
          index := r.index.filter fun (p, _) => !paths.contains p
          conflicts := paths })

/-- Whether nothing is staged. -/
def isUnstaged (r : Repository) : Bool :=
  r.staged.same r.headSnapshot && r.conflicts = []

/-! ## Merging -/

/-- How a merge message calls what is merged, and what it adds. -/
def mergedName (r : Repository) (name : String) : String × String :=
  let (plain, early) :=
    match Text.split '~' name.toList with
    | [start, ['0']] => (String.ofList start, false)
    | [start, steps] => (String.ofList start, (String.ofList steps).toNat?.isSome || steps = [])
    | _ =>
      match Text.split '^' name.toList with
      | [start, []] => (String.ofList start, true)
      | _ => (name, false)
  if (r.branches.lookup plain).isSome && !r.tags.any (fun t => t.name == plain) then
    ("branch '" ++ plain ++ "'" ++ if early then " (early part)" else "", "")
  else
    match r.tags.find? fun t => t.name == name with
    | some t => ("tag '" ++ name ++ "'", (t.note.map ("\n" ++ ·)).getD "")
    | none => ("commit '" ++ name ++ "'", "")

/-- The message of a merge without one of its own. -/
def mergeMessage (r : Repository) (name : String) : String :=
  let into :=
    match r.head with
    | .detached _ => " into HEAD"
    | .branch "main" | .branch "master" => ""
    | .branch branch => " into " ++ branch
  let (called, more) := mergedName r name
  "Merge " ++ called ++ into ++ "\n" ++ more

/-- Makes the commit of a merge whose files are in the index. -/
def closeMerge (who : Identity) (r : Repository) (parents : List String) (message : String) :
    Repository :=
  r.addCommit who who (r.headId?.toList ++ parents) r.staged message

/-- Options of a merge. -/
structure MergeOptions where
  message : Option String
  fastForward : Bool
  onlyFastForward : Bool
  squash : Bool
  commits : Bool
  /-- The files stay as they are. -/
  keepOurs : Bool
  unrelated : Bool
  /-- The side that wins where both have changed something. -/
  winner : Option Side

/-- Merges a commit into what is checked out. -/
def merge (w : Workspace) (who : Identity) (r : Repository) (o : MergeOptions) (name : String) :
    Workspace :=
  let name := r.expandDash name
  match r.revision? name with
  | none => w
  | some target =>
    if r.pending.any (·.undertaking ≠ .revert) || r.conflicts ≠ [] then w
    else
      match r.headId? with
      | none =>
        if !o.fastForward || o.squash then w
        else
        match w.transfer? r [] (r.snapshotOf target) with
        | some (w, r) => w.update (r.moveHead target)
        | none => w
      | some head =>
        if r.isAncestor target head then w
        else if r.isAncestor head target && (o.fastForward || o.onlyFastForward) && !o.squash then
          match w.transfer? r (r.snapshotOf head) (r.snapshotOf target) with
          | some (w, r) => w.update ({ r with origin := some head }.moveHead target)
          | none => w
        else if o.onlyFastForward || !isUnstaged r then w
        else
          let base := r.mergeBase? head target
          if base.isNone && !o.unrelated then w
          else
            let theirs := if o.keepOurs then r.staged else r.snapshotOf target
            let sides : Sides := ⟨"HEAD", name, o.winner⟩
            let baseSnapshot :=
              if o.keepOurs then r.staged else (base.map r.snapshotOf).getD []
            match w.patched? r sides baseSnapshot theirs with
            | none => w
            | some (w, r) =>
              let message := (o.message.map cleanMessage).getD (mergeMessage r name)
              let r := { r with origin := some head }
              if o.squash then w.update r
              else if r.conflicts ≠ [] || !o.commits then
                w.update { r with pending := some ⟨.merge, [target], message, none⟩ }
              else w.update (closeMerge who r [target] message)

/-! ## Picking and reverting -/

/-- What becomes of a commit whose changes are there already. -/
inductive WhenEmpty
  | keep
  | drop
  | stop
  deriving DecidableEq, Repr

/-- Applies the changes of a commit on top of what is checked out, or those that undo it. Tells also
whether others may follow. -/
def pick (w : Workspace) (who : Identity) (r : Repository) (commit : Commit) (undo commits : Bool)
    (parent : Option String) (message : String) (whenEmpty : WhenEmpty) (winner : Option Side) :
    Workspace × Bool :=
  let before := (parent.map r.snapshotOf).getD []
  let (base, theirs) := if undo then (commit.snapshot, before) else (before, commit.snapshot)
  let name := String.ofList (commit.id.toList.take r.shortLength) ++ " (" ++ subject commit.message ++ ")"
  let sides : Sides := ⟨"HEAD", if undo then "parent of " ++ name else name, winner⟩
  if commits && !isUnstaged r || r.conflicts ≠ [] then (w, false)
  else
    match w.patched? r sides base theirs with
    | none => (w, false)
    | some (w, r) =>
      let author := if undo then who else commit.author
      let pending := Pending.mk (if undo then .revert else .pick) [] message (some author)
      if r.conflicts ≠ [] then
        (w.update { r with pending := if commits || undo then some pending else none }, false)
      else if !commits then
        (w.update (if undo then { r with pending := some pending } else r), true)
      else if r.staged.same r.headSnapshot && whenEmpty ≠ .keep then
        if whenEmpty = .drop then (w.update r, true)
        else (w.update (if undo then r else { r with pending := some pending }), false)
      else (w.update (r.addCommit who author r.headId?.toList r.staged message), true)

/-- The message of a commit that takes back another one. -/
def revertMessage (commit : Commit) : String :=
  let line := subject commit.message
  let quoted := "Revert \"".toList
  let title :=
    if quoted.isPrefixOf line.toList then
      let inner := line.toList.drop quoted.length
      if quoted.isPrefixOf inner then "Revert \"" ++ line ++ "\""
      else "Reapply \"" ++ String.ofList inner
    else "Revert \"" ++ line ++ "\""
  title ++ "\n\nThis reverts commit " ++ commit.id ++ ".\n"

/-- The message of a commit that takes back a merge. -/
def revertMergeMessage (commit : Commit) (parent : String) : String :=
  "Revert \"" ++ subject commit.message ++ "\"\n\nThis reverts commit " ++ commit.id ++
    ", reversing\nchanges made to " ++ parent ++ ".\n"

/-! ## Shelves -/

/-- Puts the changes of tracked files aside, and files that are not tracked if asked to. -/
def shelve (w : Workspace) (r : Repository) (withUntracked keepIndex : Bool) : Workspace :=
  match r.headId? with
  | none => w
  | some head =>
    let fresh := if withUntracked then
        (r.untracked w.files).filter fun p => !r.ignores w.files p
      else []
    let freshFiles := fresh.filterMap fun p => (r.workingFile? w.files p).map fun tracked => (p, tracked)
    let working := r.workingSnapshot w.files
    if r.conflicts ≠ [] || (r.staged.same r.headSnapshot && working.same r.headSnapshot &&
        fresh = []) then w
    else
      let shelf := Shelf.mk head r.staged (working ++ freshFiles)
      let staged := r.staged
      let w := { w with
        files := fresh.foldl (fun files p => placeFile files r.root p none) w.files }
      let (w, r) := w.overwrite r (if keepIndex then staged else r.headSnapshot)
      w.update { r with shelves := shelf :: r.shelves }

/-- Takes changes that were put aside up again; the shelf goes away if asked to. -/
def unshelve (w : Workspace) (r : Repository) (number : Nat) (withIndex drop : Bool) : Workspace :=
  match r.shelves[number]? with
  | none => w
  | some shelf =>
    let base := r.snapshotOf shelf.base
    let before := r.staged
    let fresh := shelf.files.filter fun (p, _) =>
      (base.lookup p).isNone && (shelf.index.lookup p).isNone
    let files := shelf.files.filter fun (p, _) => (fresh.lookup p).isNone
    if r.conflicts ≠ [] || fresh.any (fun (p, _) => (w.files.lookup (r.root ++ p)).isSome) then w
    else
      match w.patched? r ⟨"Updated upstream", "Stashed changes", none⟩ base files with
      | none => w
      | some (w, r) =>
        let placed := fresh.foldl (fun files (p, tracked) => placeFile files r.root p (some tracked))
          w.files
        let w := { w with files := placed }
        if r.conflicts ≠ [] then w.update r
        else
          let index :=
            if withIndex then r.indexOf shelf.index
            else
              r.index.filterMap fun (p, entry) =>
                match before.lookup p with
                | some tracked => some (p, IndexEntry.mk tracked none false)
                | none => some (p, entry)
          let removed := before.filter fun (p, _) => (r.index.lookup p).isNone
          let index := index ++ if withIndex then [] else
            removed.map fun (p, tracked) => (p, IndexEntry.mk tracked none false)
          let shelves := if drop then r.shelves.eraseIdx number else r.shelves
          w.update { r with index := index, shelves := shelves }

end ImageBuild.Git.Workspace
