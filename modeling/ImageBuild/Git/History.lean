import ImageBuild.Git.Repository

/-!
# History

The commits of a repository form a graph by their parents. `Repository.nearestTag?` searches it from
a commit on, level by level, for the tag that the fewest commits separate from that commit, and
`Repository.describe?` describes what is checked out by that tag.
-/

namespace ImageBuild.Git.Repository

/-! ## Ancestors -/

/-- Adds commits and all their ancestors to some commits found. The first argument bounds the number
of steps. -/
def collect (r : Repository) : Nat → List String → List String → List String
  | 0, _, found => found
  | _, [], found => found
  | fuel + 1, id :: rest, found =>
    if found.contains id then r.collect fuel rest found
    else r.collect fuel (rest ++ r.parents id) (found ++ [id])

/-- How many steps a walk through all commits may take. -/
def stepLimit (r : Repository) : Nat :=
  r.commits.foldl (fun n c => n + c.parents.length + 1) 2

/-- A commit and all its ancestors, nearest ones first. -/
def ancestors (r : Repository) (id : String) : List String :=
  r.collect r.stepLimit [id] []

/-- Whether a commit is another one or an ancestor of it. -/
def isAncestor (r : Repository) (old new : String) : Bool :=
  (r.ancestors new).contains old

/-- A common ancestor of two commits that no other common ancestor descends from. -/
def mergeBase? (r : Repository) (a b : String) : Option String :=
  let common := (r.ancestors a).filter (r.ancestors b).contains
  common.find? fun id => common.all fun other => other == id || !r.isAncestor id other

/-- The commits that lead from one commit to another one, which are ancestors of the second but not
of the first, oldest first. -/
def between (r : Repository) (old new : String) : List String :=
  let known := r.ancestors old
  ((r.ancestors new).filter fun id => !known.contains id).reverse

/-! ## Tags -/

/-- The tag that describes a commit best: an annotated one, and the first by its name. -/
def tagOf? (r : Repository) (id : String) : Option Tag :=
  let candidates := (r.tags.filter fun t => t.target == id).mergeSort
    fun a b => decide (a.name ≤ b.name)
  match candidates.find? (·.note.isSome) with
  | some t => some t
  | none => candidates.head?

/-- A tag found on a search, with the commits it was found from and how many other commits were
seen. -/
structure Candidate where
  tag : Tag
  /-- Commits known to be the tagged one or its ancestors. -/
  covered : List String
  depth : Nat

/-- A search for tags: the commits to look at, those met, and the tags found. -/
structure Search where
  queue : List String
  met : List String
  candidates : List Candidate
  seen : Nat

/-- Passes what is known of a commit on to its parents, and looks at those next that are new. -/
def Search.descend (r : Repository) (s : Search) (id : String) : Search :=
  (r.parents id).foldl (fun s parent =>
    { s with
      queue := if s.met.contains parent then s.queue else s.queue ++ [parent]
      met := if s.met.contains parent then s.met else s.met ++ [parent]
      candidates := s.candidates.map fun c =>
        if c.covered.contains id then { c with covered := parent :: c.covered } else c }) s

/-- The most tags that a search compares. -/
def candidateLimit : Nat := 10

/-- How many commits have a tag. -/
def taggedCount (r : Repository) : Nat :=
  ((r.tags.map (·.target)).eraseDups).length

/-- The candidates of the least depth. -/
def Search.best (s : Search) : List Candidate :=
  match (s.candidates.map (·.depth)).min? with
  | none => []
  | some least => s.candidates.filter fun c => c.depth == least

/-- Looks for tags until enough are found; the first argument bounds the number of commits looked at.
The commit that is not looked at any more then goes to the end of the queue. -/
def Search.run (r : Repository) : Nat → Search → Search
  | 0, s => s
  | fuel + 1, s =>
    match s.queue with
    | [] => s
    | id :: queue =>
      if s.candidates.length = candidateLimit || s.candidates.length = r.taggedCount then
        { s with queue := queue ++ [id] }
      else
        let s := { s with queue := queue, seen := s.seen + 1 }
        let candidates :=
          match r.tagOf? id with
          | some t => s.candidates ++ [Candidate.mk t [id] (s.seen - 1)]
          | none => s.candidates
        let s := { s with candidates := candidates.map fun c =>
          if c.covered.contains id then c else { c with depth := c.depth + 1 } }
        if s.candidates.any (·.tag.note.isSome) && queue = [] &&
            s.best.all (·.covered.contains id) then s
        else Search.run r fuel (Search.descend r s id)

/-- Counts the commits left that the best candidate does not cover; the first argument bounds their
number. -/
def Search.complete (r : Repository) (best : Tag) : Nat → Search → Nat
  | 0, s => ((s.candidates.find? fun c => c.tag == best).map (·.depth)).getD 0
  | fuel + 1, s =>
    let candidate := s.candidates.find? fun c => c.tag == best
    let covers (id : String) : Bool := candidate.any (·.covered.contains id)
    let depth := (candidate.map (·.depth)).getD 0
    match s.queue with
    | [] => depth
    | id :: queue =>
      let s := { s with queue := queue }
      if covers id then
        if queue.all covers then depth else Search.complete r best fuel (Search.descend r s id)
      else
        let s := { s with candidates := s.candidates.map fun c =>
          if c.tag == best then { c with depth := c.depth + 1 } else c }
        Search.complete r best fuel (Search.descend r s id)

/-- The nearest tag to a commit and the number of commits that are no ancestors of it. -/
def nearestTag? (r : Repository) (id : String) : Option (Tag × Nat) :=
  match r.tagOf? id with
  | some t => some (t, 0)
  | none =>
    let s := Search.run r r.stepLimit ⟨[id], [id], [], 0⟩
    match s.best with
    | [] => none
    | best :: _ => some (best.tag, Search.complete r best.tag r.stepLimit s)

/-! ## Names and descriptions -/

/-- The name of the branch that is checked out, or `HEAD` if none is. A branch with the name of a
tag is told apart from it. -/
def branchName? (r : Repository) : Option String :=
  let taken (name : String) : Bool := r.tags.any fun t => t.name == name
  match r.head with
  | .detached _ => some "HEAD"
  | .branch name =>
    if (r.branches.lookup name).isNone then none
    else if !taken name then some name
    else if !taken ("heads/" ++ name) then some ("heads/" ++ name)
    else some ("refs/heads/" ++ name)

/-- The length of a short name of a commit. -/
def shortLength (r : Repository) : Nat :=
  ((r.settings.lookup "core.abbrev").bind abbreviation?).getD 7

/-- A short name of a commit, which is longer if other commits begin with it. -/
def shortId (r : Repository) (id : String) : String :=
  let clashes (n : Nat) : Bool := r.commits.any fun c =>
    c.id != id && c.id.toList.take n == id.toList.take n
  let extra := (List.range 40).find? fun k => !clashes (r.shortLength + k)
  String.ofList (id.toList.take (r.shortLength + extra.getD 0))

/-- A description of a commit: by the nearest tag, or by its short name if there is none. -/
def describeCommit (r : Repository) (id : String) : String :=
  match r.nearestTag? id with
  | some (t, 0) => t.name
  | some (t, n) => t.name ++ s!"-{n}-g" ++ r.shortId id
  | none => r.shortId id

/-- A description of what is checked out, with a mark if tracked files differ from it. -/
def describe? (r : Repository) (files : FileSystem) : Option String :=
  r.headId?.map fun id => r.describeCommit id ++ if r.isDirty files then "-dirty" else ""

end ImageBuild.Git.Repository
