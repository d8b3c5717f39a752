import ImageBuild.Git.Repository
import ImageBuild.Text.Split
import ImageBuild.Text.Utf8

/-!
# Names with wildcards and ignored files

A glob is a name in which a star stands for any characters, a question mark for one and brackets for
one of some. Files called `.gitignore` list globs of files that are not taken into a repository: of
those that match a path, the last one counts, and those of a subdirectory count more. What lies in
an ignored directory is ignored.
-/

namespace ImageBuild.Git

/-! ## Globs -/

/-- Whether a character is one of a bracketed set, and what follows the set; `first` says whether a
closing bracket still stands for itself. -/
def inBrackets (c : Char) : (first : Bool) → List Char → Option (Bool × List Char)
  | _, [] => none
  | first, d :: cs =>
    if d = ']' && !first then some (false, cs)
    else
      match d, cs with
      | '\\', e :: cs => (inBrackets c false cs).map fun (found, rest) => (found || c == e, rest)
      | first, '-' :: last :: cs =>
        if last = ']' then
          (inBrackets c false ('-' :: last :: cs)).map fun (found, rest) =>
            (found || c == first, rest)
        else
          (inBrackets c false cs).map fun (found, rest) =>
            (found || (first ≤ c && c ≤ last), rest)
      | _, cs => (inBrackets c false cs).map fun (found, rest) => (found || c == d, rest)
termination_by _ cs => cs.length

/-- Whether a glob matches a text; the first argument bounds the number of steps. -/
def globSteps : Nat → List Char → List Char → Bool
  | 0, _, _ => false
  | _, [], text => text = []
  | fuel + 1, '*' :: glob, [] => globSteps fuel glob []
  | fuel + 1, '*' :: glob, c :: text =>
    globSteps fuel glob (c :: text) || globSteps fuel ('*' :: glob) text
  | _, _ :: _, [] => false
  | fuel + 1, '?' :: glob, _ :: text => globSteps fuel glob text
  | fuel + 1, '[' :: glob, c :: text =>
    let (negated, set) :=
      match glob with
      | '!' :: set => (true, set)
      | '^' :: set => (true, set)
      | set => (false, set)
    match inBrackets c true set with
    | none => false
    | some (found, glob) => found != negated && globSteps fuel glob text
  | fuel + 1, '\\' :: d :: glob, c :: text => d == c && globSteps fuel glob text
  | fuel + 1, d :: glob, c :: text => d == c && globSteps fuel glob text

/-- Whether a glob matches a text. -/
def globMatches (glob text : List Char) : Bool :=
  globSteps (glob.length + text.length + 1) glob text

/-- Whether a text has wildcards. -/
def isGlob (s : String) : Bool :=
  s.toList.any fun c => c == '*' || c == '?' || c == '['

/-- Whether globs match the names of a path, two stars being any number of names. The first argument
bounds the number of steps. -/
def globPathSteps : Nat → List (List Char) → List Name → Bool
  | 0, _, _ => false
  | _, [], names => names = []
  | _, [['*', '*']], names => names ≠ []
  | fuel + 1, ['*', '*'] :: globs, [] => globPathSteps fuel globs []
  | fuel + 1, ['*', '*'] :: globs, name :: names =>
    globPathSteps fuel globs (name :: names) || globPathSteps fuel (['*', '*'] :: globs) names
  | _, _ :: _, [] => false
  | fuel + 1, glob :: globs, name :: names =>
    globMatches glob name.toList && globPathSteps fuel globs names

/-! ## Rules -/

/-- A rule about files that are ignored. -/
structure IgnoreRule where
  /-- The directory that the rule stands in. -/
  base : List Name
  /-- The rule takes back what earlier rules say. -/
  negated : Bool
  directoriesOnly : Bool
  /-- The rule is about paths from its directory on, not about names. -/
  anchored : Bool
  globs : List (List Char)

/-- A line without the blanks at its end that no backslash protects. -/
def trimRule (line : List Char) : List Char :=
  let body := (line.reverse.dropWhile (· == ' ')).reverse
  if body.getLast? = some '\\' && body.length < line.length then body ++ [' '] else body

/-- The rule of a line. -/
def IgnoreRule.ofLine? (base : List Name) (line : List Char) : Option IgnoreRule :=
  let line := if line.getLast? = some '\r' then line.dropLast else line
  match trimRule line with
  | [] => none
  | '#' :: _ => none
  | cs =>
    let (negated, cs) :=
      match cs with
      | '!' :: cs => (true, cs)
      | cs => (false, cs)
    let (directoriesOnly, cs) :=
      if cs.getLast? = some '/' then (true, cs.dropLast) else (false, cs)
    let anchored := cs.contains '/'
    let cs := if cs.head? = some '/' then cs.drop 1 else cs
    if cs = [] then none
    else some ⟨base, negated, directoriesOnly, anchored, Text.split '/' cs⟩

/-- The rules of a file. -/
def rulesOf (base : List Name) (content : List UInt8) : List IgnoreRule :=
  (Text.split '\n' (Text.Utf8.decodeLossy content).toList).filterMap (IgnoreRule.ofLine? base)

/-- Whether a rule matches a path. -/
def IgnoreRule.applies (rule : IgnoreRule) (path : List Name) (isDirectory : Bool) : Bool :=
  rule.base.isPrefixOf path && rule.base.length < path.length &&
    (isDirectory || !rule.directoriesOnly) &&
    if rule.anchored then
      let names := path.drop rule.base.length
      globPathSteps (rule.globs.length + names.length + 1) rule.globs names
    else
      match rule.globs, path.getLast? with
      | [glob], some name => globMatches glob name.toList
      | _, _ => false

namespace Repository

/-- The rules that hold for a path: those of the repository, and those of all directories on the way,
the deepest ones last. -/
def ignoreRules (r : Repository) (files : FileSystem) (path : List Name) : List IgnoreRule :=
  let fileRules (base : List Name) (place : List Name) : List IgnoreRule :=
    match files.lookup (r.root ++ place) with
    | some (.file content _ _) => rulesOf base content
    | _ => []
  fileRules [] [".git", "info", "exclude"] ++
    (List.range path.length).flatMap fun k =>
      fileRules (path.take k) (path.take k ++ [".gitignore"])

/-- Whether a path itself is ignored. -/
def ignoresEntry (r : Repository) (files : FileSystem) (path : List Name) (isDirectory : Bool) :
    Bool :=
  match (r.ignoreRules files path).reverse.find? fun rule => rule.applies path isDirectory with
  | some rule => !rule.negated
  | none => false

/-- Whether a file is ignored: itself or one of the directories that it lies in. -/
def ignores (r : Repository) (files : FileSystem) (path : List Name) : Bool :=
  r.ignoresEntry files path (files.isDirAt (r.root ++ path)) ||
    (List.range path.length).any fun k => k ≠ 0 && r.ignoresEntry files (path.take k) true

end Repository

end ImageBuild.Git
