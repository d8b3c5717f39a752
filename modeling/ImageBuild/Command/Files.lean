import ImageBuild.Command.Call
import ImageBuild.Command.Permission
import ImageBuild.FileSystem.Edit

/-!
# Programs that work on files

Programs that list, make, copy, move and remove files, and those that take paths apart.
-/

namespace ImageBuild.Programs.Files

open Call

/-- The place where the steps of a path begin. -/
def startOf (i : Invocation) (path : Path) : Place := if path.rooted then [] else i.dir

/-- The time that new files get. -/
def now : Time := ⟨1700000000, 0⟩

/-- The permissions that new files do not get. -/
def mask : Mode := 0o022

/-- The node of an entry, which may be a link. -/
def node? (i : Invocation) (fs : FileSystem) (name : String) : Except FileFault Node :=
  if name = "" then .error .notFound
  else
    let path := Path.ofText name
    match path.steps.getLast? with
    | some (.name _) =>
      match fs.slot (startOf i path) path.steps with
      | .error fault => .error fault
      | .ok place =>
        match fs.lookup place with
        | some node => .ok node
        | none => .error .notFound
    | _ =>
      match fs.resolve i.dir name with
      | .error fault => .error fault
      | .ok place =>
        match fs.lookup place with
        | some node => .ok node
        | none => .error .notFound

/-- The names in a directory, sorted. -/
def entries (fs : FileSystem) (place : Place) : List String :=
  ((fs.below place).children.map (·.1)).mergeSort fun a b =>
    decide (Text.Octets.ofText a ≤ Text.Octets.ofText b)

/-- A path with a name behind it. -/
def inside (dir name : String) : String :=
  if dir.endsWith "/" then dir ++ name else dir ++ "/" ++ name

/-- The last name of a path. -/
def lastName (path : String) : String :=
  let trimmed := (path.toList.reverse.dropWhile (· = '/')).reverse
  if trimmed = [] then (if path = "" then "" else "/")
  else String.ofList (trimmed.reverse.takeWhile (· ≠ '/')).reverse

/-- A path without its last name. -/
def withoutLast (path : String) : String :=
  let trimmed := (path.toList.reverse.dropWhile (· = '/'))
  let before := (trimmed.dropWhile (· ≠ '/')).dropWhile (· = '/')
  if trimmed = [] then (if path = "" then "." else "/")
  else if trimmed.all (· ≠ '/') then "."
  else if before = [] then "/" else String.ofList before.reverse

/-! ## Paths -/

/-- Writes the last names of paths. -/
def basename : Program := run fun i => do
  let (given, names) ← options i ['a', 'z'] ['s'] 1 i.args
  let suffix := value? given 's'
  let put (suffix name : String) : Working Unit :=
    let last := lastName name
    let cut := if suffix ≠ last && last.endsWith suffix then (last.dropEnd suffix.length).toString else last
    line (Text.Octets.ofText cut)
  match names with
  | [] => misuse i "missing operand" 1
  | names =>
    if has given 'a' || suffix.isSome then names.forM (put (suffix.getD ""))
    else
      match names with
      | [name] => put "" name
      | [name, suffix] => put suffix name
      | names => misuse i ("extra operand " ++ quoted ((names[2]?).getD "")) 1

/-- Writes paths without their last names. -/
def dirname : Program := run fun i => do
  let (_, names) ← options i ['z'] [] 1 i.args
  if names = [] then misuse i "missing operand" 1
  names.forM fun name => line (Text.Octets.ofText (withoutLast name))

/-- Writes where links lead. -/
def readlink : Program := run fun i => do
  let (given, names) ← options i ['f', 'e', 'm', 'n', 'q', 's', 'v'] [] 1 i.args
  if names = [] then misuse i "missing operand" 1
  let fs ← files
  for name in names do
    if has given 'f' || has given 'e' then
      match fs.locate i.dir name with
      | .found place => line (Text.Octets.ofText place.text)
      | .missing place =>
        if has given 'e' then modify fun w => { w with code := 1 }
        else line (Text.Octets.ofText place.text)
      | .failed _ => modify fun w => { w with code := 1 }
    else
      match node? i fs name with
      | .ok (.link target) =>
        write (Text.Octets.ofText target ++ if has given 'n' then "" else "\n")
      | _ => modify fun w => { w with code := 1 }

/-- Writes paths without links in them. -/
def realpath : Program := run fun i => do
  let (given, names) ← options i ['e', 'm', 's', 'q', 'L', 'P', 'z'] [] 1 i.args
  if names = [] then misuse i "missing operand" 1
  let fs ← files
  for name in names do
    match fs.locate i.dir name with
    | .found place => line (Text.Octets.ofText place.text)
    | .missing place =>
      if has given 'e' then complain i (shown name ++ ": No such file or directory") 1
      else line (Text.Octets.ofText place.text)
    | .failed fault => complain i (shown name ++ ": " ++ fault.reason) 1

/-! ## Listing -/

/-- What shows the kind of a node behind its name: that of directories or, if `all` says so, of every
kind. -/
def mark (all : Bool) : Node → String
  | .dir _ => "/"
  | .link _ => if all then "@" else ""
  | .pipe _ => if all then "|" else ""
  | .socket _ => if all then "=" else ""
  | .file _ mode _ => if all && mode &&& 0o111 ≠ 0 then "*" else ""

/-- Lists files and what directories hold. -/
def ls : Program := run fun i => do
  let (given, names) ← options i ['1', 'a', 'A', 'd', 'r', 'F', 'p'] [] 2 i.args
  let fs ← files
  let names := if names = [] then ["."] else names
  let order (xs : List String) : List String :=
    let sorted := xs.mergeSort fun a b => decide (Text.Octets.ofText a ≤ Text.Octets.ofText b)
    if has given 'r' then sorted.reverse else sorted
  let mut plain : List String := []
  let mut dirs : List (String × Place) := []
  for name in order names do
    match fs.resolve i.dir name, node? i fs name with
    | .ok place, .ok node =>
      if fs.isDirAt place && !has given 'd' then dirs := dirs ++ [(name, place)]
      else plain := plain ++ [name ++ if has given 'F' || has given 'p' then mark (has given 'F') node else ""]
    | .error _, .ok node =>
      plain := plain ++ [name ++ if has given 'F' then mark true node else ""]
    | _, .error fault =>
      complain i ("cannot access " ++ quoted name ++ ": " ++ fault.reason) 2
  plain.forM fun name => line (Text.Octets.ofText name)
  let mut first := plain.isEmpty
  for (name, place) in dirs do
    if 1 < names.length then
      write ((if first then "" else "\n") ++ Text.Octets.ofText name ++ ":\n")
    first := false
    let all := (entries fs place).filter fun n =>
      has given 'a' || has given 'A' || !n.startsWith "."
    let all := order ((if has given 'a' then [".", ".."] else []) ++ all)
    all.forM fun n =>
      let node := (fs.lookup (place ++ [n])).getD (.dir 0o755)
      let mark := if has given 'F' || has given 'p' then mark (has given 'F') node else ""
      line (Text.Octets.ofText (n ++ mark))

/-! ## Making and removing -/

/-- Makes directories. -/
def mkdir : Program := run fun i => do
  let (given, names) ← options i ['p', 'v'] ['m'] 1 i.args
  if names = [] then misuse i "missing operand" 1
  let mode := ((value? given 'm').bind fun text =>
    Permission.changed? mask true text 0o777).getD 0o755
  for name in names do
    let fs ← files
    let path := Path.ofText name
    let fail (fault : FileFault) : String :=
      "cannot create directory " ++ quoted name ++ ": " ++ fault.reason
    if has given 'p' then change i 1 fail (fs.makeDirs (startOf i path) path.steps)
    else
      let steps := if path.steps.getLast? = some .here then path.steps.dropLast else path.steps
      if name = "" then complain i (fail .notFound) 1
      else change i 1 fail (fs.create (startOf i path) steps (.dir mode))

/-- Removes empty directories. -/
def rmdir : Program := run fun i => do
  let (_, names) ← options i ['p', 'v'] [] 1 i.args
  if names = [] then misuse i "missing operand" 1
  for name in names do
    let fs ← files
    let fail (reason : String) : Working Unit :=
      complain i ("failed to remove " ++ quoted name ++ ": " ++ reason) 1
    match node? i fs name, fs.resolve i.dir name with
    | .ok (.dir _), .ok place =>
      if (fs.below place).isEmpty then modify fun w => { w with files := fs.erase place }
      else fail "Directory not empty"
    | .ok _, _ => fail "Not a directory"
    | .error fault, _ => fail fault.reason

/-- Removes files, and directories with what they hold if asked to. -/
def rm : Program := run fun i => do
  let (given, names) ← options i ['f', 'r', 'R', 'd', 'v', 'i'] [] 1 i.args
  if names = [] && !has given 'f' then misuse i "missing operand" 1
  for name in names do
    let fs ← files
    let path := Path.ofText name
    let steps := if path.steps.getLast? = some .here then path.steps.dropLast else path.steps
    let fail (fault : FileFault) : String :=
      "cannot remove " ++ quoted name ++ ": " ++ fault.reason
    match node? i fs name with
    | .error fault =>
      if !(has given 'f' && (fault = .notFound || fault = .notADirectory)) then
        complain i (fail fault) 1
    | .ok (.dir _) =>
      let last := lastName name
      if last = "." || last = ".." then
        complain i ("refusing to remove '.' or '..' directory: skipping " ++ quoted name) 1
      else if has given 'r' || has given 'R' then
        change i 1 fail (fs.remove (startOf i path) steps)
      else complain i (fail .isADirectory) 1
    | .ok _ => change i 1 fail (fs.unlink (startOf i path) steps)

/-- Makes empty files and renews the times of others. -/
def touch : Program := run fun i => do
  let (given, names) ← options i ['a', 'c', 'm', 'f', 'h'] ['d', 'r', 't'] 1 i.args
  if names = [] then misuse i "missing file operand" 1
  for name in names do
    let fs ← files
    let path := Path.ofText name
    let fail (fault : FileFault) : String :=
      "cannot touch " ++ quoted name ++ ": " ++ fault.reason
    match fs.locate i.dir name with
    | .found place =>
      match fs.lookup place with
      | some (.file content mode _) =>
        modify fun w => { w with files := fs.insert place (.file content mode now) }
      | _ => pure ()
    | .missing _ =>
      if !has given 'c' then
        if name.endsWith "/" then complain i (fail .notFound) 1
        else change i 1 fail (fs.write (startOf i path) path.steps [] 0o644 now)
    | .failed fault => if !has given 'c' || fault ≠ .notFound then complain i (fail fault) 1

/-- Makes links. -/
def ln : Program := run fun i => do
  let (given, names) ← options i ['s', 'f', 'n', 'v', 'T', 'r'] [] 1 i.args
  let fs ← files
  let kind := if has given 's' then "symbolic link" else "hard link"
  let make (target name : String) : Working Unit := do
    let fs ← files
    let path := Path.ofText name
    let start := startOf i path
    let fs := if has given 'f' then
        match node? i fs name with
        | .ok (.dir _) => fs
        | .ok _ => (fs.unlink start path.steps).toOption.getD fs
        | .error _ => fs
      else fs
    let node : Except FileFault Node :=
      if has given 's' then .ok (.link target) else node? i fs target
    match node with
    | .error fault => complain i ("failed to access " ++ quoted target ++ ": " ++ fault.reason) 1
    | .ok node =>
      change i 1 (fun fault =>
        "failed to create " ++ kind ++ " " ++ quoted name ++
          (if has given 's' then "" else " => " ++ quoted target) ++ ": " ++ fault.reason)
        (fs.create start path.steps node)
  match names with
  | [] => misuse i "missing file operand" 1
  | [target] => make target (lastName target)
  | names =>
    let last := names.getLast?.getD ""
    let isDir := (fs.resolve i.dir last).toOption.any fs.isDirAt
    if isDir && !has given 'T' then
      names.dropLast.forM fun target => make target (inside last (lastName target))
    else
      match names with
      | [target, name] => make target name
      | _ => misuse i ("target " ++ quoted last ++ ": No such file or directory") 1

/-- Changes the permissions of files. -/
def chmod : Program := run fun i => do
  let isMode := fun (a : String) =>
    match a.toList with
    | '-' :: c :: _ => "rwxXst".toList.contains c
    | _ => false
  let modes := i.args.filter isMode
  let (given, rest) ← options i ['R', 'c', 'f', 'v'] [] 1 (i.args.filter fun a => !isMode a)
  match modes.take 1 ++ rest with
  | [] => misuse i "missing operand" 1
  | [mode] => misuse i ("missing operand after " ++ quoted mode) 1
  | mode :: names =>
    if (Permission.changed? mask false mode 0).isNone then
      misuse i ("invalid mode: " ++ quoted mode) 1
    for name in names do
      let fs ← files
      match fs.resolve i.dir name with
      | .error fault => complain i ("cannot access " ++ quoted name ++ ": " ++ fault.reason) 1
      | .ok place =>
        let below := if has given 'R' then
            (fs.below place).map fun (path, _) => place ++ path
          else []
        for place in place :: below do
          let fs ← files
          if let some node := fs.lookup place then
            let before : Mode :=
              match node with
              | .file _ mode _ => mode
              | .dir mode => mode
              | .pipe mode => mode
              | .socket mode => mode
              | .link _ => 0o777
            let after := (Permission.changed? mask node.isDir mode before).getD before
            modify fun w => { w with files := fs.insert place (node.withMode after) }

/-! ## Copying and moving -/

/-- The place that a copy of a file goes to: the path, or below it if that is a directory. -/
def destination (i : Invocation) (fs : FileSystem) (source target : String) : String :=
  if (fs.resolve i.dir target).toOption.any fs.isDirAt then inside target (lastName source)
  else target

/-- Copies files. -/
def cp : Program := run fun i => do
  let (given, names) ← options i ['r', 'R', 'a', 'p', 'f', 'v', 'd', 'n', 'T', 'L', 'P'] ['t'] 1 i.args
  let deep := has given 'r' || has given 'R' || has given 'a'
  match names.reverse with
  | [] => misuse i "missing file operand" 1
  | [name] => misuse i ("missing destination file operand after " ++ quoted name) 1
  | target :: sources =>
    let fs ← files
    let isDir := (fs.resolve i.dir target).toOption.any fs.isDirAt
    if 1 < sources.length && !isDir then
      stop i ("target " ++ quoted target ++ ": " ++
        if (fs.resolve i.dir target).toOption.isSome then "Not a directory"
        else "No such file or directory") 1
    for source in sources.reverse do
      let fs ← files
      let dest := destination i fs source target
      let path := Path.ofText dest
      let keeps := has given 'p' || has given 'a'
      match fs.resolve i.dir source with
      | .error fault => complain i ("cannot stat " ++ quoted source ++ ": " ++ fault.reason) 1
      | .ok place =>
        match fs.lookup place with
        | some (.file content mode time) =>
          if (fs.resolve i.dir dest).toOption = some place then
            complain i (quoted source ++ " and " ++ quoted dest ++ " are the same file") 1
          else
            let mode := match (fs.resolve i.dir dest).toOption.bind fs.lookup with
              | some (.file _ old _) => if keeps then mode else old
              | _ => Permission.without mode (if keeps then 0 else mask)
            change i 1 (fun fault =>
              "cannot create regular file " ++ quoted dest ++ ": " ++ fault.reason)
              (fs.write (startOf i path) path.steps content mode (if keeps then time else now))
        | some (.dir mode) =>
          if !deep then
            complain i ("-r not specified; omitting directory " ++ quoted source) 1
          else
            change i 1 (fun fault =>
              "cannot create directory " ++ quoted dest ++ ": " ++ fault.reason) do
              let steps := if path.steps.getLast? = some .here then path.steps.dropLast else path.steps
              let made := if (fs.resolve i.dir dest).toOption.any fs.isDirAt then .ok fs
                else fs.create (startOf i path) steps (.dir mode)
              let made ← made
              let root ← made.resolve i.dir dest
              return (fs.below place).foldl (fun (all : FileSystem) (below, node) =>
                let node := match node with
                  | .file content mode time =>
                    .file content mode (if keeps then time else now)
                  | node => node
                all.insert (root ++ below) node) made
        | some node =>
          change i 1 (fun fault =>
            "cannot create special file " ++ quoted dest ++ ": " ++ fault.reason)
            (fs.create (startOf i path) path.steps node)
        | none => pure ()

/-- Moves files. -/
def mv : Program := run fun i => do
  let (_, names) ← options i ['f', 'n', 'v', 'T', 'u', 'i'] ['t'] 1 i.args
  match names.reverse with
  | [] => misuse i "missing file operand" 1
  | [name] => misuse i ("missing destination file operand after " ++ quoted name) 1
  | target :: sources =>
    let fs ← files
    let isDir := (fs.resolve i.dir target).toOption.any fs.isDirAt
    if 1 < sources.length && !isDir then
      stop i ("target " ++ quoted target ++ ": " ++
        if (fs.resolve i.dir target).toOption.isSome then "Not a directory"
        else "No such file or directory") 1
    for source in sources.reverse do
      let fs ← files
      let dest := destination i fs source target
      let from_ := Path.ofText source
      let to_ := Path.ofText dest
      let trimmed (p : Path) : List Step :=
        if p.steps.getLast? = some .here then p.steps.dropLast else p.steps
      match node? i fs source with
      | .error fault => complain i ("cannot stat " ++ quoted source ++ ": " ++ fault.reason) 1
      | .ok node =>
        match fs.slot (startOf i from_) (trimmed from_), fs.slot (startOf i to_) (trimmed to_) with
        | .ok old, .ok new =>
          if old = new then
            complain i (quoted source ++ " and " ++ quoted dest ++ " are the same file") 1
          else if old.isPrefixOf new then
            complain i ("cannot move " ++ quoted source ++ " to a subdirectory of itself, " ++
              quoted dest) 1
          else
            match fs.lookup new with
            | some (.dir _) =>
              if node.isDir && !(fs.below new).isEmpty then
                complain i ("cannot move " ++ quoted source ++ " to " ++ quoted dest ++
                  ": Directory not empty") 1
              else if !node.isDir then
                complain i ("cannot overwrite directory " ++ quoted dest ++ " with non-directory") 1
              else pure ()
            | some _ =>
              if node.isDir then
                complain i ("cannot overwrite non-directory " ++ quoted dest ++
                  " with directory " ++ quoted source) 1
            | none => pure ()
            if (← get).code = 0 then
              let below := fs.below old
              let fs := (fs.erase old).erase new
              modify fun w => { w with
                files := below.foldl (fun all (path, n) => all.insert (new ++ path) n)
                  (fs.insert new node) }
        | _, .error fault =>
          complain i ("cannot move " ++ quoted source ++ " to " ++ quoted dest ++ ": " ++
            fault.reason) 1
        | .error fault, _ => complain i ("cannot stat " ++ quoted source ++ ": " ++ fault.reason) 1

/-! ## Who runs -/

/-- Writes the name of the user. -/
def whoami : Program := run fun _ => line "root"

/-- Writes the numbers of the user. -/
def user : Program := run fun i => do
  let (given, _) ← options i ['u', 'g', 'n', 'r', 'G'] [] 1 i.args
  if has given 'n' then line "root"
  else if given = [] then line "uid=0(root) gid=0(root) groups=0(root)"
  else line "0"

/-- The programs by their names. -/
def table : List (String × Program) :=
  [("basename", basename), ("dirname", dirname), ("readlink", readlink), ("realpath", realpath),
   ("ls", ls), ("mkdir", mkdir), ("rmdir", rmdir), ("rm", rm), ("touch", touch), ("ln", ln),
   ("chmod", chmod), ("cp", cp), ("mv", mv), ("whoami", whoami), ("id", user)]

end ImageBuild.Programs.Files
