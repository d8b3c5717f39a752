import ImageBuild.Command.Call
import ImageBuild.Command.Edit
import ImageBuild.Command.Printf

/-!
# Programs that work on lines

Programs that pass lines on, count, sort, cut, search or edit them. They read files, or their input if
there are none.
-/

namespace ImageBuild.Programs.Filters

open Call

/-- The texts of files that are named, or of the input; what can not be read is complained about. -/
def texts (i : Invocation) (code : UInt8) (message : String → FileFault → String)
    (names : List String) : Working (List (String × String)) := do
  let names := if names = [] then ["-"] else names
  let mut all : List (String × String) := []
  for name in names do
    match ← content i name with
    | .ok bytes => all := all ++ [(name, Text.Octets.ofBytes bytes)]
    | .error fault => complain i (message name fault) code
  return all

/-- The words about a file that can not be read. -/
def plainly (name : String) (fault : FileFault) : String := shown name ++ ": " ++ fault.reason

/-- The words about a file that can not be opened or read. -/
def opening (name : String) (fault : FileFault) : String :=
  if fault = .isADirectory then "error reading " ++ quoted name ++ ": " ++ fault.reason
  else "cannot open " ++ quoted name ++ " for reading: " ++ fault.reason

/-- The lines of a text, each with its end if it has one. -/
def linesOf (text : String) : List (List Char) :=
  let (lines, ended) := Edit.linesOf text.toList
  match lines.reverse with
  | [] => []
  | last :: before =>
    before.reverse.map (· ++ ['\n']) ++ [if ended then last ++ ['\n'] else last]

/-- The lines of texts without their ends. -/
def bareLines (all : List (String × String)) : List (List Char) :=
  all.flatMap fun (_, text) => (Edit.linesOf text.toList).1

/-- Writes lines. -/
def writeLines (lines : List (List Char)) : Working Unit :=
  write (String.ofList (lines.flatMap (· ++ ['\n'])))

/-- The number that an option gives, with the sign in front of it. -/
def counted (i : Invocation) (what text : String) : Working (Option Char × Nat) := do
  let (sign, digits) :=
    match text.toList.dropWhile Text.Numeral.isSpace with
    | '-' :: ds => (some '-', ds)
    | '+' :: ds => (some '+', ds)
    | ds => (none, ds)
  if digits ≠ [] && digits.all Char.isDigit then
    return (sign, (Text.Numeral.digits 10 digits).1)
  else stop i ("invalid number of " ++ what ++ ": " ++ quoted text) 1

/-- Options with a count written as an option of its own. -/
def withCounts (args : List String) : List String :=
  match args with
  | first :: rest =>
    match first.toList with
    | '-' :: c :: _ => if c.isDigit then "-n" :: (first.drop 1).toString :: rest else args
    | _ => args
  | [] => []

/-- Writes a part of each text, with its name in front if there are several. -/
def eachPart (all : List (String × String)) (part : String → List Char) : Working Unit := do
  let mut first := true
  for (name, text) in all do
    if 1 < all.length then
      let name := if name = "-" then "standard input" else name
      write ((if first then "" else "\n") ++ "==> " ++ Text.Octets.ofText name ++ " <==\n")
    write (String.ofList (part text))
    first := false

/-- Writes the first lines or bytes of files. -/
def head : Program := run fun i => do
  let (given, names) ← options i ['q', 'v'] ['n', 'c'] 1 (withCounts i.args)
  let all ← texts i 1 opening names
  match value? given 'c' with
  | some text => do
    let (sign, n) ← counted i "bytes" text
    eachPart all fun text =>
      text.toList.take (if sign = some '-' then text.length - n else n)
  | none => do
    let (sign, n) ← counted i "lines" ((value? given 'n').getD "10")
    eachPart all fun text =>
      let lines := linesOf text
      (lines.take (if sign = some '-' then lines.length - n else n)).flatten

/-- Writes the last lines or bytes of files. -/
def tail : Program := run fun i => do
  let (given, names) ← options i ['q', 'v', 'f'] ['n', 'c'] 1 (withCounts i.args)
  let all ← texts i 1 opening names
  match value? given 'c' with
  | some text => do
    let (sign, n) ← counted i "bytes" text
    eachPart all fun text =>
      text.toList.drop (if sign = some '+' then n - 1 else text.length - n)
  | none => do
    let (sign, n) ← counted i "lines" ((value? given 'n').getD "10")
    eachPart all fun text =>
      let lines := linesOf text
      (lines.drop (if sign = some '+' then n - 1 else lines.length - n)).flatten

/-- A number filled up with blanks in front. -/
def aligned (width n : Nat) : String :=
  let digits := toString n
  String.ofList (List.replicate (width - digits.length) ' ') ++ digits

/-- The number of words in a text. -/
def wordCount (text : List Char) : Nat :=
  let spaced := text.map fun c => if Text.Numeral.isSpace c then ' ' else c
  ((Text.split ' ' spaced).filter (· ≠ [])).length

/-- Counts the lines, words and bytes of files. -/
def wc : Program := run fun i => do
  let (given, names) ← options i ['l', 'w', 'c', 'm'] [] 1 i.args
  let mut rows : List (List Nat × String) := []
  let mut size := 0
  for name in if names = [] then ["-"] else names do
    match ← content i name with
    | .error fault => complain i (plainly name fault) 1
    | .ok bytes =>
      let text := (Text.Octets.ofBytes bytes).toList
      size := size + text.length
      rows := rows ++ [([text.count '\n', wordCount text, text.length], name)]
  let asked := if given = [] then [true, true, true]
    else [has given 'l', has given 'w', has given 'c' || has given 'm']
  let pick (row : List Nat) : List Nat := (row.zip asked).filterMap fun (n, b) =>
    if b then some n else none
  let width :=
    if (asked.filter id).length = 1 && rows.length ≤ 1 && names.length ≤ 1 then 1
    else if names = [] || names.contains "-" then 7
    else (toString size).length
  let put (row : List Nat) (name : String) : Working Unit :=
    line (" ".intercalate ((pick row).map (aligned width)) ++
      if name = "" then "" else " " ++ Text.Octets.ofText name)
  for (row, name) in rows do put row (if names = [] then "" else name)
  if 1 < names.length then
    let total := rows.foldl (fun sums (row, _) => (sums.zip row).map fun (a, b) => a + b) [0, 0, 0]
    put total "total"

/-- The number at the start of a line, as thousandths of it, for comparing. -/
def numericKey (cs : List Char) : Int :=
  let cs := cs.dropWhile fun c => c = ' ' || c = '\t'
  let (negative, cs) :=
    match cs with
    | '-' :: cs => (true, cs)
    | cs => (false, cs)
  let (n, _, rest) := Text.Numeral.digits 10 cs
  let part :=
    match rest with
    | '.' :: rest => (rest.takeWhile Char.isDigit).take 9
    | _ => []
  let part := part ++ List.replicate (9 - part.length) '0'
  let value : Int := n * 1000000000 + (Text.Numeral.digits 10 part).1
  if negative then -value else value

/-- The part of a line that a key of sorting names: fields from one on, up to another one. -/
def keyOf (sep : Option Char) (first : Nat) (last : Option Nat) (cs : List Char) : List Char :=
  let fields : List (List Char) :=
    match sep with
    | some c =>
      match Text.split c cs with
      | [] => []
      | f :: fs => f :: fs.map (c :: ·)
    | none =>
      (cs.foldl (fun (fields : List (List Char)) c =>
        match fields with
        | [] => [[c]]
        | field :: before =>
          let startsGap := (c = ' ' || c = '\t') && field.head?.any fun d => d ≠ ' ' && d ≠ '\t'
          if startsGap then [c] :: field :: before else (c :: field) :: before) []).reverse.map
            List.reverse
  let chosen := fields.drop (first - 1)
  let chosen := match last with
    | some n => chosen.take (n + 1 - first)
    | none => chosen
  let key := chosen.flatten
  match sep with
  | some c => if 1 < first && key.head? = some c then key.drop 1 else key
  | none => key

/-- Whether a text stands before another one or is equal to it. -/
def textLe (a b : List Char) : Bool := decide (String.ofList a ≤ String.ofList b)

/-- Sorts lines. -/
def sort : Program := run fun i => do
  let (given, names) ← options i ['r', 'n', 'u', 'f', 'b', 's'] ['k', 't', 'o'] 2 i.args
  let all ← texts i 2 (fun name fault => "cannot read: " ++ plainly name fault) names
  let sep := (value? given 't').bind (·.toList.head?)
  let keyText := ((value? given 'k').getD "").toList
  let (first, _, rest) := Text.Numeral.digits 10 keyText
  let (last, rest) :=
    match rest with
    | ',' :: rest =>
      let (n, _, rest) := Text.Numeral.digits 10 rest
      (some n, rest)
    | rest => (none, rest)
  let numeric := has given 'n' || rest.contains 'n'
  let turned := has given 'r' || rest.contains 'r'
  let key (cs : List Char) : List Char :=
    let k := if first = 0 then cs else keyOf sep first last cs
    let k := if has given 'b' then k.dropWhile (· = ' ') else k
    if has given 'f' then k.map Char.toUpper else k
  let keyEq (a b : List Char) : Bool :=
    if numeric then numericKey (key a) = numericKey (key b) else key a = key b
  let keyLe (a b : List Char) : Bool :=
    if numeric then numericKey (key a) ≤ numericKey (key b) else textLe (key a) (key b)
  let le (a b : List Char) : Bool :=
    if keyEq a b then has given 's' || has given 'u' ||
      (if has given 'r' then textLe b a else textLe a b)
    else if turned then keyLe b a else keyLe a b
  let lines := (bareLines all).mergeSort le
  let lines :=
    if has given 'u' then
      (lines.foldl (fun (kept : List (List Char)) l =>
        if kept.head?.any (keyEq l) then kept else l :: kept) []).reverse
    else lines
  writeLines lines

/-- Lines that are equal to the ones before them, together with their number. -/
def runs (same : List Char → List Char → Bool) (lines : List (List Char)) : List (List Char × Nat) :=
  (lines.foldl (fun kept l =>
    match kept with
    | (before, n) :: rest => if same before l then (before, n + 1) :: rest else (l, 1) :: kept
    | [] => [(l, 1)]) []).reverse

/-- Writes lines that follow each other and are equal once. -/
def uniq : Program := run fun i => do
  let (given, names) ← options i ['c', 'd', 'u', 'i'] ['f', 's', 'w'] 1 i.args
  let all ← texts i 1 plainly (names.take 1)
  let same (a b : List Char) : Bool :=
    if has given 'i' then a.map Char.toLower = b.map Char.toLower else a = b
  let chosen := (runs same (bareLines all)).filter fun (_, n) =>
    (!has given 'd' || 1 < n) && (!has given 'u' || n = 1)
  writeLines (chosen.map fun (l, n) =>
    if has given 'c' then (aligned 7 n ++ " ").toList ++ l else l)

/-- The ranges of a list of positions. -/
def positions? (text : String) : Option (List (Nat × Option Nat)) :=
  (Text.split ',' text.toList).mapM fun part =>
    let (low, lowSize, rest) := Text.Numeral.digits 10 part
    match rest with
    | [] => if lowSize = 0 || low = 0 then none else some (low, some low)
    | '-' :: rest =>
      let (high, highSize, rest) := Text.Numeral.digits 10 rest
      if rest ≠ [] || (lowSize = 0 && highSize = 0) then none
      else some (if lowSize = 0 then 1 else low, if highSize = 0 then none else some high)
    | _ => none

/-- Whether a position is among ranges. -/
def inRanges (ranges : List (Nat × Option Nat)) (n : Nat) : Bool :=
  ranges.any fun (low, high) => low ≤ n && high.all (n ≤ ·)

/-- Elements at chosen positions. -/
def chosen {α : Type} (ranges : List (Nat × Option Nat)) (xs : List α) : List α :=
  ((List.range xs.length).zip xs).filterMap fun (n, x) =>
    if inRanges ranges (n + 1) then some x else none

/-- Writes parts of lines. -/
def cut : Program := run fun i => do
  let (given, names) ← options i ['s', 'n'] ['b', 'c', 'f', 'd'] 1 i.args
  let mode := given.find? fun (c, _) => c = 'b' || c = 'c' || c = 'f'
  match mode with
  | none => misuse i "you must specify a list of bytes, characters, or fields" 1
  | some (c, text) =>
    match positions? text with
    | none =>
      let noun := if c = 'f' then "field" else "byte/character"
      if (Text.split ',' text.toList).any fun p => p.head? = some '0' then
        misuse i (if c = 'f' then "fields are numbered from 1"
          else "byte/character positions are numbered from 1") 1
      else misuse i ("invalid " ++ noun ++ " value " ++ quoted text) 1
    | some ranges => do
      let all ← texts i 1 plainly names
      let sep := ((value? given 'd').bind (·.toList.head?)).getD '\t'
      let part (l : List Char) : Option (List Char) :=
        if c ≠ 'f' then some (chosen ranges l)
        else if !l.contains sep then if has given 's' then none else some l
        else some ([sep].intercalate (chosen ranges (Text.split sep l)))
      writeLines ((bareLines all).filterMap part)

/-- The characters that a set of `tr` names. The first argument bounds their number. -/
def trSet : Nat → List Char → List Char
  | 0, _ => []
  | _, [] => []
  | fuel + 1, '[' :: ':' :: rest =>
    let name := rest.takeWhile (· ≠ ':')
    match Search.namedRanges.lookup (String.ofList name), rest.drop name.length with
    | some ranges, ':' :: ']' :: after =>
      let all := (List.range 256).map Char.ofNat
      all.filter (fun c => ranges.any fun (a, b) => a ≤ c && c ≤ b) ++ trSet fuel after
    | _, _ => '[' :: trSet fuel (':' :: rest)
  | fuel + 1, '\\' :: rest =>
    match Printf.escape [] rest with
    | .octets s used =>
      if used = 0 then
        match rest with
        | c :: rest => c :: trSet fuel rest
        | [] => ['\\']
      else s ++ trSet fuel (rest.drop used)
    | _ => trSet fuel rest
  | fuel + 1, a :: '-' :: b :: rest =>
    if a ≤ b then
      (List.range (b.toNat + 1 - a.toNat)).map (fun n => Char.ofNat (a.toNat + n)) ++
        trSet fuel rest
    else trSet fuel rest
  | fuel + 1, c :: rest => c :: trSet fuel rest

/-- Leaves out characters of a set that follow an equal one. -/
def squeezed (set : List Char) (cs : List Char) : List Char :=
  (cs.foldl (fun kept c =>
    if kept.head? = some c && set.contains c then kept else c :: kept) []).reverse

/-- Replaces, deletes or squeezes characters. -/
def tr : Program := run fun i => do
  let (given, sets) ← options i ['d', 's', 'c', 'C', 't'] [] 1 i.args
  let deletes := has given 'd'
  let squeezes := has given 's'
  let sets := sets.map Text.Octets.ofText
  match sets with
  | [] => misuse i "missing operand" 1
  | first :: more => do
    if more = [] && !deletes && !squeezes then
      misuse i ("missing operand after " ++ quoted first ++
        "\nTwo strings must be given when translating.") 1
    let set := trSet (first.length + 1) first.toList
    let set := if has given 'c' || has given 'C' then
        ((List.range 256).map Char.ofNat).filter fun c => !set.contains c
      else set
    let other := more.head?.map fun s => trSet (s.length + 1) s.toList
    let cs := (Text.Octets.ofBytes (← input i)).toList
    let table :=
      match other with
      | some new => if deletes then [] else
          let new := new ++ List.replicate (set.length - new.length) (new.getLast?.getD ' ')
          (set.zip new).reverse
      | none => []
    let cs := if deletes then cs.filter fun c => !set.contains c
      else cs.map fun c => (table.lookup c).getD c
    write (String.ofList (if squeezes then squeezed (other.getD set) cs else cs))

/-- Writes numbers, one on each line. -/
def seq : Program := run fun i => do
  let (given, rest) :=
    match i.args with
    | "-s" :: sep :: rest => (sep, rest)
    | first :: rest =>
      if first.startsWith "-s" then ((first.drop 2).toString, rest) else ("\n", first :: rest)
    | rest => ("\n", rest)
  let numbers ← rest.mapM fun text =>
    match text.toInt? with
    | some n => pure n
    | none => misuse i ("invalid floating point argument: " ++ quoted text) 1
  let (first, step, last) ←
    match numbers with
    | [last] => pure ((1 : Int), (1 : Int), last)
    | [first, last] => pure (first, 1, last)
    | [first, step, last] => pure (first, step, last)
    | [] => misuse i "missing operand" 1
    | _ => misuse i ("extra operand " ++ quoted ((rest[3]?).getD "")) 1
  if step = 0 then misuse i ("invalid Zero increment value: " ++ quoted ((rest[1]?).getD "")) 1
  let size := if 0 < step then last - first else first - last
  if 0 ≤ size then
    let all := (List.range (min (size.toNat / step.natAbs + 1) 1000000)).map fun (k : Nat) =>
      toString (first + step * k)
    line (given.intercalate all)

/-- Passes the input on and writes it to files. -/
def tee : Program := run fun i => do
  let (given, names) ← options i ['a', 'i'] [] 1 i.args
  let bytes ← input i
  write (Text.Octets.ofBytes bytes)
  for name in names do
    let fs ← files
    let before :=
      if has given 'a' then (fs.readBytes i.dir name).toOption.getD [] else []
    let path := Path.ofText name
    change i 1 (fun fault => shown name ++ ": " ++ fault.reason)
      (fs.write (if path.rooted then [] else i.dir) path.steps (before ++ bytes) 0o644 ⟨1700000000, 0⟩)

/-- Writes the characters of each line from the last one to the first. -/
def rev : Program := run fun i => do
  let all ← texts i 1 plainly i.args
  writeLines ((bareLines all).map List.reverse)

/-- Writes lines from the last one to the first. -/
def tac : Program := run fun i => do
  let all ← texts i 1 opening i.args
  for (_, text) in all do write (String.ofList (linesOf text).reverse.flatten)

/-- The lines that an expression of some lines matches. -/
def searchOf? (extended fixed : Bool) (text : String) : Option Search :=
  let parts := (Text.split '\n' text.toList).mapM fun cs =>
    if fixed then some (Search.literal cs) else Search.ofText? extended cs
  parts.map fun parts =>
    match parts with
    | [] => .empty
    | e :: es => es.foldl .choice e

/-- The parts of a line that an expression matches. The first argument bounds their number. -/
def occurrences (fold : Bool) (e : Search) : Nat → Search.Spot → List (List Char)
  | 0, _ => []
  | fuel + 1, p =>
    match e.find? fold p with
    | none => []
    | some (_, text, q) =>
      if text = [] then
        match q.rest with
        | [] => []
        | c :: rest => occurrences fold e fuel ⟨some c, rest, []⟩
      else text :: occurrences fold e fuel ⟨q.before, q.rest, []⟩

/-- Writes the lines that match an expression. -/
def grep : Program := run fun i => do
  let (given, operands) ← options i
    ['q', 'v', 'i', 'c', 'n', 'x', 'F', 'E', 'G', 'o', 'w', 's', 'l', 'h', 'H', 'y', 'a'] ['e', 'm'] 2
    i.args
  let wanted := (given.filter (·.1 = 'e')).map (·.2)
  let (text, names) ←
    match wanted, operands with
    | [], [] => do
      modify fun w => { w with
        writes := w.writes.push (.error, Text.Utf8.encode ("Usage: grep [OPTION]... PATTERNS [FILE]..." ++
          "\nTry 'grep --help' for more information.\n")) }
      throw 2
    | [], text :: names => pure (text, names)
    | wanted, names => pure ("\n".intercalate wanted, names)
  let fold := has given 'i' || has given 'y'
  let some e := searchOf? (has given 'E') (has given 'F') (Text.Octets.ofText text)
    | stop i "Invalid regular expression" 2
  let e : Search := if has given 'x' then .sequence .start (.sequence (.group 0 e) .finish)
    else if has given 'w' then
      .sequence (.edge true false) (.sequence e (.edge false true))
    else e
  let all ← texts i 2 plainly names
  let labelled := (1 < names.length || has given 'H') && !has given 'h'
  let mut any := false
  for (name, text) in all do
    let label := if labelled then
        (if name = "-" then "(standard input)" else Text.Octets.ofText name) ++ ":" else ""
    let lines := (Edit.linesOf text.toList).1
    let found := ((List.range lines.length).zip lines).filter fun (_, l) =>
      e.occursIn fold l != has given 'v'
    let found := match (value? given 'm').bind String.toNat? with
      | some n => found.take n
      | none => found
    if found ≠ [] then any := true
    if has given 'q' then pure ()
    else if has given 'l' then
      if found ≠ [] then line (if name = "-" then "(standard input)" else Text.Octets.ofText name)
    else if has given 'c' then line (label ++ toString found.length)
    else
      for (n, l) in found do
        let front := label ++ if has given 'n' then toString (n + 1) ++ ":" else ""
        if has given 'o' then
          for part in occurrences fold e (l.length + 1) ⟨none, l, []⟩ do
            line (front ++ String.ofList part)
        else line (front ++ String.ofList l)
  let w ← get
  if has given 'q' && any then throw 0
  if w.code = 0 && !any then modify fun w => { w with code := 1 }

/-- Edits lines by a script. -/
def sed : Program := run fun i => do
  let (given, operands) ← options i ['n', 'E', 'r', 's', 'u', 'z'] ['e', 'f'] 1 i.args
  let mut wanted : List String := []
  for (c, text) in given do
    if c = 'e' then wanted := wanted ++ [text]
    else if c = 'f' then
      match ← content i text with
      | .ok bytes => wanted := wanted ++ [Text.Utf8.decodeLossy bytes]
      | .error fault => stop i ("couldn't open file " ++ text ++ ": " ++ fault.reason) 1
  let (script, names) ←
    match wanted, operands with
    | [], [] => stop i "no script" 1
    | [], script :: names => pure (script, names)
    | scripts, names => pure ("\n".intercalate scripts, names)
  let extended := has given 'E' || has given 'r'
  let cs := (Text.Octets.ofText script).toList
  let some commands := Edit.script? extended (cs.length + 1) cs
    | stop i "-e expression #1, char 1: unknown command" 1
  let all ← texts i 2 (fun name fault =>
    if fault = .isADirectory then "couldn't edit " ++ name ++ ": not a regular file"
    else "can't read " ++ name ++ ": " ++ fault.reason) names
  let (out, code) := Edit.run (has given 'n') commands (all.flatMap (·.2.toList))
  write (String.ofList out)
  if code ≠ 0 then throw code.toUInt8

/-- A byte with two digits of base sixteen. -/
def hexByte (c : Char) : String :=
  let digits := Nat.toDigits 16 c.toNat
  " " ++ String.ofList (List.replicate (2 - digits.length) '0' ++ digits)

/-- A number with digits of base eight. -/
def octalText (width n : Nat) : String :=
  let digits := Nat.toDigits 8 n
  String.ofList (List.replicate (width - digits.length) '0' ++ digits)

/-- A byte as a character, or as the escape that writes it. -/
def shownByte (c : Char) : String :=
  let escape := [('\x00', "\\0"), ('\x07', "\\a"), ('\x08', "\\b"), ('\x0c', "\\f"), ('\n', "\\n"),
    ('\r', "\\r"), ('\t', "\\t"), ('\x0b', "\\v")]
  match escape.lookup c with
  | some s => "  " ++ s
  | none =>
    if 32 ≤ c.toNat && c.toNat < 127 then "   " ++ String.ofList [c] else " " ++ octalText 3 c.toNat

/-- Bytes as words of two, the second one being the higher. -/
def wordPairs : List Char → String
  | a :: b :: rest => " " ++ octalText 6 (a.toNat + 256 * b.toNat) ++ wordPairs rest
  | [a] => " " ++ octalText 6 a.toNat
  | [] => ""

/-- Lines of sixteen bytes with where they begin. The first argument bounds their number. -/
def dumpLines (addressed : Bool) (text : List Char → String) : Nat → Nat → List Char → List String
  | 0, _, _ => []
  | fuel + 1, n, cs =>
    let address := if addressed then octalText 7 n else ""
    if cs = [] then if addressed then [address] else []
    else
      let part := cs.take 16
      (address ++ text part) :: dumpLines addressed text fuel (n + part.length) (cs.drop 16)

/-- Writes bytes as numbers or characters. -/
def od : Program := run fun i => do
  let (given, names) ← options i ['c', 'b', 'v', 'x'] ['A', 't', 'j', 'N', 'w'] 1 i.args
  let all ← texts i 1 plainly names
  let bytes := all.flatMap (·.2.toList)
  let kind := (value? given 't').getD (if has given 'c' then "c" else if has given 'b' then "o1" else "o2")
  let text (part : List Char) : String :=
    if kind.startsWith "c" then String.join (part.map shownByte)
    else if kind.startsWith "x1" then String.join (part.map hexByte)
    else if kind.startsWith "o1" then String.join (part.map fun c => " " ++ octalText 3 c.toNat)
    else wordPairs part
  if !(names ≠ [] && all = []) then
    (dumpLines (value? given 'A' ≠ some "n") text (bytes.length + 1) 0 bytes).forM line

/-- The programs by their names. -/
def table : List (String × Program) :=
  [("head", head), ("tail", tail), ("wc", wc), ("sort", sort), ("uniq", uniq), ("cut", cut),
   ("tr", tr), ("seq", seq), ("tee", tee), ("rev", rev), ("tac", tac), ("grep", grep),
   ("sed", sed), ("od", od)]

end ImageBuild.Programs.Filters
