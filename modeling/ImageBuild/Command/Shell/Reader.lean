import ImageBuild.Command.Shell.Syntax

/-!
# Reading shell scripts

A script is read command by command: `Reader.next?` gives the commands of one line, with the lines that
they go on in, so that a fault further down is only found once what stands before it has run. A word is
read part by part, in a `Setting` that says which characters are special. What stands within something
else is read by an `Inner`, which goes less deep; the length of the script bounds the depth.
-/

namespace ImageBuild.Shell

/-- A token of a script. -/
inductive Token
  | word (w : Word)
  /-- A word that is reserved, where it is. -/
  | keyword (name : String)
  | operator (name : String)
  | newline
  | finish
  /-- An operator that redirects the stream of a number. -/
  | redirect (fd : Nat) (operator : String)

/-- The words that are reserved. -/
def keywords : List String :=
  ["!", "case", "do", "done", "elif", "else", "esac", "fi", "for", "if", "in", "then", "until",
   "while", "\x7b", "\x7d"]

/-- How a message names a token. -/
def Token.shown : Token → String
  | .word _ => "word"
  | .keyword name => "\"" ++ name ++ "\""
  | .operator name => "\"" ++ name ++ "\""
  | .newline => "newline"
  | .finish => "end of file"
  | .redirect .. => "redirection"

/-- Whether a token is an operator. -/
def Token.isOperator (t : Token) (name : String) : Bool :=
  match t with
  | .operator n => n == name
  | _ => false

/-- Whether a token is a reserved word. -/
def Token.isKeyword (t : Token) (name : String) : Bool :=
  match t with
  | .keyword n => n == name
  | _ => false

/-- Whether a token ends a list of commands that stands within another command. -/
def Token.endsList : Token → Bool
  | .keyword name =>
    ["do", "done", "elif", "else", "esac", "fi", "then", "\x7d"].contains name
  | .operator name => name == ")" || name == ";;"
  | .finish => true
  | _ => false

/-- A fault of a script, with the line where it is. -/
structure Complaint where
  line : Nat
  message : String
  deriving DecidableEq, Repr

/-- The state of reading. -/
structure Reader where
  rest : List Char
  line : Nat
  /-- Lines of texts for redirections that end before the next line. -/
  skipped : Nat
  /-- A token that was looked at. -/
  pushed : Option Token
  /-- Texts that stand for commands, by their names. -/
  aliases : List (String × String)
  /-- The names whose texts are being read, with the number of characters behind those. -/
  active : List (String × Nat)

/-- A step of reading. -/
abbrev Reading := StateT Reader (Except Complaint)

/-- What characters of a word are special. -/
inductive Setting
  /-- A word of a command. -/
  | plain
  /-- A word within braces. -/
  | braces
  /-- Text between double quotes. -/
  | double
  /-- A word within braces between double quotes. -/
  | doubleBraces
  /-- A text that a redirection gives. -/
  | document
  /-- An arithmetic expression, with the number of parentheses that are open in it. -/
  | arithmetic (depth : Nat)
  deriving DecidableEq, Repr

/-- Whether what stands in a setting is quoted. -/
def Setting.quotes : Setting → Bool
  | .plain | .braces => false
  | _ => true

/-- The words of commands that belong to the shell itself more than others: functions can not have
their names, and a fault of theirs ends a script. -/
def specialNames : List String :=
  [".", ":", "break", "continue", "eval", "exec", "exit", "export", "local", "readonly", "return",
   "set", "shift", "times", "trap", "unset"]

namespace Reader

/-- Fails with a message about the present line. -/
def refuse {α : Type} (message : String) : Reading α := fun r =>
  .error ⟨r.line, "Syntax error: " ++ message⟩

/-- Fails because of a token; `expected` is the one that should stand there, if only one may. -/
def unexpected {α : Type} (t : Token) (expected : Option Token) : Reading α :=
  refuse (t.shown ++ " unexpected" ++
    match expected with
    | some e => " (expecting " ++ e.shown ++ ")"
    | none => "")

/-- The characters of a text without the line breaks that a backslash takes away in front of the next
one, and how many those are. -/
def skipContinuations : List Char → List Char × Nat
  | '\\' :: '\n' :: cs =>
    let (rest, n) := skipContinuations cs
    (rest, n + 1)
  | cs => (cs, 0)

/-- The next character. -/
def peek : Reading (Option Char) := do
  let r ← get
  let (rest, n) := skipContinuations r.rest
  set { r with rest := rest, line := r.line + n }
  return rest.head?

/-- Leaves the next character behind. -/
def skip : Reading Unit := modify fun r =>
  match r.rest with
  | '\n' :: rest => { r with rest := rest, line := r.line + 1 }
  | _ :: rest => { r with rest := rest }
  | [] => r

/-- The next character as it stands, left behind. -/
def take : Reading (Option Char) := do
  let r ← get
  skip
  return r.rest.head?

/-- Adds text to the end of some parts. -/
def addText (parts : List Part) (s : String) (quoted : Bool) : List Part :=
  match parts.getLast? with
  | some (.text before q) =>
    if q = quoted then parts.dropLast ++ [.text (before ++ s) q] else parts ++ [.text s quoted]
  | _ => parts ++ [.text s quoted]

/-- The characters that end a word of a command. -/
def wordEnds : List Char := [' ', '\t', '\n', ';', '&', '|', '<', '>', '(', ')']

/-- The characters of a text up to a quote. -/
def upToQuote : List Char → Option (List Char × List Char)
  | [] => none
  | '\'' :: rest => some ([], rest)
  | c :: rest => (upToQuote rest).map fun (cs, rest) => (c :: cs, rest)

/-- The characters of commands between backquotes. A backslash in front of a dollar sign, a backquote
or a backslash goes away, and between double quotes one in front of a double quote. -/
def upToBackquote (inDouble : Bool) : List Char → Option (List Char × List Char)
  | [] => none
  | '`' :: rest => some ([], rest)
  | '\\' :: c :: rest =>
    let kept := if c = '$' || c = '`' || c = '\\' || (inDouble && c = '"') then [c] else ['\\', c]
    (upToBackquote inDouble rest).map fun (cs, rest) => (kept ++ cs, rest)
  | c :: rest => (upToBackquote inDouble rest).map fun (cs, rest) => (c :: cs, rest)

/-- The number of line breaks in a text. -/
def breaks (cs : List Char) : Nat := cs.count '\n'

/-- The special parameters of one character. -/
def specialParameters : List Char := ['@', '*', '#', '?', '-', '$', '!']

/-- The name of a parameter within braces, and whether its length is asked for. -/
def bracedName (cs : List Char) : Option (Bool × String × List Char) :=
  let named (cs : List Char) : Option (String × List Char) :=
    match cs with
    | c :: rest =>
      if isNameStart c then
        let name := cs.takeWhile isNameChar
        some (String.ofList name, cs.drop name.length)
      else if c.isDigit then
        let name := cs.takeWhile Char.isDigit
        some (String.ofList name, cs.drop name.length)
      else if specialParameters.contains c then some (String.ofList [c], rest)
      else none
    | [] => none
  match cs with
  | '#' :: '\x7d' :: _ => (named cs).map (false, ·)
  | '#' :: c :: rest =>
    if isNameChar c then (named (c :: rest)).map (true, ·)
    else if specialParameters.contains c && rest.head? = some '\x7d' then
      some (true, String.ofList [c], rest)
    else some (false, "#", c :: rest)
  | cs => (named cs).map (false, ·)

/-! ## Texts for redirections -/

/-- Cuts the rest of a line off: what stands in it and what follows the line break behind it. Line
breaks within quotes do not end it. -/
def restOfLine : Option Char → List Char → List Char × List Char
  | _, [] => ([], [])
  | none, '\n' :: rest => (['\n'], rest)
  | quote, '\\' :: c :: rest =>
    if quote = some '\'' then
      let (line, after) := restOfLine quote (c :: rest)
      ('\\' :: line, after)
    else
      let (line, after) := restOfLine quote rest
      ('\\' :: c :: line, after)
  | quote, c :: rest =>
    let next :=
      match quote with
      | none => if c = '\'' || c = '"' then some c else none
      | some q => if c = q then none else some q
    let (line, after) := restOfLine next rest
    (c :: line, after)

/-- The lines of a text up to one that is equal to a mark, the number of lines that are left behind,
and what follows. Tabs at the starts of lines go away if asked to. The first argument bounds the number
of lines. -/
def document (mark : List Char) (stripped : Bool) : Nat → List Char → List Char × Nat × List Char
  | 0, cs => ([], 0, cs)
  | _, [] => ([], 0, [])
  | fuel + 1, cs =>
    let cs := if stripped then cs.dropWhile (· = '\t') else cs
    let line := cs.takeWhile (· ≠ '\n')
    let rest := cs.drop (line.length + 1)
    if line = mark then ([], 1, rest)
    else
      let (body, n, after) := document mark stripped fuel rest
      let ended := line.length < cs.length
      (line ++ (if ended then ['\n'] else []) ++ body, n + 1, after)

/-- Takes the text of a redirection, which begins behind the present line, out of the script. -/
def takeDocument (mark : String) (stripped : Bool) : Reading (List Char) := do
  let r ← get
  let (line, after) := restOfLine none r.rest
  let (body, n, after) := document mark.toList stripped (after.length + 1) after
  set { r with rest := line ++ after, skipped := r.skipped + n }
  return body

/-! ## Tokens -/

/-- Leaves blanks and a comment behind. The first argument bounds the number of blanks. -/
def skipBlanks : Nat → Reading Unit
  | 0 => return
  | fuel + 1 => do
    match ← peek with
    | some ' ' | some '\t' => do
      skip
      skipBlanks fuel
    | some '#' => modify fun r => { r with rest := r.rest.dropWhile (· ≠ '\n') }
    | _ => return

/-- Leaves the end of a line behind, and the texts for redirections after it. -/
def endLine : Reading Unit := do
  skip
  modify fun r => { r with line := r.line + r.skipped, skipped := 0 }

/-- The operator that some characters begin with, up to one more character. -/
def longer (first : Char) (seconds : List Char) : Reading String := do
  skip
  match ← peek with
  | some c =>
    if seconds.contains c then
      skip
      return String.ofList [first, c]
    else return String.ofList [first]
  | none => return String.ofList [first]

/-- The operator that redirects a stream. -/
def redirection (fd : Option Nat) (c : Char) : Reading Token := do
  if c = '>' then
    let op ← longer '>' ['>', '|', '&']
    return .redirect (fd.getD 1) op
  else
    let op ← longer '<' ['<', '&', '>']
    let op ←
      if op = "<<" then
        match ← peek with
        | some '-' => do
          skip
          pure "<<-"
        | _ => pure op
      else pure op
    return .redirect (fd.getD 0) op

/-- How to read what stands within something else. -/
structure Inner where
  /-- The parts of a word up to its end. -/
  parts : Setting → Reading (List Part)
  /-- Commands up to a token that ends them. -/
  list : (optional : Bool) → Reading (List Command × Token)
  /-- One command. -/
  command : Reading Command
  /-- The parts of a command with conditions behind its first word. -/
  branch : Reading Command

/-- The number of steps that what is left of a script can take. -/
def bound : Reading Nat := return (← get).rest.length + 2

/-- Keeps a token for the next look. -/
def keep (t : Token) : Reading Unit := modify fun r => { r with pushed := some t }

/-- Reads commands that stand in a text of their own. -/
def apart (inner : Inner) (cs : List Char) : Reading (List Command × Token) := do
  let r ← get
  set { r with rest := cs, pushed := none, skipped := 0 }
  let result ← inner.list true
  set r
  return result

/-- Reads commands between parentheses, the first of which is behind. -/
def enclosed (inner : Inner) : Reading (List Command) := do
  let pushed := (← get).pushed
  modify fun r => { r with pushed := none }
  let (commands, t) ← inner.list true
  if t.isOperator ")" then
    modify fun r => { r with pushed := pushed }
    return commands
  else unexpected t (some (.operator ")"))

/-- Reads an unknown action on a parameter up to the brace that ends it. -/
def unknownAction (inner : Inner) (setting : Setting) (name : String) : Reading Part := do
  let _ ← inner.parts setting
  return .parameter name .unknown setting.quotes

/-- Reads a parameter in braces, the first of which is behind. -/
def braced (inner : Inner) (quoted : Bool) : Reading Part := do
  let setting := if quoted then Setting.doubleBraces else .braces
  let _ ← peek
  let r ← get
  match bracedName r.rest with
  | none => do
    match r.rest with
    | c :: rest => set { r with rest := if c = '\x7d' then c :: rest else rest }
    | [] => pure ()
    unknownAction inner setting ""
  | some (true, name, rest) =>
    set { r with rest := rest }
    match rest with
    | '\x7d' :: rest => do
      set { r with rest := rest }
      return .parameter name .length quoted
    | _ => unknownAction inner setting name
  | some (false, name, rest) =>
    let (orEmpty, rest) :=
      match rest with
      | ':' :: rest => (true, rest)
      | rest => (false, rest)
    match rest with
    | [] => do
      set { r with rest := rest }
      unknownAction inner setting name
    | c :: after =>
      set { r with rest := after }
      if c = '\x7d' then return .parameter name (if orEmpty then .unknown else .value) quoted
      else if ['-', '+', '?', '='].contains c then
        let word ← inner.parts setting
        return .parameter name (.instead c orEmpty word) quoted
      else if (c = '%' || c = '#') && !orEmpty then
        let longest := after.head? = some c
        set { r with rest := if longest then after.drop 1 else after }
        let pattern ← inner.parts .braces
        return .parameter name (.trim (c = '%') longest pattern) quoted
      else unknownAction inner setting name

/-- Reads what a dollar sign begins, if it begins anything. -/
def dollar (inner : Inner) (quoted : Bool) : Reading (Option Part) := do
  match ← peek with
  | none => return none
  | some '(' => do
    skip
    match ← peek with
    | some '(' => do
      skip
      let expression ← inner.parts (.arithmetic 0)
      return some (.number expression quoted)
    | _ => do
      let commands ← enclosed inner
      return some (.output commands quoted)
  | some '\x7b' => do
    skip
    let part ← braced inner quoted
    return some part
  | some c =>
    if isNameStart c then
      let r ← get
      let name := r.rest.takeWhile isNameChar
      set { r with rest := r.rest.drop name.length }
      return some (.parameter (String.ofList name) .value quoted)
    else if c.isDigit || specialParameters.contains c then
      skip
      return some (.parameter (String.ofList [c]) .value quoted)
    else return none

/-- Reads commands between backquotes, the first of which is behind. -/
def backquoted (inner : Inner) (quoted : Bool) : Reading Part := do
  let r ← get
  match upToBackquote quoted r.rest with
  | none => do
    set { r with rest := [], line := r.line + breaks r.rest }
    refuse "EOF in backquote substitution"
  | some (cs, rest) =>
    let (commands, _) ← apart inner cs
    let length := r.rest.length - rest.length
    set { r with rest := rest, line := r.line + breaks (r.rest.take length) }
    return .output commands quoted

/-- Reads text between single quotes, the first of which is behind. -/
def singleQuoted : Reading String := do
  let r ← get
  match upToQuote r.rest with
  | none => do
    set { r with rest := [], line := r.line + breaks r.rest }
    refuse "Unterminated quoted string"
  | some (cs, rest) => do
    set { r with rest := rest, line := r.line + breaks cs }
    return String.ofList cs

/-- Reads what a backslash stands for that is behind. -/
def escaped (setting : Setting) : Reading String := do
  match ← take with
  | none => return "\\"
  | some d =>
    let goesAway := !setting.quotes || d = '$' || d = '`' || d = '\\' ||
      (d = '"' && setting ≠ .document) || (d = '\x7d' && setting = .doubleBraces)
    return String.ofList (if goesAway then [d] else ['\\', d])

/-- What a text that ends too early lacks. -/
def missingEnd : Setting → Option String
  | .plain | .document => none
  | .arithmetic _ => some "Missing '))'"
  | .braces => some "Missing '\x7d'"
  | .double | .doubleBraces => some "Unterminated quoted string"

/-- Whether a character ends a word in a setting. -/
def Setting.isEnd (c : Char) : Setting → Bool
  | .plain => wordEnds.contains c
  | .braces | .doubleBraces => c = '\x7d'
  | .double => c = '"'
  | .document | .arithmetic _ => false

/-- Reads further parts of a word up to its end in a setting; the end is left behind unless it belongs
to what follows. The first argument bounds the number of steps. -/
def moreParts (inner : Inner) : Nat → Setting → List Part → Reading (List Part)
  | 0, _, before => return before
  | fuel + 1, setting, before => do
    let quoted := setting.quotes
    let add (s : String) (quoted : Bool) : Reading (List Part) :=
      moreParts inner fuel setting (addText before s quoted)
    match ← peek with
    | none =>
      match missingEnd setting with
      | some message => refuse message
      | none => return before
    | some c =>
      if Setting.isEnd c setting then
        if setting ≠ .plain then skip
        return before
      else if c = '\\' then
        skip
        let s ← escaped setting
        add s true
      else if c = '\'' && !quoted then
        skip
        let s ← singleQuoted
        add s true
      else if c = '"' && !quoted then
        skip
        let parts ← inner.parts .double
        let parts := if parts.isEmpty then addText before "" true else before ++ parts
        moreParts inner fuel setting parts
      else if c = '"' && setting = .doubleBraces then
        skip
        moreParts inner fuel setting before
      else if c = '`' then
        skip
        let part ← backquoted inner quoted
        moreParts inner fuel setting (before ++ [part])
      else if c = '$' then
        skip
        match ← dollar inner quoted with
        | some part => moreParts inner fuel setting (before ++ [part])
        | none => add "$" quoted
      else
        skip
        match setting with
        | .arithmetic depth =>
          if c = ')' && depth = 0 then
            let after ← peek
            if after = some ')' then
              skip
              return before
            else add ")" quoted
          else
            let depth := if c = '(' then depth + 1 else if c = ')' then depth - 1 else depth
            moreParts inner fuel (.arithmetic depth) (addText before (String.ofList [c]) quoted)
        | _ => add (String.ofList [c]) quoted

/-- Reads the parts of a word up to its end in a setting. -/
def parts (inner : Inner) (setting : Setting) : Reading (List Part) := do
  moreParts inner (← bound) setting []

/-- Reads a word, or an operator that redirects the stream of a number. -/
def wordToken (inner : Inner) : Reading Token := do
  let w : Word ← parts inner .plain
  match w.plain?.map String.toList, ← peek with
  | some [digit], some c =>
    if digit.isDigit && (c = '<' || c = '>') then redirection (some (digit.toNat - 48)) c
    else return .word w
  | _, _ => return .word w

/-- Reads a token of the script. -/
def freshToken (inner : Inner) : Reading Token := do
  skipBlanks (← bound)
  match ← peek with
  | none => return .finish
  | some '\n' => do
    endLine
    return .newline
  | some '&' => .operator <$> longer '&' ['&']
  | some '|' => .operator <$> longer '|' ['|']
  | some ';' => .operator <$> longer ';' [';']
  | some '(' => do
    skip
    return .operator "("
  | some ')' => do
    skip
    return .operator ")"
  | some c => if c = '<' || c = '>' then redirection none c else wordToken inner

/-- Reads tokens up to one that is no line break. The first argument bounds their number. -/
def pastNewlines (inner : Inner) : Nat → Token → Reading Token
  | fuel + 1, .newline => do
    let t ← freshToken inner
    pastNewlines inner fuel t
  | _, t => return t

/-- The text that a name stands for where it is read, if that is not being read already. -/
def aliasOf? (r : Reader) (name : String) : Option String :=
  if r.active.any fun (n, left) => n = name && left ≤ r.rest.length then none
  else r.aliases.lookup name

/-- Reads the next token in the place of one that has just been read, if that is a word that is reserved
or stands for a text. The first argument bounds the number of those. -/
def resolved (inner : Inner) (newlines : Bool) : Nat → Token → Reading Token
  | 0, t => return t
  | fuel + 1, t => do
    let t ← if newlines then pastNewlines inner (← bound) t else pure t
    match t with
    | .word w =>
      match w.plain? with
      | none => return t
      | some s =>
        let r ← get
        if keywords.contains s then return .keyword s
        else
          match aliasOf? r s with
          | none => return t
          | some value => do
            set { r with
              rest := value.toList ++ r.rest
              active := (s, r.rest.length) :: r.active }
            let t ← freshToken inner
            resolved inner newlines fuel t
    | t => return t

/-- Reads the next token. Line breaks are passed over and reserved words are looked for if asked to.
-/
def token (inner : Inner) (newlines reserved : Bool) : Reading Token := do
  let r ← get
  set { r with pushed := none }
  let t ←
    match r.pushed with
    | some t => pure t
    | none => freshToken inner
  if reserved then resolved inner newlines (r.aliases.length + 1) t
  else if newlines then pastNewlines inner (← bound) t
  else return t

/-- Passes over line breaks and looks at the token behind them, which may be a reserved word. -/
def lookAhead (inner : Inner) : Reading Unit := do
  keep (← token inner true true)

/-! ## Simple commands -/

/-- Reads what a stream is redirected to. -/
def target (inner : Inner) (fd : Nat) (op : String) : Reading Redirect := do
  match ← token inner false false with
  | .word w =>
    match op with
    | ">" => return .file fd .write w
    | ">|" => return .file fd .replace w
    | ">>" => return .file fd .append w
    | "<" => return .file fd .read w
    | "<>" => return .file fd .readWrite w
    | "<<" | "<<-" => do
      let body ← takeDocument w.bareText (op = "<<-")
      if w.isQuoted then return .text fd [.text (String.ofList body) true]
      else
        let r ← get
        set { r with rest := body, pushed := none, skipped := 0 }
        let parts ← inner.parts .document
        set r
        return .text fd parts
    | _ => return .copy fd w
  | t => unexpected t none

/-- Reads further redirections behind a command. The first argument bounds their number. -/
def redirects (inner : Inner) : Nat → List Redirect → Reading (List Redirect)
  | 0, before => return before
  | fuel + 1, before => do
    match ← token inner false true with
    | .redirect fd op => do
      let redirect ← target inner fd op
      redirects inner fuel (before ++ [redirect])
    | t => do
      keep t
      return before

/-- Reads the body of a function behind its name and an opening parenthesis. -/
def function (inner : Inner) (w : Word) : Reading Command := do
  let close ← token inner false false
  if close.isOperator ")" then
    let name := w.bareText
    if !isName name || w.isQuoted || specialNames.contains name then refuse "Bad function name"
    else
      lookAhead inner
      let line := (← get).line
      let body ← inner.command
      return .function line name body
  else unexpected close (some (.operator ")"))

/-- Reads the words, the assignments and the redirections of a simple command. The first argument
bounds their number. -/
def simple (inner : Inner) (line : Nat) :
    Nat → List (String × Word) → List Word → List Redirect → Reading Command
  | 0, assignments, words, redirects => return .simple line assignments words redirects
  | fuel + 1, assignments, words, redirects => do
    match ← token inner false false with
    | .word w =>
      match words, w.assignment? with
      | [], some a => simple inner line fuel (assignments ++ [a]) words redirects
      | _, _ => simple inner line fuel assignments (words ++ [w]) redirects
    | .redirect fd op => do
      let redirect ← target inner fd op
      simple inner line fuel assignments words (redirects ++ [redirect])
    | t =>
      match t.isOperator "(", words, assignments, redirects with
      | true, [w], [], [] => function inner w
      | _, _, _, _ => do
        keep t
        return .simple line assignments words redirects

/-! ## Compound commands -/

/-- Reads commands up to a certain token. -/
def listUpTo (inner : Inner) (last : Token) (isLast : Token → Bool) : Reading (List Command) := do
  let (commands, t) ← inner.list false
  if isLast t then return commands else unexpected t (some last)

/-- Reads commands up to a reserved word. -/
def listUpToKeyword (inner : Inner) (name : String) : Reading (List Command) :=
  listUpTo inner (.keyword name) (·.isKeyword name)

/-- Reads the parts of a command with conditions behind its first word. -/
def branch (inner : Inner) : Reading Command := do
  let condition ← listUpToKeyword inner "then"
  let (yes, t) ← inner.list false
  match t with
  | .keyword "elif" => do
    let no ← inner.branch
    return .branch condition yes [no]
  | .keyword "else" => do
    let no ← listUpToKeyword inner "fi"
    return .branch condition yes no
  | .keyword "fi" => return .branch condition yes []
  | t => unexpected t (some (.keyword "fi"))

/-- Reads a loop behind its first word. -/
def loop (inner : Inner) (inverted : Bool) : Reading Command := do
  let condition ← listUpToKeyword inner "do"
  let body ← listUpToKeyword inner "done"
  return .loop inverted condition body

/-- Reads words up to another token, which is given as well. The first argument bounds their number. -/
def wordList (inner : Inner) : Nat → List Word → Reading (List Word × Token)
  | 0, before => return (before, .finish)
  | fuel + 1, before => do
    match ← token inner false false with
    | .word w => wordList inner fuel (before ++ [w])
    | t => return (before, t)

/-- Reads the words that a loop is over: those that are named, or the arguments. -/
def loopWords (inner : Inner) : Reading (List Word) := do
  let t ← token inner true true
  if t.isKeyword "in" then
    let (words, t) ← wordList inner (← bound) []
    match t with
    | .newline => return words
    | t => if t.isOperator ";" then return words else unexpected t none
  else
    if !t.isOperator ";" then keep t
    return [[.parameter "@" .value true]]

/-- Reads a loop over words behind its first word. -/
def forEach (inner : Inner) (line : Nat) : Reading Command := do
  match ← token inner false false with
  | .word w =>
    match w.plain? with
    | none => refuse "Bad for loop variable"
    | some name =>
      if !isName name then refuse "Bad for loop variable"
      else
        let words ← loopWords inner
        let t ← token inner true true
        if t.isKeyword "do" then
          let body ← listUpToKeyword inner "done"
          return .forEach line name words body
        else unexpected t (some (.keyword "do"))
  | _ => refuse "Bad for loop variable"

/-- Reads the patterns of a case, the first of which has been read. The first argument bounds their
number. -/
def patternList (inner : Inner) : Nat → Token → List Word → Reading (List Word)
  | 0, _, before => return before
  | fuel + 1, t, before => do
    let w : Word :=
      match t with
      | .word w => w
      | .keyword name => [.text name false]
      | _ => []
    let next ← token inner false false
    if next.isOperator "|" then
      let t ← token inner false false
      patternList inner fuel t (before ++ [w])
    else if next.isOperator ")" then return before ++ [w]
    else unexpected next (some (.operator ")"))

/-- Reads the cases of a choice. The first argument bounds their number. -/
def selectCases (inner : Inner) :
    Nat → List (List Word × List Command) → Reading (List (List Word × List Command))
  | 0, before => return before
  | fuel + 1, before => do
    let t ← token inner true true
    if t.isKeyword "esac" then return before
    else
      let t ← if t.isOperator "(" then token inner false false else pure t
      let patterns ← patternList inner (← bound) t []
      let (commands, t) ← inner.list true
      let done := before ++ [(patterns, commands)]
      if t.isKeyword "esac" then return done
      else if t.isOperator ";;" then selectCases inner fuel done
      else unexpected t (some (.operator ";;"))

/-- Reads a choice behind its first word. -/
def select (inner : Inner) (line : Nat) : Reading Command := do
  match ← token inner false false with
  | .word w => do
    let t ← token inner true true
    if t.isKeyword "in" then
      let cases ← selectCases inner (← bound) []
      return .select line w cases
    else unexpected t (some (.keyword "in"))
  | t => unexpected t (some (.word []))

/-- Reads a command that begins with a token, if it is no simple one. -/
def compound? (inner : Inner) (line : Nat) (t : Token) : Option (Reading Command) :=
  match t with
  | .keyword "if" => some (branch inner)
  | .keyword "while" => some (loop inner false)
  | .keyword "until" => some (loop inner true)
  | .keyword "for" => some (forEach inner line)
  | .keyword "case" => some (select inner line)
  | .keyword "\x7b" => some (.list <$> listUpToKeyword inner "\x7d")
  | .operator "(" =>
    some (.subshell line <$> listUpTo inner (.operator ")") (·.isOperator ")"))
  | _ => none

/-- Reads a command. -/
def command (inner : Inner) : Reading Command := do
  let line := (← get).line
  let t ← token inner false false
  match compound? inner line t with
  | some reading => do
    let c ← reading
    let redirects ← redirects inner (← bound) []
    return if redirects.isEmpty then c else .redirected line c redirects
  | none =>
    match t with
    | .word _ | .redirect .. => do
      keep t
      simple inner line (← bound) [] [] []
    | t => unexpected t none

/-! ## Lists -/

/-- Reads further commands of a pipeline. The first argument bounds their number. -/
def pipelineRest (inner : Inner) : Nat → List Command → Reading (List Command)
  | 0, before => return before
  | fuel + 1, before => do
    let t ← token inner false false
    if t.isOperator "|" then
      lookAhead inner
      let c ← command inner
      pipelineRest inner fuel (before ++ [c])
    else
      keep t
      return before

/-- Reads commands that feed each other. -/
def pipeline (inner : Inner) : Reading Command := do
  let t ← token inner false false
  let negated := t.isKeyword "!"
  let t ← if negated then token inner false true else pure t
  keep t
  let first ← command inner
  let all ← pipelineRest inner (← bound) [first]
  let c := if all.length = 1 then first else .pipeline all
  return if negated then .negated c else c

/-- Reads pipelines that run by how the one before ended. The first argument bounds their number. -/
def andOrRest (inner : Inner) : Nat → Command → Reading Command
  | 0, first => return first
  | fuel + 1, first => do
    let t ← token inner false false
    if t.isOperator "&&" then
      lookAhead inner
      let second ← pipeline inner
      andOrRest inner fuel (.andThen first second)
    else if t.isOperator "||" then
      lookAhead inner
      let second ← pipeline inner
      andOrRest inner fuel (.orElse first second)
    else
      keep t
      return first

/-- Reads pipelines that run by how the one before ended. -/
def andOr (inner : Inner) : Reading Command := do
  let first ← pipeline inner
  andOrRest inner (← bound) first

/-- Reads further commands up to a token that ends them, which is given as well. `optional` says
whether there may be no command at all. The first argument bounds their number. -/
def listRest (inner : Inner) (optional : Bool) :
    Nat → List Command → Reading (List Command × Token)
  | 0, before => return (before, .finish)
  | fuel + 1, before => do
    let t ← token inner true true
    match t with
    | .finish => return (before, t)
    | t =>
      if t.endsList && (optional || !before.isEmpty) then return (before, t)
      else
        keep t
        let c ← andOr inner
        let t ← token inner false false
        if t.isOperator "&" then listRest inner optional fuel (before ++ [.background c])
        else if t.isOperator ";" then listRest inner optional fuel (before ++ [c])
        else
          match t with
          | .newline => listRest inner optional fuel (before ++ [c])
          | t => return (before ++ [c], t)

/-- How to read what stands within something else, to a given depth. -/
def inner : Nat → Inner
  | 0 => ⟨fun _ => refuse "Too deep", fun _ => refuse "Too deep", refuse "Too deep",
      refuse "Too deep"⟩
  | depth + 1 =>
    let below := inner depth
    { parts := parts below
      list := fun optional => do listRest below optional (← bound) []
      command := command below
      branch := branch below }

/-- Reads further commands of a line. The first argument bounds their number. -/
def lineRest (inner : Inner) : Nat → List Command → Reading (List Command)
  | 0, before => return before
  | fuel + 1, before => do
    let t ← token inner false true
    match t with
    | .newline => return before
    | .finish => do
      keep t
      return before
    | t =>
      keep t
      let c ← andOr inner
      let t ← token inner false false
      if t.isOperator "&" then lineRest inner fuel (before ++ [.background c])
      else if t.isOperator ";" then lineRest inner fuel (before ++ [c])
      else
        match t with
        | .newline => return before ++ [c]
        | .finish => do
          keep t
          return before ++ [c]
        | t => unexpected t none

/-- The start of a script. -/
def start (script : String) : Reader := ⟨script.toList, 1, 0, none, [], []⟩

/-- Whether a script is read to its end. -/
def isDone (r : Reader) : Bool :=
  match r.pushed with
  | some .finish => true
  | some _ => false
  | none => r.rest.isEmpty

/-- Whether nothing follows what has been read, which is known already. -/
def isAtEnd (r : Reader) : Bool :=
  match r.pushed with
  | some .finish => true
  | _ => false

/-- How deep commands and words may stand within each other. -/
def depthLimit : Nat := 500

/-- The commands of the next line and what is left of the script, or the fault in it. -/
def next (r : Reader) : Except Complaint (List Command × Reader) :=
  (lineRest (inner (min (r.rest.length + 2) depthLimit)) (r.rest.length + 2) []).run r

end Reader

end ImageBuild.Shell
