import ImageBuild.FileSystem.Resolve
import ImageBuild.Text.Numeral
import ImageBuild.Text.Octets

/-!
# Conditions

The words of a condition are operators and operands. An operator in front of an operand asks for
something about a text or a file, one between two operands compares them, and conditions are joined by
`-a`, `-o`, `!` and parentheses. With up to four words their number says how they are read.
-/

namespace ImageBuild.Shell.Condition

/-- What conditions look at. -/
structure Surroundings where
  files : FileSystem
  dir : Place
  /-- Whether a path leads to an installed program. -/
  isProgram : String → Bool

/-- The operators in front of an operand. -/
def unaryOperators : List String :=
  ["-b", "-c", "-d", "-e", "-f", "-G", "-g", "-h", "-k", "-L", "-n", "-O", "-p", "-r", "-S", "-s",
   "-t", "-u", "-w", "-x", "-z"]

/-- The operators between two operands. -/
def binaryOperators : List String :=
  ["=", "!=", "<", ">", "-eq", "-ne", "-gt", "-ge", "-lt", "-le", "-nt", "-ot", "-ef"]

/-- What a word is in a condition. -/
inductive Kind
  | unary
  | binary
  | both
  | either
  | opposite
  | opening
  | closing
  | operand
  /-- There is no word. -/
  | missing
  deriving DecidableEq, Repr

/-- What a word is, if it is an operator. -/
def operatorKind? (word : String) : Option Kind :=
  if unaryOperators.contains word then some .unary
  else if binaryOperators.contains word then some .binary
  else
    match word with
    | "-a" => some .both
    | "-o" => some .either
    | "!" => some .opposite
    | "(" => some .opening
    | ")" => some .closing
    | _ => none

/-- What the first word of a condition is, by those behind it. -/
def kindOf : List String → Kind
  | [] => .missing
  | word :: rest =>
    match operatorKind? word with
    | none => .operand
    | some .unary =>
      match rest with
      | [] => .operand
      | [_] => .unary
      | next :: _ => if operatorKind? next = some .binary then .operand else .unary
    | some .opening => if rest = [] then .operand else .opening
    | some kind => kind

/-! ## Tests -/

/-- The node that a path leads to; links at its end are followed if asked to. -/
def node? (s : Surroundings) (path : String) : Option Node :=
  (s.files.resolve s.dir (Text.Octets.toText path)).toOption.bind s.files.lookup

/-- The node at a path itself, which may be a link. -/
def ownNode? (s : Surroundings) (path : String) : Option Node :=
  let steps := (Path.ofText (Text.Octets.toText path)).steps
  match steps.reverse with
  | .name n :: before =>
    let start : Place := if path.startsWith "/" then [] else s.dir
    match s.files.follow start before.reverse with
    | .ok dir => s.files.lookup (dir ++ [n])
    | .error _ => none
  | _ => node? s path

/-- The devices that every host has. -/
def devices : List String := ["/dev/null", "/dev/zero", "/dev/full", "/dev/random", "/dev/urandom"]

/-- The permissions of a node. -/
def modeOf : Node → Mode
  | .file _ mode _ => mode
  | .dir mode => mode
  | .pipe mode => mode
  | .socket mode => mode
  | .link _ => 0o777

/-- The answer of an operator in front of an operand. -/
def unary (s : Surroundings) (op operand : String) : Except String Bool :=
  let device := devices.contains operand
  let program := s.isProgram operand
  let node := node? s operand
  let test (p : Node → Bool) : Except String Bool := .ok (node.any p)
  match op with
  | "-n" => .ok (operand ≠ "")
  | "-z" => .ok (operand = "")
  | "-e" | "-r" | "-w" | "-O" | "-G" => .ok (device || program || node.isSome)
  | "-c" => .ok device
  | "-d" => test (·.isDir)
  | "-f" => if program then .ok true else test (·.isFile)
  | "-h" | "-L" => .ok ((ownNode? s operand).any fun
    | .link _ => true
    | _ => false)
  | "-p" => test fun
    | .pipe _ => true
    | _ => false
  | "-S" => test fun
    | .socket _ => true
    | _ => false
  | "-s" => if program then .ok true else test fun
    | .file content _ _ => content ≠ []
    | .dir _ => true
    | _ => false
  | "-x" => if program then .ok true else test fun n => n.isDir || modeOf n &&& 0o111 != 0
  | "-u" => test fun n => modeOf n &&& 0o4000 != 0
  | "-g" => test fun n => modeOf n &&& 0o2000 != 0
  | "-k" => test fun n => modeOf n &&& 0o1000 != 0
  | "-t" =>
    match Text.Numeral.decimal? operand with
    | some _ => .ok false
    | none => .error ("Illegal number: " ++ operand)
  | _ => .ok false

/-- The time of the file that a path leads to. -/
def timeOf? (s : Surroundings) (path : String) : Option Time :=
  match node? s path with
  | some (.file _ _ time) => some time
  | some _ => some ⟨0, 0⟩
  | none => none

/-- Whether a time is after another one. -/
def isAfter (a b : Time) : Bool := b.seconds < a.seconds || (a.seconds = b.seconds && b.nanos < a.nanos)

/-- The answer of an operator between two operands. -/
def binary (s : Surroundings) (op a b : String) : Except String Bool :=
  let compare (p : Int → Int → Bool) : Except String Bool :=
    match Text.Numeral.decimal? a, Text.Numeral.decimal? b with
    | none, _ => .error ("Illegal number: " ++ a)
    | _, none => .error ("Illegal number: " ++ b)
    | some m, some n => .ok (p m n)
  match op with
  | "=" => .ok (a = b)
  | "!=" => .ok (a ≠ b)
  | "<" => .ok (decide (a < b))
  | ">" => .ok (decide (b < a))
  | "-eq" => compare fun m n => m = n
  | "-ne" => compare fun m n => m ≠ n
  | "-gt" => compare fun m n => n < m
  | "-ge" => compare fun m n => n ≤ m
  | "-lt" => compare fun m n => m < n
  | "-le" => compare fun m n => m ≤ n
  | "-nt" =>
    match timeOf? s a, timeOf? s b with
    | some t, some u => .ok (isAfter t u)
    | some _, none => .ok true
    | _, _ => .ok false
  | "-ot" =>
    match timeOf? s a, timeOf? s b with
    | some t, some u => .ok (isAfter u t)
    | none, some _ => .ok true
    | _, _ => .ok false
  | "-ef" =>
    let place (path : String) : Option Place :=
      (s.files.resolve s.dir (Text.Octets.toText path)).toOption
    .ok ((place a).isSome && place a = place b)
  | _ => .ok false

/-! ## Reading -/

/-- A step of reading a condition: the answer and the last word that belongs to it with those behind. -/
abbrev Reading := Kind → List String → Except String (Bool × List String)

/-- Fails because of a word. -/
def refuse {α : Type} (word message : String) : Except String α :=
  .error (if word = "" then message else word ++ ": " ++ message)

/-- Reads a condition without an operator that joins or turns it round. -/
def primary (s : Surroundings) (inner : Reading) : Reading
  | .missing, words => .ok (false, words)
  | .opening, words =>
    let rest := words.drop 1
    if kindOf rest = .closing then .ok (false, rest)
    else do
      let (answer, rest) ← inner (kindOf rest) rest
      let after := rest.drop 1
      if kindOf after = .closing then .ok (answer, after) else refuse "" "closing paren expected"
  | .unary, op :: rest =>
    match rest with
    | [] => refuse op "argument expected"
    | operand :: _ => (unary s op operand).map fun answer => (answer, rest)
  | _, [] => .ok (false, [])
  | _, word :: rest =>
    if kindOf rest = .binary then
      match rest with
      | op :: b :: after => (binary s op word b).map fun answer => (answer, b :: after)
      | op :: [] => refuse op "argument expected"
      | [] => .ok (word ≠ "", [word])
    else .ok (word ≠ "", word :: rest)

/-- Reads a condition with operators in front that turn it round. The third argument bounds their
number. -/
def negation (s : Surroundings) (inner : Reading) : Nat → Reading
  | fuel + 1, .opposite, words =>
    let rest := words.drop 1
    match kindOf rest with
    | .missing => .ok (true, words)
    | kind => (negation s inner fuel kind rest).map fun (answer, rest) => (!answer, rest)
  | _, kind, words => primary s inner kind words

/-- Reads conditions of which all have to hold. The third argument bounds their number. -/
def conjunction (s : Surroundings) (inner : Reading) : Nat → Bool → Reading
  | 0, before, _, words => .ok (before, words)
  | fuel + 1, before, kind, words => do
    let (answer, rest) ← negation s inner words.length kind words
    let answer := before && answer
    if kindOf (rest.drop 1) = .both then
      conjunction s inner fuel answer (kindOf (rest.drop 2)) (rest.drop 2)
    else return (answer, rest)

/-- Reads conditions of which one has to hold. The third argument bounds their number. -/
def disjunction (s : Surroundings) (inner : Reading) : Nat → Bool → Reading
  | 0, before, _, words => .ok (before, words)
  | fuel + 1, before, kind, words => do
    let (answer, rest) ← conjunction s inner (words.length + 1) true kind words
    let answer := before || answer
    if kindOf (rest.drop 1) = .either then
      disjunction s inner fuel answer (kindOf (rest.drop 2)) (rest.drop 2)
    else return (answer, rest)

/-- Reads a condition that goes to some depth. -/
def reading (s : Surroundings) : Nat → Reading
  | 0 => fun _ words => .ok (false, words)
  | depth + 1 => fun kind words =>
    disjunction s (reading s depth) (words.length + 1) false kind words

/-- Reads words as a condition; no word may be left. -/
def whole (s : Surroundings) (kind : Kind) (words : List String) : Except String Bool := do
  let (answer, rest) ← reading s (words.length + 1) kind words
  match rest with
  | word :: _ :: _ => refuse word "unexpected operator"
  | _ => return answer

/-- Whether words, as many as there are, hold as a condition. -/
def eval (s : Surroundings) : List String → Except String Bool
  | [] => .ok false
  | words =>
    let enclosed := words.head? = some "(" && words.getLast? = some ")"
    match words with
    | [a, op, b] =>
      if operatorKind? op = some .binary then whole s .operand words
      else if enclosed then whole s (kindOf [op]) [op]
      else if a = "!" then (eval s [op, b]).map (!·)
      else whole s (kindOf words) words
    | [a, b, c, d] =>
      if enclosed then whole s (kindOf [b, c]) [b, c]
      else if a = "!" then (eval s [b, c, d]).map (!·)
      else whole s (kindOf words) words
    | _ => whole s (kindOf words) words

end ImageBuild.Shell.Condition
