import ImageBuild.Command.Call
import ImageBuild.Command.Search

/-!
# Calculations in arguments

The arguments of a calculation are operands and operators, one in each argument. A value is a text, which
counts as a number where it writes one; it is false if it is empty or zero.
-/

namespace ImageBuild.Programs.Calculation

/-- A step of reading a calculation: its value and the arguments behind it, or what is wrong. -/
abbrev Reader := List String → Except String (String × List String)

/-- The whole number that a text writes. -/
def number? (s : String) : Option Int :=
  let digits := if s.startsWith "-" then (s.drop 1).toString else s
  if digits ≠ "" && digits.toList.all Char.isDigit then s.toInt? else none

/-- Whether a value is false. -/
def isFalse (s : String) : Bool := s = "" || number? s = some 0

/-- The value of an answer. -/
def ofBool (b : Bool) : String := if b then "1" else "0"

/-- The value of a match at the start of a text: its first group, or its length. -/
def matched (s pattern : String) : Except String String :=
  match Search.ofText? false pattern.toList with
  | none => .error "Invalid regular expression"
  | some e =>
    let hasGroup := (pattern.splitOn "\\(").length > 1
    match Search.longest? false e ⟨none, s.toList, []⟩ with
    | none => .ok (if hasGroup then "" else "0")
    | some p =>
      .ok (if hasGroup then String.ofList ((p.groups.lookup 1).getD [])
        else toString (s.length - p.rest.length))

/-- The value of an operator between two numbers. -/
def arithmetic (op a b : String) : Except String String :=
  match number? a, number? b with
  | some m, some n =>
    if (op = "/" || op = "%") && n = 0 then .error "division by zero"
    else
      .ok <| toString <|
        match op with
        | "+" => m + n
        | "-" => m - n
        | "*" => m * n
        | "/" => m.tdiv n
        | _ => m.tmod n
  | _, _ => .error "non-integer argument"

/-- The value of a comparison. -/
def comparison (op a b : String) : String :=
  let order : Ordering :=
    match number? a, number? b with
    | some m, some n => compare m n
    | _, _ => compare a b
  ofBool <|
    match op with
    | "<" => order == .lt
    | "<=" => order != .gt
    | "=" | "==" => order == .eq
    | "!=" => order != .eq
    | ">=" => order != .lt
    | _ => order == .gt

/-- Reads a value, a function of values or a calculation in parentheses. -/
def operand (inner : Reader) : Reader
  | [] => .error "syntax error: missing argument"
  | "(" :: rest => do
    let (v, rest) ← inner rest
    match rest with
    | ")" :: rest => return (v, rest)
    | [] => .error "syntax error: expecting ')'"
    | s :: _ => .error ("syntax error: expecting ')' instead of " ++ quoted s)
  | ")" :: _ => .error "syntax error: unexpected ')'"
  | "length" :: s :: rest => .ok (toString s.length, rest)
  | "match" :: s :: pattern :: rest => (matched s pattern).map (·, rest)
  | "index" :: s :: set :: rest =>
    .ok (toString ((s.toList.findIdx? set.toList.contains).map (· + 1) |>.getD 0), rest)
  | "substr" :: s :: from_ :: size :: rest =>
    match number? from_, number? size with
    | some m, some n =>
      .ok (if m ≤ 0 || n ≤ 0 then "" else
        String.ofList ((s.toList.drop (m.toNat - 1)).take n.toNat), rest)
    | _, _ => .ok ("", rest)
  | s :: rest => .ok (s, rest)

/-- Reads further operands behind one. The first argument bounds their number. -/
def chain (next : Reader) (ops : List String) (combine : String → String → String → Except String String) :
    Nat → String → Reader
  | 0, v, rest => .ok (v, rest)
  | fuel + 1, v, op :: rest =>
    if ops.contains op then do
      match rest with
      | [] => .error ("syntax error: missing argument after " ++ quoted op)
      | rest =>
        let (w, rest) ← next rest
        let v ← combine op v w
        chain next ops combine fuel v rest
    else .ok (v, op :: rest)
  | _, v, [] => .ok (v, [])

/-- Reads operands with operators between them. -/
def chained (next : Reader) (ops : List String) (combine : String → String → String → Except String String) :
    Reader := fun args => do
  let (v, rest) ← next args
  chain next ops combine args.length v rest

/-- Reads a calculation that goes to some depth. -/
def reader : Nat → Reader
  | 0 => fun _ => .error "syntax error"
  | depth + 1 =>
    let products := chained (chained (operand (reader depth)) [":"] fun _ => matched) ["*", "/", "%"]
      arithmetic
    let comparisons := chained (chained products ["+", "-"] arithmetic)
      ["<", "<=", "=", "==", "!=", ">=", ">"] fun op a b => .ok (comparison op a b)
    let both := chained comparisons ["&"] fun _ a b => .ok (if isFalse a || isFalse b then "0" else a)
    chained both ["|"] fun _ a b =>
      .ok (if !isFalse a then a else if !isFalse b then b else "0")

/-- Calculates what its arguments say and writes the value. -/
def expr : Program := Call.run fun i => do
  let args := (if i.args.head? = some "--" then i.args.drop 1 else i.args).map Text.Octets.ofText
  if args = [] then Call.misuse i "missing operand" 2
  match reader (args.length + 1) args with
  | .error message => Call.stop i message 2
  | .ok (_, s :: _) => Call.stop i ("syntax error: unexpected argument " ++ quoted s) 2
  | .ok (v, []) => do
    Call.line v
    if isFalse v then throw 1

end ImageBuild.Programs.Calculation
