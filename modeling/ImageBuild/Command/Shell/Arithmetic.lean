import ImageBuild.Text.Numeral

/-!
# Arithmetic of the shell

An arithmetic expression is about whole numbers of sixty-four bits and about variables, which may be
set in it. It is cut into tokens and evaluated while they are read, so that of two faults the first one
counts. Operands whose value does not matter are read only.
-/

namespace ImageBuild.Shell.Arithmetic

open Text.Numeral

/-- Why an expression has no value. -/
inductive Fault
  /-- The expression is wrong, or divides by zero. -/
  | expression (reason : String)
  /-- A text that should be a number is none. -/
  | number (text : String)
  deriving DecidableEq, Repr

/-- The number of values of a word. -/
def modulus : Nat := 18446744073709551616

/-- A number as a word holds it. -/
def wrap (n : Int) : Int := n.bmod modulus

/-! ## Tokens -/

/-- A token of an expression. -/
inductive Token
  | number (n : Int)
  | name (s : String)
  | operator (s : String)
  | unknown
  deriving DecidableEq, Repr

/-- The operators, longer ones before those they begin with. -/
def operators : List String :=
  ["<<=", ">>=", "&&", "||", "<=", ">=", "==", "!=", "<<", ">>", "+=", "-=", "*=", "/=", "%=", "&=",
   "^=", "|=", "+", "-", "*", "/", "%", "<", ">", "=", "!", "~", "&", "^", "|", "?", ":", "(", ")"]

/-- The tokens of an expression. The first argument bounds their number. -/
def tokens : Nat → List Char → List Token
  | 0, _ => []
  | _, [] => []
  | fuel + 1, c :: cs =>
    if isSpace c then tokens fuel cs
    else if c.isDigit then
      match leadingNumber? (c :: cs) with
      | some (n, rest) => .number (clamp n) :: tokens fuel rest
      | none => [.unknown]
    else if c.isAlpha || c = '_' then
      let name := (c :: cs).takeWhile fun d => d.isAlphanum || d == '_'
      .name (String.ofList name) :: tokens fuel ((c :: cs).drop name.length)
    else
      match operators.find? fun op => op.toList.isPrefixOf (c :: cs) with
      | some op => .operator op :: tokens fuel ((c :: cs).drop op.length)
      | none => [.unknown]

/-! ## Values -/

/-- One for what holds and zero for what does not. -/
def ofBool (b : Bool) : Int := if b then 1 else 0

/-- The bits of a number. -/
def bits (n : Int) : Nat := (n % (modulus : Int)).toNat

/-- The value of an operator between two numbers. -/
def operate (op : String) (a b : Int) : Except Fault Int :=
  let shift := bits b % 64
  match op with
  | "+" => .ok (wrap (a + b))
  | "-" => .ok (wrap (a - b))
  | "*" => .ok (wrap (a * b))
  | "/" => if b = 0 then .error (.expression "division by zero") else .ok (wrap (a.tdiv b))
  | "%" => if b = 0 then .error (.expression "division by zero") else .ok (wrap (a.tmod b))
  | "<<" => .ok (wrap (bits a <<< shift))
  | ">>" => .ok (a >>> shift)
  | "<" => .ok (ofBool (a < b))
  | "<=" => .ok (ofBool (a ≤ b))
  | ">" => .ok (ofBool (b < a))
  | ">=" => .ok (ofBool (b ≤ a))
  | "==" => .ok (ofBool (a = b))
  | "!=" => .ok (ofBool (a ≠ b))
  | "&" => .ok (wrap ((bits a &&& bits b : Nat) : Int))
  | "^" => .ok (wrap ((Nat.xor (bits a) (bits b) : Nat) : Int))
  | "|" => .ok (wrap ((bits a ||| bits b : Nat) : Int))
  | _ => .ok b

/-- The value of an operator in front of a number. -/
def operateUnary (op : Char) (n : Int) : Int :=
  if op = '-' then wrap (-n) else if op = '!' then ofBool (n = 0)
  else if op = '~' then wrap (-n - 1) else n

/-! ## Reading -/

/-- Variables that an expression has set, last one first. -/
abbrev Settings := List (String × Int)

/-- The value of a variable, given the texts of all of them. -/
def valueOf (text : String → String) (set : Settings) (name : String) : Except Fault Int :=
  match set.lookup name with
  | some n => .ok n
  | none =>
    let s := text name
    if s = "" then .ok 0
    else
      match number? s with
      | some n => .ok n
      | none => .error (.number s)

/-- How far evaluating has come. -/
structure Progress where
  rest : List Token
  set : Settings

/-- A step of evaluating; `idle` says that values do not matter. -/
abbrev Reader := (idle : Bool) → Progress → Except Fault (Int × Progress)

/-- Evaluates a number, a variable, an expression in parentheses or one with an operator in front. The
third argument bounds the number of operators. -/
def primary (text : String → String) (inner : Reader) : Nat → Reader
  | 0, _, _ => .error (.expression "expecting primary")
  | fuel + 1, idle, p =>
    match p.rest with
    | .number n :: rest => .ok (n, { p with rest := rest })
    | .name s :: rest => do
      let n ← if idle then pure 0 else valueOf text p.set s
      return (n, { p with rest := rest })
    | .operator op :: rest =>
      match op with
      | "(" => do
        let (n, p) ← inner idle { p with rest := rest }
        match p.rest with
        | .operator ")" :: rest => return (n, { p with rest := rest })
        | _ => .error (.expression "expecting ')'")
      | "+" | "-" | "!" | "~" => do
        let (n, p) ← primary text inner fuel idle { p with rest := rest }
        return (operateUnary (op.toList.headD '+') n, p)
      | _ => .error (.expression "expecting primary")
    | _ => .error (.expression "expecting primary")

/-- The rank of an operator between two operands; those of a lower one bind more. -/
def rank? (op : String) : Option Nat :=
  [["*", "/", "%"], ["+", "-"], ["<<", ">>"], ["<", "<=", ">", ">="], ["==", "!="], ["&"], ["^"],
    ["|"]].findIdx? (·.contains op)

/-- The operator that stands next, if it is one between two operands, and its rank. -/
def Progress.operator? (p : Progress) : Option (String × Nat) :=
  match p.rest with
  | .operator op :: _ => (rank? op).map fun r => (op, r)
  | _ => none

/-- Goes on behind an operand with the operators of ranks below a limit. The second argument bounds
their number. -/
def chain (operand : Reader) : Nat → (limit : Nat) → Int → Reader
  | 0, _, a, _, p => .ok (a, p)
  | fuel + 1, limit, a, idle, p =>
    match p.operator? with
    | none => .ok (a, p)
    | some (op, r) =>
      if limit ≤ r then .ok (a, p)
      else do
        let (b, p) ← operand idle { p with rest := p.rest.drop 1 }
        let (b, p) ← chain operand fuel r b idle p
        let value ← if idle then pure b else operate op a b
        chain operand fuel limit value idle p

/-- Evaluates operands with operators between them. -/
def combined (text : String → String) (inner : Reader) : Reader := fun idle p => do
  let operand := primary text inner (p.rest.length + 1)
  let (a, q) ← operand idle p
  chain operand (p.rest.length + 1) 8 a idle q

/-- Whether an operator stands next. -/
def Progress.isAt (p : Progress) (op : String) : Bool := p.rest.head? == some (.operator op)

/-- Evaluates operands of which all have to hold. The third argument bounds their number. -/
def conjunction (text : String → String) (inner : Reader) : Nat → Reader
  | 0, _, _ => .error (.expression "expecting primary")
  | fuel + 1, idle, p => do
    let (a, p) ← combined text inner idle p
    if p.isAt "&&" then
      let (b, p) ← conjunction text inner fuel (idle || a = 0) { p with rest := p.rest.drop 1 }
      return (ofBool (a ≠ 0 && b ≠ 0), p)
    else return (a, p)

/-- Evaluates operands of which one has to hold. The third argument bounds their number. -/
def disjunction (text : String → String) (inner : Reader) : Nat → Reader
  | 0, _, _ => .error (.expression "expecting primary")
  | fuel + 1, idle, p => do
    let (a, p) ← conjunction text inner (p.rest.length + 1) idle p
    if p.isAt "||" then
      let (b, p) ← disjunction text inner fuel (idle || a ≠ 0) { p with rest := p.rest.drop 1 }
      return (ofBool (a ≠ 0 || b ≠ 0), p)
    else return (a, p)

/-- Evaluates an expression that may be a choice. The third argument bounds the number of choices. -/
def conditional (text : String → String) (inner : Reader) : Nat → Reader
  | 0, _, _ => .error (.expression "expecting primary")
  | fuel + 1, idle, p => do
    let (a, p) ← disjunction text inner (p.rest.length + 1) idle p
    if p.isAt "?" then
      let (b, p) ← inner (idle || a = 0) { p with rest := p.rest.drop 1 }
      if p.isAt ":" then
        let (c, p) ← conditional text inner fuel (idle || a ≠ 0) { p with rest := p.rest.drop 1 }
        return (if a ≠ 0 then b else c, p)
      else .error (.expression "expecting ':'")
    else return (a, p)

/-- The operator that an assignment combines values with, or none if an operator assigns nothing. -/
def assigning? (op : String) : Option String :=
  if ["==", "!=", "<=", ">="].contains op || !op.endsWith "=" then none
  else some (op.dropEnd 1).toString

/-- Evaluates an expression that may be an assignment; what stands within it is evaluated by another
reader. -/
def expression (text : String → String) (inner : Reader) : Reader := fun idle p =>
  let other := conditional text inner (p.rest.length + 1) idle p
  match p.rest with
  | .name s :: .operator op :: rest =>
    match assigning? op with
    | none => other
    | some op => do
      let (n, p) ← inner idle { p with rest := rest }
      if idle then return (n, p)
      else
        let value ← if op = "" then pure n else do operate op (← valueOf text p.set s) n
        return (value, { p with set := (s, value) :: p.set })
  | _ => other

/-- Evaluates an expression that goes to some depth. -/
def reader (text : String → String) : Nat → Reader
  | 0 => fun _ _ => .error (.expression "expecting primary")
  | depth + 1 => expression text (reader text depth)

/-- The value of the expression that a text writes, and the variables that it sets, last one first. -/
def run (text : String → String) (cs : List Char) : Except Fault (Int × Settings) := do
  let ts := tokens (cs.length + 1) cs
  let (n, p) ← reader text (ts.length + 1) false ⟨ts, []⟩
  if p.rest = [] then return (n, p.set) else .error (.expression "expecting EOF")

end ImageBuild.Shell.Arithmetic
