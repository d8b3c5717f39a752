import ImageBuild.Text.Expression

/-!
# Running regular expressions

An expression becomes a list of instructions, which is run by threads in order of their rank. A
thread that accepts ends all threads of a lower rank, also the one that would begin later in the
text; `Expression.matchesToEnd` holds if a thread accepts at the very end.
-/

namespace ImageBuild.Text

/-- An instruction. Where nothing else is said, the next one follows. -/
inductive Instruction
  /-- Takes one character of a set. -/
  | take (set : CharClass)
  /-- Goes on at two addresses, the first one being of the higher rank. -/
  | fork (first second : Nat)
  | jump (address : Nat)
  /-- Goes on at the start of the text only. -/
  | start
  /-- Goes on at the end of the text only. -/
  | finish
  | accept
  deriving DecidableEq, Repr

namespace Expression

/-- How many instructions an expression becomes. -/
def size : Expression → Nat
  | .empty => 0
  | .letter _ | .start | .finish => 1
  | .sequence a b => a.size + b.size
  | .choice a b => a.size + b.size + 2
  | .repeated _ a => a.size + 2

/-- The instructions of an expression that begin at an address. -/
def code : Expression → Nat → List Instruction
  | .empty, _ => []
  | .letter set, _ => [.take set]
  | .start, _ => [.start]
  | .finish, _ => [.finish]
  | .sequence a b, address => a.code address ++ b.code (address + a.size)
  | .choice a b, address =>
    let other := address + a.size + 2
    .fork (address + 1) other :: a.code (address + 1) ++ .jump (other + b.size) :: b.code other
  | .repeated greedy a, address =>
    let behind := address + a.size + 2
    (if greedy then .fork (address + 1) behind else .fork behind (address + 1)) ::
      a.code (address + 1) ++ [.jump address]

theorem length_code (a : Expression) : ∀ address, (a.code address).length = a.size := by
  induction a with
  | sequence a b iha ihb => intro n; simp [code, size, iha, ihb]
  | choice a b iha ihb => intro n; simp [code, size, iha, ihb]; omega
  | repeated greedy a ih => intro n; simp [code, size, ih]
  | _ => intro n; rfl

/-- The instructions of an expression and, at their end, acceptance. -/
def instructions (a : Expression) : Array Instruction :=
  (a.code 0 ++ [Instruction.accept]).toArray

end Expression

/-- The addresses that are reached from some others without taking a character, last one first, in
the order of their rank. The first argument bounds the number of steps. -/
def reach (code : Array Instruction) (atStart atEnd : Bool) : Nat → List Nat → List Nat → List Nat
  | 0, _, seen => seen
  | _, [], seen => seen
  | fuel + 1, address :: rest, seen =>
    if seen.contains address then reach code atStart atEnd fuel rest seen
    else
      let next :=
        match code[address]? with
        | some (.fork first second) => [first, second]
        | some (.jump target) => [target]
        | some .start => if atStart then [address + 1] else []
        | some .finish => if atEnd then [address + 1] else []
        | _ => []
      reach code atStart atEnd fuel (next ++ rest) (address :: seen)

/-- The threads that are alive, by rank, and whether one of them accepts, which ends those behind
it. -/
def alive (code : Array Instruction) (atStart atEnd : Bool) (begun : List Nat) :
    List Nat × Bool :=
  let reached := (reach code atStart atEnd (begun.length + 2 * code.size) begun []).reverse
  let before := reached.takeWhile fun address => code[address]? != some .accept
  (before, before.length < reached.length)

/-- Runs threads to the end of a text; `isOpen` says whether a thread may still begin. -/
def runThreads (code : Array Instruction) (atStart : Bool) :
    List Nat → Bool → List Char → Bool
  | begun, isOpen, [] => (alive code atStart true (if isOpen then begun ++ [0] else begun)).2
  | begun, isOpen, c :: cs =>
    let (threads, accepted) :=
      alive code atStart false (if isOpen then begun ++ [0] else begun)
    let moved := threads.filterMap fun address =>
      match code[address]? with
      | some (Instruction.take set) => if set.holds c then some (address + 1) else none
      | _ => none
    runThreads code false moved (isOpen && !accepted) cs

/-- Whether the first match of an expression, by rank, ends at the end of a text. -/
def Expression.matchesToEnd (a : Expression) (s : String) : Bool :=
  runThreads a.instructions true [] true s.toList

end ImageBuild.Text
