/-!
# Arguments of commands

A command gets options, which begin with a dash and may take a text, and other arguments. Behind two
dashes there are no options.
-/

namespace ImageBuild.Git

/-- The arguments of a command. -/
structure Arguments where
  /-- Single letters and long names, without their dashes, with the texts they take. -/
  options : List (String × String)
  /-- The arguments before two dashes. -/
  plain : List String
  /-- The arguments behind two dashes, if those are there. -/
  behind : Option (List String)
  deriving Repr

namespace Arguments

/-- Whether one of some options is set. -/
def has (a : Arguments) (names : List String) : Bool :=
  a.options.any fun (name, _) => names.contains name

/-- The texts that some options take, in order. -/
def values (a : Arguments) (names : List String) : List String :=
  (a.options.filter fun (name, _) => names.contains name).map (·.2)

/-- The text that the last one of some options takes. -/
def value? (a : Arguments) (names : List String) : Option String :=
  (a.values names).getLast?

/-- All arguments that are no options. -/
def all (a : Arguments) : List String := a.plain ++ a.behind.getD []

/-- Adds an option in front. -/
def withOption (a : Arguments) (name value : String) : Arguments :=
  { a with options := (name, value) :: a.options }

/-- The options of a cluster of letters: the first letter that takes a text takes the rest of the
cluster. If nothing is left of it, the letter waits for the next argument. -/
def cluster (takesValue : List String) : List Char → List (String × String) × Option String
  | [] => ([], none)
  | c :: cs =>
    let name := String.ofList [c]
    if takesValue.contains name then
      if cs = [] then ([], some name) else ([(name, String.ofList cs)], none)
    else
      let (options, waiting) := cluster takesValue cs
      ((name, "") :: options, waiting)

/-- Reads arguments; `waiting` is the option that takes the next one. -/
def readFrom (takesValue : List String) : Option String → List String → Arguments
  | none, [] => ⟨[], [], none⟩
  | some name, [] => ⟨[(name, "")], [], none⟩
  | some name, arg :: rest => (readFrom takesValue none rest).withOption name arg
  | none, arg :: rest =>
    match arg.toList with
    | ['-', '-'] => ⟨[], [], some rest⟩
    | '-' :: '-' :: long =>
      let name := String.ofList (long.takeWhile (· ≠ '='))
      match long.dropWhile (· ≠ '=') with
      | _ :: value => (readFrom takesValue none rest).withOption name (String.ofList value)
      | [] =>
        if takesValue.contains name then readFrom takesValue (some name) rest
        else (readFrom takesValue none rest).withOption name ""
    | '-' :: c :: cs =>
      let (options, waiting) := cluster takesValue (c :: cs)
      let a := readFrom takesValue waiting rest
      { a with options := options ++ a.options }
    | _ =>
      let a := readFrom takesValue none rest
      { a with plain := arg :: a.plain }

/-- Reads arguments, of which the named options take a text. -/
def read (takesValue : List String) (args : List String) : Arguments :=
  readFrom takesValue none args

end Arguments

end ImageBuild.Git
