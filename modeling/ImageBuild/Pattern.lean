/-!
# Reference patterns

A pattern is a literal text that has to occur in an image reference, perhaps at its start or at its
end. Written out, characters with a meaning of their own have a backslash in front.
-/

namespace ImageBuild

/-- A literal text and where it has to occur. -/
structure Pattern where
  atStart : Bool
  literal : List Char
  atEnd : Bool
  deriving DecidableEq, Repr

namespace Pattern

/-- The characters that a written pattern escapes. -/
def special : List Char :=
  ['\\', '.', '+', '*', '?', '(', ')', '|', '[', ']', '\x7b', '\x7d', '^', '$', '#', '&', '-', '~']

/-- The pattern of the references that end in a colon and a given text. -/
def ofSuffix (s : String) : Pattern :=
  ⟨false, ':' :: s.toList, true⟩

/-- Literal characters as a pattern writes them. -/
def escaped (cs : List Char) : List Char :=
  cs.flatMap fun c => if c ∈ special then ['\\', c] else [c]

/-- The written form of a pattern. -/
def text (p : Pattern) : String :=
  String.ofList ((if p.atStart then ['^'] else []) ++ escaped p.literal ++
    (if p.atEnd then ['$'] else []))

/-- The literal characters of a written pattern, and whether it asks for the end. -/
def readLiteral : List Char → List Char × Bool
  | [] => ([], false)
  | ['$'] => ([], true)
  | '\\' :: c :: cs =>
    let (literal, atEnd) := readLiteral cs
    (c :: literal, atEnd)
  | c :: cs =>
    let (literal, atEnd) := readLiteral cs
    (c :: literal, atEnd)

/-- The pattern that a text writes. -/
def ofText (s : String) : Pattern :=
  match s.toList with
  | '^' :: cs => ⟨true, (readLiteral cs).1, (readLiteral cs).2⟩
  | cs => ⟨false, (readLiteral cs).1, (readLiteral cs).2⟩

/-- Whether a list occurs in another one without a gap. -/
def occursIn (xs : List Char) : List Char → Bool
  | [] => xs.isEmpty
  | y :: ys => xs.isPrefixOf (y :: ys) || occursIn xs ys

/-- Whether a reference matches a pattern. -/
def isMatch (p : Pattern) (reference : String) : Bool :=
  let cs := reference.toList
  match p.atStart, p.atEnd with
  | true, true => cs == p.literal
  | true, false => p.literal.isPrefixOf cs
  | false, true => p.literal.isSuffixOf cs
  | false, false => occursIn p.literal cs

end Pattern

end ImageBuild
