import ImageBuild.Json.Text

/-!
# Skipped values

The value of an unknown member is checked and forgotten. Nesting is kept on a stack of open
brackets, so its depth has no limit: `skipFrom` stands before a value, behind an opening bracket or
behind a value, and moves from one `Stage` to the next.
-/

namespace ImageBuild.Json

/-- White space of a document. -/
def isJsonBlank (c : Char) : Bool :=
  c == ' ' || c == '\n' || c == '\t' || c == '\r'

/-- A document without the white space in front. -/
def skipBlanks (cs : List Char) : List Char :=
  cs.dropWhile isJsonBlank

/-- Passes over the letters of a word, all but the first of `null`, `true` or `false`. -/
def readWord : List Char → List Char → Except Fault (List Char)
  | [], cs => .ok cs
  | _ :: _, [] => faultAt .endInValue []
  | w :: ws, c :: cs => if w = c then readWord ws cs else faultAfter .identifierExpected (c :: cs)

/-- Passes over the exponent of a number behind its letter. -/
def skipExponent (cs : List Char) : Except Fault (List Char) :=
  let cs :=
    match cs with
    | '+' :: cs => cs
    | '-' :: cs => cs
    | cs => cs
  match cs with
  | [] => faultAt .invalidNumber []
  | c :: cs =>
    if c.isDigit then .ok (cs.dropWhile Char.isDigit) else faultAfter .invalidNumber (c :: cs)

/-- Passes over the end of a number behind the digits before its point. -/
def skipTail : List Char → Except Fault (List Char)
  | '.' :: cs =>
    match cs with
    | [] => faultAfter .invalidNumber []
    | c :: cs =>
      if c.isDigit then
        match cs.dropWhile Char.isDigit with
        | 'e' :: cs => skipExponent cs
        | 'E' :: cs => skipExponent cs
        | cs => .ok cs
      else faultAfter .invalidNumber (c :: cs)
  | 'e' :: cs => skipExponent cs
  | 'E' :: cs => skipExponent cs
  | cs => .ok cs

/-- Passes over a number behind its sign. -/
def skipUnsigned : List Char → Except Fault (List Char)
  | [] => faultAt .invalidNumber []
  | c :: cs =>
    if !c.isDigit then faultAfter .invalidNumber (c :: cs)
    else if c = '0' then
      if (cs.head?.map Char.isDigit).getD false then faultAfter .invalidNumber cs else skipTail cs
    else skipTail (cs.dropWhile Char.isDigit)

/-- An open bracket. -/
inductive Bracket
  | list
  | object
  deriving DecidableEq, Repr

/-- The character that closes a bracket. -/
def Bracket.close : Bracket → Char
  | .list => ']'
  | .object => '\x7d'

/-- The fault of a document that ends within a bracket. -/
def Bracket.endCause : Bracket → Cause
  | .list => .endInList
  | .object => .endInObject

/-- The fault of a value that neither a comma nor the closing bracket follows. -/
def Bracket.commaCause : Bracket → Cause
  | .list => .listCommaOrEndExpected
  | .object => .objectCommaOrEndExpected

/-- Passes over the name of a member and its colon. -/
def skipKey (cs : List Char) : Except Fault (List Char) :=
  match skipBlanks cs with
  | [] => faultAfter .endInObject []
  | c :: cs =>
    if c ≠ '"' then faultAfter .keyNotAString (c :: cs)
    else do
      let rest ← skipBody cs
      match skipBlanks rest with
      | [] => faultAfter .endInObject []
      | d :: ds => if d = ':' then .ok ds else faultAfter .colonExpected (d :: ds)

/-- In front of the next value of the innermost bracket: for an object, its name is passed. -/
def enterItem (bracket : Bracket) (cs : List Char) : Except Fault (List Char) :=
  match bracket with
  | .list => .ok cs
  | .object => skipKey cs

/-- What the reader of a skipped value found: a whole value, or an opening bracket. -/
inductive Skipped
  | whole (rest : List Char)
  | opened (bracket : Bracket) (rest : List Char)

/-- Passes over a value that is no list and no object, or over an opening bracket. -/
def skipHead (cs : List Char) : Except Fault Skipped :=
  match skipBlanks cs with
  | [] => faultAfter .endInValue []
  | c :: cs =>
    if c = 'n' then .whole <$> readWord ['u', 'l', 'l'] cs
    else if c = 't' then .whole <$> readWord ['r', 'u', 'e'] cs
    else if c = 'f' then .whole <$> readWord ['a', 'l', 's', 'e'] cs
    else if c = '-' then .whole <$> skipUnsigned cs
    else if c.isDigit then .whole <$> skipUnsigned (c :: cs)
    else if c = '"' then .whole <$> skipBody cs
    else if c = '[' then .ok (.opened .list cs)
    else if c = '\x7b' then .ok (.opened .object cs)
    else faultAfter .valueExpected (c :: cs)

/-- Where the reader of a skipped value stands. -/
inductive Stage
  /-- In front of a value. -/
  | before
  /-- Behind an opening bracket. -/
  | opened
  /-- Behind a value. -/
  | behind

/-- Passes over a value within open brackets, innermost first, up to the end of the outermost one.
The first argument bounds the number of steps. -/
def skipFrom : Nat → Stage → List Bracket → List Char → Except Fault (List Char)
  | 0, _, _, cs => faultAfter .endInValue cs
  | _ + 1, .opened, [], cs => .ok cs
  | _ + 1, .behind, [], cs => .ok cs
  | fuel + 1, .opened, bracket :: outer, cs =>
    match skipBlanks cs with
    | [] => faultAfter bracket.endCause []
    | c :: rest =>
      if c = bracket.close then skipFrom fuel .behind outer rest
      else
        match enterItem bracket (c :: rest) with
        | .error f => .error f
        | .ok rest => skipFrom fuel .before (bracket :: outer) rest
  | fuel + 1, .behind, bracket :: outer, cs =>
    match skipBlanks cs with
    | [] => faultAfter bracket.endCause []
    | c :: rest =>
      if c = ',' then
        match enterItem bracket rest with
        | .error f => .error f
        | .ok rest => skipFrom fuel .before (bracket :: outer) rest
      else if c = bracket.close then skipFrom fuel .behind outer rest
      else faultAfter bracket.commaCause (c :: rest)
  | fuel + 1, .before, stack, cs =>
    match skipHead cs with
    | .error f => .error f
    | .ok (.whole rest) => skipFrom fuel .behind stack rest
    | .ok (.opened bracket rest) => skipFrom fuel .opened (bracket :: stack) rest

/-- Passes over a value. A value takes at most three steps for each of its characters. -/
def skipValue (cs : List Char) : Except Fault (List Char) :=
  skipFrom (3 * cs.length + 3) .before [] cs

end ImageBuild.Json
