import ImageBuild.Json.Decimal
import ImageBuild.Text.Numeral
import ImageBuild.Text.Octets

/-!
# Formatted output

A format is literal text with escapes, which stand for single bytes, and with conversions, each of which
takes an argument. As long as arguments are left the format is used again. The shell and the installed
program differ in the escapes that they know and in what they say about wrong arguments: that is the
`Dialect`. All texts are texts of octets.
-/

namespace ImageBuild.Programs.Printf

/-- Who reads a format. -/
inductive Dialect
  | shell
  | system
  deriving DecidableEq, Repr

/-! ## Escapes -/

/-- The letters of escapes that only some know. -/
def Dialect.letters : Dialect → List Char
  | .shell => []
  | .system => ['"', 'c', 'x', 'u', 'U']

/-- The octet of a number, which is cut off above. -/
def octet (n : Nat) : Char := Char.ofNat (n % 256)

/-- Whether a character is an octal digit. -/
def isOctal (c : Char) : Bool := '0' ≤ c && c ≤ '7'

/-- The number that digits of a base write. -/
def valueOf (base : Nat) (digits : List Char) : Nat :=
  digits.foldl (fun n c => n * base + Text.Numeral.digitValue c) 0

/-- The octet of a letter behind a backslash. -/
def escapedOctet? : Char → Option Char
  | 'a' => some '\x07'
  | 'b' => some '\x08'
  | 'e' => some '\x1b'
  | 'f' => some '\x0c'
  | 'n' => some '\n'
  | 'r' => some '\r'
  | 't' => some '\t'
  | 'v' => some '\x0b'
  | '\\' => some '\\'
  | _ => none

/-- What a backslash and the text behind it write. -/
inductive Escape
  /-- Some octets; the number counts the characters of the text that belong to them. -/
  | octets (s : List Char) (used : Nat)
  /-- The end of all output. -/
  | stop
  | wrong (reason : String)
  deriving DecidableEq, Repr

/-- The digits of a character by its number, at most as many as said. -/
def universal (size : Nat) (text : List Char) : Escape :=
  let digits := (text.take size).takeWhile fun c => Text.Numeral.digitValue c < 16
  let n := valueOf 16 digits
  if digits.length < size then .wrong "missing hexadecimal number in escape"
  else if n < 128 then .octets [octet n] (size + 1)
  else if 0xD800 ≤ n && n < 0xE000 then
    .wrong ("invalid universal character name \\" ++ (if size = 4 then "u" else "U") ++
      String.ofList (digits.map Char.toLower))
  else
    let shown := if n < 65536 then (4, 'u') else (8, 'U')
    let hex := (Nat.toDigits 16 n).map Char.toUpper
    .octets ('\\' :: shown.2 :: List.replicate (shown.1 - hex.length) '0' ++ hex) (size + 1)

/-- The escape at the start of a text behind a backslash, with some letters that not all know. Behind
any other character the backslash stands for itself. -/
def escape (letters : List Char) (text : List Char) : Escape :=
  let digits := (text.take 3).takeWhile isOctal
  if digits ≠ [] then .octets [octet (valueOf 8 digits)] digits.length
  else
    match text with
    | [] => .octets ['\\'] 0
    | c :: rest =>
      match escapedOctet? c with
      | some o => .octets [o] 1
      | none =>
        if !letters.contains c then .octets ['\\'] 0
        else
          match c with
          | '"' => .octets ['"'] 1
          | 'c' => .stop
          | 'x' =>
            let digits := (rest.take 2).takeWhile fun c => Text.Numeral.digitValue c < 16
            if digits = [] then .wrong "missing hexadecimal number in escape"
            else .octets [octet (valueOf 16 digits)] (digits.length + 1)
          | 'u' => universal 4 rest
          | 'U' => universal 8 rest
          | c => .octets ['\\', c] 1

/-- The octets of a text with its escapes resolved, and whether the escape `\c` ends it early. A zero
may stand in front of the octal digits of an octet. -/
def resolveEscapes (letters : List Char) : List Char → List Char × Bool
  | [] => ([], false)
  | '\\' :: 'c' :: _ => ([], true)
  | '\\' :: '0' :: cs =>
    let digits := (cs.take 3).takeWhile isOctal
    let (out, ended) := resolveEscapes letters (cs.drop digits.length)
    (octet (valueOf 8 digits) :: out, ended)
  | '\\' :: cs =>
    match escape letters cs with
    | .octets s used =>
      let (out, ended) := resolveEscapes letters (cs.drop used)
      (s ++ out, ended)
    | .stop => ([], true)
    | .wrong _ =>
      let (out, ended) := resolveEscapes letters cs
      ('\\' :: out, ended)
  | c :: cs =>
    let (out, ended) := resolveEscapes letters cs
    (c :: out, ended)
termination_by cs => cs.length

/-- What arguments write with blanks between them and, unless an option says otherwise, a line break.
Escapes are resolved only if an option asks for it. -/
def echoed (args : List String) : String :=
  let isOption (arg : String) : Bool :=
    match arg.toList with
    | '-' :: c :: cs => (c :: cs).all ['n', 'e', 'E'].contains
    | _ => false
  let given := args.takeWhile isOption
  let letters := given.flatMap fun arg => arg.toList.drop 1
  let text := (" ".intercalate (args.drop given.length)).toList
  let (cs, ended) :=
    if (letters.filter (· ≠ 'n')).getLast? = some 'e' then resolveEscapes ['c', 'x'] text
    else (text, false)
  String.ofList (cs ++ if ended || letters.contains 'n' then [] else ['\n'])

/-! ## Formats -/

/-- A width or a precision. -/
inductive Count
  | absent
  | fixed (n : Int)
  /-- The next argument says it. -/
  | taken
  deriving DecidableEq, Repr

/-- A conversion of an argument. -/
structure Conversion where
  flags : List Char
  width : Count
  precision : Count
  letter : Char
  deriving DecidableEq, Repr

/-- A piece of a format. -/
inductive Piece
  | octets (s : List Char)
  | conversion (c : Conversion)
  | stop
  /-- A fault of the format. -/
  | wrong (reason : String)
  deriving DecidableEq, Repr

/-- The count at the start of a text, how many characters it has, and whether more of them follow. -/
def count (cs : List Char) : Count × Nat :=
  match cs with
  | '*' :: _ => (.taken, 1)
  | cs =>
    let digits := cs.takeWhile Char.isDigit
    if digits = [] then (.absent, 0) else (.fixed (valueOf 10 digits), digits.length)

/-- The letters of conversions. -/
def letters : List Char :=
  ['b', 'c', 's', 'd', 'i', 'o', 'u', 'x', 'X', 'a', 'A', 'e', 'E', 'f', 'F', 'g', 'G']

/-- The marks of sizes, which mean nothing. -/
def sizeMarks : List Char := ['h', 'j', 'l', 'L', 't', 'z']

/-- Whether a conversion is one that has a meaning. -/
def isSound (d : Dialect) (c : Conversion) : Bool :=
  letters.contains c.letter &&
    match d with
    | .shell => true
    | .system =>
      (c.letter ≠ 'b' || (c.flags = [] && c.width = .absent && c.precision = .absent)) &&
        !(c.flags.contains '#' && ['c', 'd', 'i', 's', 'u'].contains c.letter) &&
        !(c.flags.contains '0' && ['c', 's'].contains c.letter) &&
        !(c.letter = 'c' && c.precision ≠ .absent)

/-- What is said about the text of a conversion that has no meaning. -/
def wrongConversion (d : Dialect) (text : List Char) : Piece :=
  .wrong ("%" ++ String.ofList text ++
    if d = .shell then ": invalid directive" else ": invalid conversion specification")

/-- The conversion at the start of a text behind a percent sign, and how many characters belong
to it. -/
def conversion (d : Dialect) (cs : List Char) : Piece × Nat :=
  let flags := cs.takeWhile fun c => ['#', '-', '+', ' ', '0'].contains c
  let (width, n) := count (cs.drop flags.length)
  let used := flags.length + n
  let (precision, n) : Count × Nat :=
    match cs.drop used with
    | '.' :: rest =>
      let (precision, n) := count rest
      (if precision = .absent then .fixed 0 else precision, n + 1)
    | _ => (.absent, 0)
  let used := used + n
  let sizes := if d = Dialect.system then (cs.drop used).takeWhile sizeMarks.contains else []
  let used := used + sizes.length
  match cs.drop used with
  | [] => (if d = .shell then .wrong "missing format character" else wrongConversion d cs, used)
  | letter :: _ =>
    let c : Conversion := ⟨flags, width, precision, letter⟩
    (if isSound d c then .conversion c else wrongConversion d (cs.take (used + 1)), used + 1)

/-- The pieces of a format. -/
def pieces (d : Dialect) : List Char → List Piece
  | [] => []
  | '\\' :: cs =>
    match escape d.letters cs with
    | .octets s used => .octets s :: pieces d (cs.drop used)
    | .stop => [.stop]
    | .wrong reason => [.wrong reason]
  | '%' :: '%' :: cs => .octets ['%'] :: pieces d cs
  | '%' :: cs =>
    let (piece, used) := conversion d cs
    piece :: pieces d (cs.drop used)
  | c :: cs => .octets [c] :: pieces d cs
termination_by cs => cs.length

/-! ## Numbers -/

/-- What a text writes as a number: its value, the rest of the text, and whether it is out of range. -/
structure Scanned (α : Type) where
  value : α
  rest : List Char
  beyond : Bool

/-- The greatest number of sixty-four bits. -/
def greatestWord : Int := 18446744073709551615

/-- The whole number at the start of a text, with a sign or as a word of sixty-four bits. -/
def scanWhole (signed : Bool) (cs : List Char) : Scanned Int :=
  match Text.Numeral.signedNumber? cs with
  | none => ⟨0, cs, false⟩
  | some (n, rest) =>
    if signed then ⟨Text.Numeral.clamp n, rest, Text.Numeral.clamp n ≠ n⟩
    else if greatestWord < n.natAbs then ⟨greatestWord, rest, true⟩
    else ⟨n % (greatestWord + 1), rest, false⟩

/-- A number with a point. -/
inductive Real
  | finite (num den : Nat)
  | infinite
  | undefined
  deriving DecidableEq, Repr

/-- The number of bits of a mantissa. -/
def precisionOf : Dialect → Nat
  | .shell => 53
  | .system => 64

/-- The greatest exponent of two. -/
def topExponent : Dialect → Int
  | .shell => 1023
  | .system => 16383

/-- The number nearest to a positive fraction with a mantissa of limited size, and whether the fraction
is beyond the range of those. -/
def rounded (d : Dialect) (num den : Nat) : Real × Bool :=
  let size := precisionOf d
  let guess : Int := (Nat.log2 num : Int) - Nat.log2 den
  let (n, m) := Json.Binary64.shifted num den (-guess)
  let place := if n < m then guess - 1 else guess
  let unit := max (place - size + 1) (3 - topExponent d - size - 1)
  let (n, m) := Json.Binary64.shifted num den (-unit)
  let mantissa := Json.Binary64.roundDiv n m
  let (n, m) := Json.Binary64.shifted mantissa 1 unit
  let isSmall := place < 1 - topExponent d
  if topExponent d < place || (2 * (m <<< (topExponent d).toNat) ≤ n) then (.infinite, true)
  else (.finite n m, isSmall && num * m ≠ n * den)

/-- The largest exponent of ten that is looked at. -/
def exponentLimit : Nat := 20000

/-- The exponent that a text writes behind a mark, and the rest. Without digits there is none. -/
def scanExponent (marks cs : List Char) : Int × List Char :=
  match cs with
  | c :: rest =>
    let (negative, digits) :=
      match rest with
      | '-' :: ds => (true, ds)
      | '+' :: ds => (false, ds)
      | ds => (false, ds)
    let (n, size, after) := Text.Numeral.digits 10 digits
    if marks.contains c && 0 < size then (if negative then -(n : Int) else n, after) else (0, cs)
  | [] => (0, [])

/-- Digits of a base with a point among them: their number, how many stand behind the point, and the
rest. -/
def scanDigits? (base : Nat) (cs : List Char) : Option (Nat × Nat × List Char) :=
  let isDigit := fun c => decide (Text.Numeral.digitValue c < base)
  let whole := cs.takeWhile isDigit
  let after := cs.drop whole.length
  let (part, after) :=
    match after with
    | '.' :: rest =>
      let part := rest.takeWhile isDigit
      if whole = [] && part = [] then ([], after) else (part, rest.drop part.length)
    | _ => ([], after)
  if whole = [] && part = [] then none
  else some (valueOf base (whole ++ part), part.length, after)

/-- The number with a point at the start of a text without a sign. -/
def scanUnsigned? (d : Dialect) (cs : List Char) : Option (Scanned Real) :=
  let starts (word : String) : Bool := word.toList.isPrefixOf (cs.map Char.toLower)
  let hex : Option (Nat × Nat × List Char) :=
    match cs with
    | '0' :: x :: rest => if x = 'x' || x = 'X' then scanDigits? 16 rest else none
    | _ => none
  if starts "infinity" then some ⟨.infinite, cs.drop 8, false⟩
  else if starts "inf" then some ⟨.infinite, cs.drop 3, false⟩
  else if starts "nan" then some ⟨.undefined, cs.drop 3, false⟩
  else
    match hex with
    | some (n, places, rest) =>
      let (e, rest) := scanExponent ['p', 'P'] rest
      let e := max (-exponentLimit : Int) (min exponentLimit (e - 4 * places))
      if n = 0 then some ⟨.finite 0 1, rest, false⟩
      else
        let (num, den) := Json.Binary64.shifted n 1 e
        let (value, beyond) := rounded d num den
        some ⟨value, rest, beyond⟩
    | none =>
      match scanDigits? 10 cs with
      | none => none
      | some (n, places, rest) =>
        let (e, rest) := scanExponent ['e', 'E'] rest
        let e := max (-exponentLimit : Int) (min exponentLimit (e - places))
        if n = 0 then some ⟨.finite 0 1, rest, false⟩
        else
          let (num, den) :=
            if 0 ≤ e then (n * Json.powerOfTen e.toNat, 1) else (n, Json.powerOfTen (-e).toNat)
          let (value, beyond) := rounded d num den
          some ⟨value, rest, beyond⟩

/-- The number with a point at the start of a text, and whether it is negative. -/
def scanReal (d : Dialect) (cs : List Char) : Scanned (Bool × Real) :=
  let (negative, digits) :=
    match cs.dropWhile Text.Numeral.isSpace with
    | '-' :: rest => (true, rest)
    | '+' :: rest => (false, rest)
    | rest => (false, rest)
  match scanUnsigned? d digits with
  | some ⟨x, rest, beyond⟩ => ⟨(negative, x), rest, beyond⟩
  | none => ⟨(false, .finite 0 1), cs, false⟩

/-! ## Texts of numbers -/

/-- How a converted argument is laid out. -/
structure Layout where
  flags : List Char
  width : Nat
  precision : Option Nat

/-- Whether a flag is given. -/
def Layout.has (l : Layout) (flag : Char) : Bool := l.flags.contains flag

/-- Fills a text up to the width; zeros stand between a sign and the digits. -/
def Layout.fill (l : Layout) (zeros : Bool) (sign body : List Char) : List Char :=
  let gap := l.width - (sign.length + body.length)
  if l.has '-' then sign ++ body ++ List.replicate gap ' '
  else if zeros && l.has '0' then sign ++ List.replicate gap '0' ++ body
  else List.replicate gap ' ' ++ sign ++ body

/-- The sign of a number. -/
def Layout.sign (l : Layout) (negative : Bool) : List Char :=
  if negative then ['-'] else if l.has '+' then ['+'] else if l.has ' ' then [' '] else []

/-- The text of a whole number. -/
def wholeText (l : Layout) (letter : Char) (n : Int) : List Char :=
  let base := if letter = 'o' then 8 else if letter = 'x' || letter = 'X' then 16 else 10
  let digits := Nat.toDigits base n.natAbs
  let digits := if letter = 'X' then digits.map Char.toUpper else digits
  let digits := if n = 0 && l.precision = some 0 then [] else digits
  let digits := List.replicate ((l.precision.getD 0) - digits.length) '0' ++ digits
  let digits := if letter = 'o' && l.has '#' && digits.head? ≠ some '0' then '0' :: digits else digits
  let mark :=
    if n ≠ 0 && l.has '#' && (letter = 'x' || letter = 'X') then ['0', letter]
    else if letter = 'd' || letter = 'i' then l.sign (n < 0)
    else []
  l.fill l.precision.isNone mark digits

/-- The digits of a fraction with a point, a number of them behind it. -/
def fixedText (keepsPoint : Bool) (places num den : Nat) : List Char :=
  let n := Json.Binary64.roundDiv (num * Json.powerOfTen places) den
  let digits := (Json.Decimal.padded (places + 1) n).toList
  let whole := digits.take (digits.length - places)
  whole ++ (if places = 0 && !keepsPoint then [] else ['.']) ++ digits.drop whole.length

/-- The digits of a fraction, a number of them behind the first one, and the place of the first. -/
def leadingDigits (places num den : Nat) : List Char × Int :=
  if num = 0 then (List.replicate (places + 1) '0', 0)
  else
    let place := Json.Decimal.leadingPlace num den
    let shift : Int := places - place
    let n :=
      if 0 ≤ shift then Json.Binary64.roundDiv (num * Json.powerOfTen shift.toNat) den
      else Json.Binary64.roundDiv num (den * Json.powerOfTen (-shift).toNat)
    let digits := (toString n).toList
    (digits.take (places + 1), place + (digits.length - (places + 1) : Nat))

/-- An exponent with at least two digits behind a mark. -/
def exponentText (mark : Char) (e : Int) : List Char :=
  mark :: (if e < 0 then '-' else '+') :: (Json.Decimal.padded 2 e.natAbs).toList

/-- The digits of a fraction with one in front of the point, and an exponent. -/
def scientificText (mark : Char) (keepsPoint : Bool) (places num den : Nat) : List Char :=
  let (digits, e) := leadingDigits places num den
  digits.take 1 ++ (if places = 0 && !keepsPoint then [] else ['.']) ++ digits.drop 1 ++
    exponentText mark e

/-- A text without zeros at its end, and without a point there. -/
def trimZeros (cs : List Char) : List Char :=
  if cs.contains '.' then
    match cs.reverse.dropWhile (· = '0') with
    | '.' :: rest => rest.reverse
    | rest => rest.reverse
  else cs

/-- The text of a fraction in the shorter form, with a number of digits that count. -/
def generalText (mark : Char) (keepsZeros : Bool) (size num den : Nat) : List Char :=
  let size := max size 1
  let (_, e) := leadingDigits (size - 1) num den
  if -4 ≤ e && e < size then
    let cs := fixedText keepsZeros ((size : Int) - 1 - e).toNat num den
    if keepsZeros then cs else trimZeros cs
  else
    let cs := scientificText mark keepsZeros (size - 1) num den
    if keepsZeros then cs
    else
      let digits := cs.takeWhile (· ≠ mark)
      trimZeros digits ++ cs.drop digits.length

/-- The text of a fraction in base sixteen with an exponent of two. The first digit has `head` bits. -/
def binaryText (head : Nat) (keepsPoint : Bool) (precision : Option Nat) (num den : Nat) :
    List Char :=
  let guess : Int := (Nat.log2 num : Int) - Nat.log2 den
  let (n, m) := Json.Binary64.shifted num den (-guess)
  let place := if num = 0 then 0 else if n < m then guess - 1 else guess
  let e := if num = 0 then 0 else place - (head - 1)
  let places := precision.getD 16
  let (n, m) := Json.Binary64.shifted num den (4 * (places : Int) - e)
  let digits := Nat.toDigits 16 (Json.Binary64.roundDiv n m)
  let digits := List.replicate (places + 1 - digits.length) '0' ++ digits
  let whole := digits.take (digits.length - places)
  let part := digits.drop whole.length
  let part :=
    if precision.isNone then (part.reverse.dropWhile (· = '0')).reverse else part
  ['0', 'x'] ++ whole ++ (if part = [] && !keepsPoint then [] else ['.']) ++ part ++ ['p'] ++
    (if e < 0 then ['-'] else ['+']) ++ Nat.toDigits 10 e.natAbs

/-- The text of a number with a point. -/
def realText (d : Dialect) (l : Layout) (letter : Char) (negative : Bool) (x : Real) : List Char :=
  let lower := letter.toLower
  let text :=
    match x with
    | .infinite => "inf".toList
    | .undefined => "nan".toList
    | .finite num den =>
      let places := l.precision.getD 6
      let keeps := l.has '#'
      if lower = 'f' then fixedText keeps places num den
      else if lower = 'e' then scientificText 'e' keeps places num den
      else if lower = 'g' then generalText 'e' keeps places num den
      else binaryText (if d = Dialect.shell then 1 else 4) keeps l.precision num den
  let isFinite := x ≠ .infinite && x ≠ .undefined
  let text := if letter.isUpper then text.map Char.toUpper else text
  let mark := if isFinite && lower = 'a' then text.take 2 else []
  l.fill isFinite (l.sign negative ++ mark) (text.drop mark.length)

/-! ## Writing -/

/-- How far writing has come. -/
structure Progress where
  args : List String
  written : Array Char
  warnings : Array String
  failed : Bool

/-- What ends writing early: nothing wrong, or a fault. -/
abbrev Writing := ExceptT (Option String) (StateM Progress)

/-- Writes octets. -/
def emit (cs : List Char) : Writing Unit :=
  modify fun p => { p with written := cs.foldl Array.push p.written }

/-- Says something about an argument. -/
def warn (message : String) (fails : Bool) : Writing Unit :=
  modify fun p =>
    { p with warnings := p.warnings.push message, failed := p.failed || fails }

/-- The next argument, if there is one. -/
def take? : Writing (Option String) := do
  let p ← get
  set { p with args := p.args.tail }
  return p.args.head?

/-- A text between quotes. -/
def quotedArgument (s : String) : String :=
  "'" ++ String.join (s.toList.map fun c => if c = '\'' then "\\'" else String.ofList [c]) ++ "'"

/-- Looks at what a number leaves of the text that writes it. -/
def check {α : Type} (d : Dialect) (text : String) (s : Scanned α) : Writing α := do
  let shown := if d = Dialect.shell then text else quotedArgument text
  if s.rest ≠ [] then
    if s.rest.length = text.length then
      warn (shown ++ if d = .shell then ": expected numeric value"
        else ": expected a numeric value") true
    else
      warn (shown ++ if d = .shell then ": not completely converted"
        else ": value not completely converted") true
  else if s.beyond then warn (shown ++ ": Numerical result out of range") true
  return s.value

/-- The number of the character behind a quote, if a text begins with one. -/
def quotedNumber? (d : Dialect) (text : String) : Writing (Option Nat) := do
  match text.toList with
  | q :: rest =>
    if q = '\'' || q = '"' then
      match d, rest with
      | .shell, [] => return some 0
      | .system, [] => return none
      | .shell, c :: _ => return some c.toNat
      | .system, c :: more => do
        if more ≠ [] then
          warn ("warning: " ++ String.ofList more ++
            ": character(s) following character constant have been ignored") false
        return some c.toNat
    else return none
  | [] => return none

/-- The next argument as a whole number; a missing one is zero. -/
def takeWhole (d : Dialect) (signed : Bool) : Writing Int := do
  match ← take? with
  | none => return 0
  | some text =>
    match ← quotedNumber? d text with
    | some n => return n
    | none => check d text (scanWhole signed text.toList)

/-- The next argument as a number with a point; a missing one is zero. -/
def takeReal (d : Dialect) : Writing (Bool × Real) := do
  match ← take? with
  | none => return (false, .finite 0 1)
  | some text =>
    match ← quotedNumber? d text with
    | some n => return (false, .finite n 1)
    | none => check d text (scanReal d text.toList)

/-- The number of a count. -/
def takeCount (d : Dialect) : Count → Writing (Option Int)
  | .absent => return none
  | .fixed n => return some n
  | .taken => some <$> takeWhole d true

/-- The largest width and precision. -/
def layoutLimit : Nat := 100000

/-- Writes an argument by a conversion. -/
def convert (d : Dialect) (c : Conversion) : Writing Unit := do
  let width := (← takeCount d c.width).getD 0
  let precision ← takeCount d c.precision
  let l : Layout :=
    { flags := if width < 0 then '-' :: c.flags else c.flags
      width := min width.natAbs layoutLimit
      precision := (precision.filter (0 ≤ ·)).map fun n => min n.toNat layoutLimit }
  let cut (cs : List Char) : List Char :=
    match l.precision with
    | some n => cs.take n
    | none => cs
  match c.letter with
  | 's' => emit (l.fill false [] (cut ((← take?).getD "").toList))
  | 'c' =>
    let text := ((← take?).getD "").toList
    emit (l.fill false [] [text.headD '\x00'])
  | 'b' =>
    let (cs, ended) := resolveEscapes d.letters ((← take?).getD "").toList
    emit (l.fill false [] (cut cs))
    if ended then throw none
  | letter =>
    if ['d', 'i', 'o', 'u', 'x', 'X'].contains letter then
      let n ← takeWhole d (letter = 'd' || letter = 'i')
      emit (wholeText l letter n)
    else
      let (negative, x) ← takeReal d
      emit (realText d l letter negative x)

/-- Writes a piece of a format. -/
def writePiece (d : Dialect) : Piece → Writing Unit
  | .octets s => emit s
  | .conversion c => convert d c
  | .stop => throw none
  | .wrong reason => throw (some reason)

/-- Writes the pieces of a format until no arguments are left; every round has to take some. -/
def writeRounds (d : Dialect) (pieces : List Piece) : Nat → Writing Unit
  | 0 => return
  | rounds + 1 => do
    let before := (← get).args
    pieces.forM (writePiece d)
    let after := (← get).args
    if after = [] then return
    else if after.length = before.length then
      if d = .system then
        warn ("warning: ignoring excess arguments, starting with " ++
          quotedArgument (after.headD "")) false
    else writeRounds d pieces rounds

/-- What comes of a format and its arguments. -/
structure Result where
  written : String
  /-- What is said about the arguments. -/
  warnings : List String
  /-- Whether an argument is wrong. -/
  failed : Bool
  /-- The fault of the format, if it has one. -/
  fault : Option String
  deriving DecidableEq, Repr

/-- Writes arguments by a format. -/
def run (d : Dialect) (format : String) (args : List String) : Result :=
  let (result, p) := (writeRounds d (pieces d format.toList) (args.length + 1)).run
    ⟨args, #[], #[], false⟩ |>.run
  let fault :=
    match result with
    | .error fault => fault
    | .ok () => none
  ⟨String.ofList p.written.toList, p.warnings.toList, p.failed, fault⟩

end ImageBuild.Programs.Printf
