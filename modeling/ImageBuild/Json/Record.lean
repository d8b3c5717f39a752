import ImageBuild.Json.Scalar

/-!
# Lists, records and maps

`readList` reads the items of a list by a reader of one item. `readRecord` reads a structure with
named fields, which a document writes as an object with the fields in any order and unknown members
among them, or as a list with the fields in the order of their declaration. A `Shape` describes such
a structure; what is read of it is collected in a `Draft`. `readMap` reads an object whose members
have any names.
-/

namespace ImageBuild.Json

/-- Whether another item of a list follows, and the document in front of it or of the closing
bracket. Before the first item stands no comma. -/
def nextItem (first : Bool) (cs : List Char) : Except Fault (Bool × List Char) :=
  match skipBlanks cs with
  | [] => faultAfter .endInList []
  | c :: rest =>
    if c = ']' then .ok (false, c :: rest)
    else if first then .ok (true, c :: rest)
    else if c = ',' then
      match skipBlanks rest with
      | [] => faultAfter .endInValue []
      | d :: ds =>
        if d = ']' then faultAfter .trailingComma (d :: ds) else .ok (true, d :: ds)
    else faultAfter .listCommaOrEndExpected (c :: rest)

/-- Passes over the closing bracket of a list. -/
def endList (cs : List Char) : Except Fault (List Char) :=
  match skipBlanks cs with
  | [] => faultAfter .endInList []
  | c :: rest =>
    if c = ']' then .ok rest
    else if c = ',' then
      match skipBlanks rest with
      | [] => faultAfter .trailingCharacters []
      | d :: ds =>
        if d = ']' then faultAfter .trailingComma (d :: ds)
        else faultAfter .trailingCharacters (d :: ds)
    else faultAfter .trailingCharacters (c :: rest)

/-- Reads items up to the closing bracket of their list. The first argument bounds their number. -/
def readItems {α : Type} (item : List Char → Reading α) : Nat → Bool → List Char → Reading (List α)
  | 0, _, cs => faultAfter .endInList cs
  | fuel + 1, first, cs =>
    match nextItem first cs with
    | .error f => .error f
    | .ok (false, rest) => .ok ([], rest)
    | .ok (true, rest) =>
      match item rest with
      | .error f => .error f
      | .ok (x, rest) =>
        match readItems item fuel false rest with
        | .error f => .error f
        | .ok (xs, rest) => .ok (x :: xs, rest)

/-- Reads a list. -/
def readList {α : Type} (item : List Char → Reading α) (cs : List Char) : Reading (List α) :=
  match skipBlanks cs with
  | [] => faultAfter .endInValue []
  | c :: rest =>
    if c = '[' then
      match readItems item (rest.length + 1) true rest with
      | .error f => .error f
      | .ok (xs, rest) =>
        match endList rest with
        | .error f => .error f
        | .ok rest => .ok (xs, rest)
    else unexpected "a sequence" (c :: rest)

/-- Where a field of a structure may be left out. -/
inductive Presence
  /-- Nowhere. -/
  | required
  /-- In an object. -/
  | optional
  /-- In an object and at the end of a list. -/
  | defaulted
  deriving DecidableEq, Repr

/-- A structure that is read: its value so far, and the names of the fields read into it. -/
structure Draft (α : Type) where
  value : α
  seen : List String

/-- A field of a structure of type `α`. -/
structure RecordField (α : Type) where
  name : String
  presence : Presence
  /-- Reads the field into the structure. -/
  read : α → List Char → Reading α

/-- A field by the reader of its value, which `keep` puts into the structure. -/
def RecordField.of {α β : Type} (name : String) (presence : Presence) (value : List Char → Reading β)
    (keep : α → β → α) : RecordField α where
  name := name
  presence := presence
  read := fun x cs =>
    match value cs with
    | .error f => .error f
    | .ok (y, rest) => .ok (keep x y, rest)

/-- A field that is checked and forgotten. -/
def RecordField.checked {α β : Type} (name : String) (presence : Presence)
    (value : List Char → Reading β) : RecordField α :=
  .of name presence value fun x _ => x

/-- A structure with named fields, as a document writes it. -/
structure Shape (α : Type) where
  /-- What a message calls it. -/
  title : String
  fields : List (RecordField α)
  /-- The structure before any field is read: every field that may be left out has its default. -/
  empty : α

/-- How many fields a shape has, as a message says it. -/
def Shape.elements {α : Type} (shape : Shape α) : String :=
  match shape.fields.length with
  | 1 => "1 element"
  | n => s!"{n} elements"

/-- The first required field that a draft lacks. -/
def Shape.missing? {α : Type} (shape : Shape α) (draft : Draft α) : Option String :=
  (shape.fields.find? fun field =>
    field.presence == .required && !draft.seen.contains field.name).map (·.name)

/-- Reads a field into a draft. -/
def Draft.read {α : Type} (draft : Draft α) (field : RecordField α) (cs : List Char) :
    Reading (Draft α) :=
  match field.read draft.value cs with
  | .error f => .error f
  | .ok (x, rest) => .ok (⟨x, field.name :: draft.seen⟩, rest)

/-- Reads the fields of a structure that is written as a list, from the one of the given index on. -/
def readFields {α : Type} (expected : String) :
    List (RecordField α) → Nat → Draft α → List Char → Reading (Draft α)
  | [], _, draft, cs => .ok (draft, cs)
  | field :: fields, index, draft, cs =>
    match nextItem (index == 0) cs with
    | .error f => .error f
    | .ok (true, rest) =>
      match draft.read field rest with
      | .error f => .error f
      | .ok (draft, rest) => readFields expected fields (index + 1) draft rest
    | .ok (false, rest) =>
      if field.presence = .defaulted then readFields expected fields (index + 1) draft rest
      else
        match endList rest with
        | .error f => .error f
        | .ok rest => faultAt (.invalidLength index expected) rest

/-- Reads the name of the next member of an object up to its colon, if another one follows; the
document stands in front of the closing bracket otherwise. -/
def nextKey (first : Bool) (cs : List Char) : Except Fault (Option String × List Char) :=
  match skipBlanks cs with
  | [] => faultAfter .endInObject []
  | c :: rest =>
    if c = '\x7d' then .ok (none, c :: rest)
    else if first then
      if c = '"' then do
        let (name, rest) ← readBody rest
        return (some name, rest)
      else faultAfter .keyNotAString (c :: rest)
    else if c = ',' then
      match skipBlanks rest with
      | [] => faultAfter .endInValue []
      | d :: ds =>
        if d = '"' then do
          let (name, rest) ← readBody ds
          return (some name, rest)
        else if d = '\x7d' then faultAfter .trailingComma (d :: ds)
        else faultAfter .keyNotAString (d :: ds)
    else faultAfter .objectCommaOrEndExpected (c :: rest)

/-- Passes over the colon behind the name of a member. -/
def readColon (cs : List Char) : Except Fault (List Char) :=
  match skipBlanks cs with
  | [] => faultAfter .endInObject []
  | c :: rest => if c = ':' then .ok rest else faultAfter .colonExpected (c :: rest)

/-- What follows an object that is given up: white space and a closing bracket are passed. -/
def leaveObject (cs : List Char) : List Char :=
  match skipBlanks cs with
  | [] => []
  | c :: rest => if c = '\x7d' then rest else c :: rest

/-- Reads the members of an object up to its closing bracket into a draft. A repeated field is a
fault before its value is read. The first argument bounds the number of members. -/
def readMembers {α : Type} (fields : List (RecordField α)) :
    Nat → Bool → Draft α → List Char → Reading (Draft α)
  | 0, _, _, cs => faultAfter .endInObject cs
  | fuel + 1, first, draft, cs =>
    match nextKey first cs with
    | .error f => .error f
    | .ok (none, rest) => .ok (draft, rest)
    | .ok (some name, rest) =>
      match fields.find? (fun field => field.name == name) with
      | none =>
        match readColon rest with
        | .error f => .error f
        | .ok rest =>
          match skipValue rest with
          | .error f => .error f
          | .ok rest => readMembers fields fuel false draft rest
      | some field =>
        if draft.seen.contains name then faultAt (.duplicateField name) (leaveObject rest)
        else
          match readColon rest with
          | .error f => .error f
          | .ok rest =>
            match draft.read field rest with
            | .error f => .error f
            | .ok (draft, rest) => readMembers fields fuel false draft rest

/-- Reads a structure. -/
def readRecord {α : Type} (shape : Shape α) (cs : List Char) : Except Fault (α × List Char) :=
  match skipBlanks cs with
  | [] => faultAfter .endInValue []
  | c :: rest =>
    if c = '[' then do
      let expected := shape.title ++ " with " ++ shape.elements
      let (draft, rest) ← readFields expected shape.fields 0 ⟨shape.empty, []⟩ rest
      let rest ← endList rest
      return (draft.value, rest)
    else if c = '\x7b' then do
      let (draft, rest) ←
        readMembers shape.fields (rest.length + 1) true ⟨shape.empty, []⟩ rest
      let rest := leaveObject rest
      match shape.missing? draft with
      | none => return (draft.value, rest)
      | some name => faultAt (.missingField name) rest
    else unexpected shape.title (c :: rest)

/-- Reads entries up to the closing bracket of their object, with any names; a name may come again.
The first argument bounds their number. -/
def readEntries {α : Type} (key : String → List Char → Except Fault (List Char))
    (value : List Char → Reading α) : Nat → Bool → List Char → Reading (List (String × α))
  | 0, _, cs => faultAfter .endInObject cs
  | fuel + 1, first, cs =>
    match nextKey first cs with
    | .error f => .error f
    | .ok (none, rest) => .ok ([], rest)
    | .ok (some name, rest) =>
      match (key name rest).bind readColon with
      | .error f => .error f
      | .ok rest =>
        match value rest with
        | .error f => .error f
        | .ok (x, rest) =>
          match readEntries key value fuel false rest with
          | .error f => .error f
          | .ok (entries, rest) => .ok ((name, x) :: entries, rest)

/-- Reads an object of entries, the names of which `key` checks. -/
def readObject {α : Type} (key : String → List Char → Except Fault (List Char))
    (value : List Char → Reading α) (cs : List Char) :
    Except Fault (List (String × α) × List Char) :=
  match skipBlanks cs with
  | [] => faultAfter .endInValue []
  | c :: rest =>
    if c = '\x7b' then do
      let (entries, rest) ← readEntries key value (rest.length + 1) true rest
      return (entries, leaveObject rest)
    else unexpected "a map" (c :: rest)

/-- Reads an object that maps any names to values. -/
def readMap {α : Type} (value : List Char → Reading α) : List Char → Reading (List (String × α)) :=
  readObject (fun _ rest => .ok rest) value

/-- Reads an object without members; the name of a member is no unit. -/
def readEmptyMap : List Char → Reading (List (String × Unit)) :=
  readObject (fun name rest => faultAt (.invalidType (.text name) "unit") (leaveObject rest)) readAny

/-- The name of a variant, if it is one of the given ones. -/
def variantOf (variants : List String) (name : String) (rest : List Char) : Reading String :=
  if variants.contains name then .ok (name, rest)
  else faultAt (.unknownVariant name variants) rest

/-- Reads a unit. -/
def readUnit (cs : List Char) : Except Fault (List Char) :=
  match skipBlanks cs with
  | [] => faultAfter .endInValue []
  | 'n' :: rest => readWord ['u', 'l', 'l'] rest
  | rest => unexpected "unit" rest

/-- Reads one of some variants without values: its name, or an object that gives the name a unit. -/
def readVariant (variants : List String) (cs : List Char) : Except Fault (String × List Char) :=
  match skipBlanks cs with
  | [] => faultAfter .endInValue []
  | c :: rest =>
    if c = '"' then do
      let (name, rest) ← readBody rest
      variantOf variants name rest
    else if c = '\x7b' then
      match skipBlanks rest with
      | [] => faultAfter .endInValue []
      | d :: ds =>
        if d = '"' then do
          let (name, rest) ← readBody ds
          let (name, rest) ← variantOf variants name rest
          let rest ← readUnit (← readColon rest)
          match skipBlanks rest with
          | [] => faultAt .endInObject []
          | e :: es => if e = '\x7d' then .ok (name, es) else faultAt .valueExpected (e :: es)
        else unexpected "variant identifier" (d :: ds)
    else faultAfter .valueExpected (c :: rest)

/-- Reads a document that holds one value and nothing else. -/
def readWhole {α : Type} (value : List Char → Reading α) (document : List Char) :
    Except Fault α := do
  let (x, rest) ← value document
  match skipBlanks rest with
  | [] => .ok x
  | rest => faultAfter .trailingCharacters rest

/-- Reads a document that holds one structure and nothing else. -/
def readDocument {α : Type} (shape : Shape α) (document : List Char) : Except Fault α :=
  readWhole (readRecord shape) document

end ImageBuild.Json
