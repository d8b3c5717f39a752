import ImageBuild.Backend.Basic

/-!
# A backend in memory

The backend keeps a list of images and follows every request at once. Rules can make chosen requests
fail; the first rule that applies counts.
-/

namespace ImageBuild

/-- The operations of a backend. -/
inductive Operation
  | build
  | tag
  | push
  | find
  | removeReference
  deriving DecidableEq, Repr

/-- How an operation is called. -/
def Operation.name : Operation → String
  | .build => "build"
  | .tag => "tag"
  | .push => "push"
  | .find => "find"
  | .removeReference => "remove_tag"

/-- How a rule lets a request fail. -/
inductive Refusal
  | notConfigured
  | failed
  deriving DecidableEq, Repr

/-- A rule: the requests of an operation fail, all or those with a given argument. -/
structure Rule where
  operation : Operation
  argument : Option String
  refusal : Refusal
  deriving DecidableEq, Repr

/-- The state of the backend: its images, its rules and the number of images it has built. -/
structure ImageStore where
  images : List Image
  rules : List Rule
  built : Nat
  deriving DecidableEq, Repr

namespace ImageStore

/-- Whether a rule applies to a request. -/
def applies (operation : Operation) (argument : String) (rule : Rule) : Bool :=
  rule.operation == operation &&
    match rule.argument with
    | none => true
    | some a => a == argument

/-- Why a request fails, if it does. -/
def refusal? (store : ImageStore) (operation : Operation) (argument : String) :
    Option BackendFault :=
  (store.rules.find? (applies operation argument)).map fun rule =>
    match rule.refusal with
    | .notConfigured => .notConfigured
    | .failed => .failed [operation.name ++ " " ++ argument ++ " failed"]

/-- The identifier of the image built as the given one. -/
def imageId (n : Nat) : String :=
  let digits := toString n
  "sha256:" ++ String.ofList (List.replicate (4 - digits.length) '0') ++ digits

/-- Adds a new image with one reference. -/
def add (store : ImageStore) (reference : String) : ImageStore :=
  let n := store.built + 1
  { store with images := store.images ++ [⟨imageId n, [reference], n⟩], built := n }

/-- Adds a reference to the first image of an identifier, among some images. -/
def addReference (id reference : String) : List Image → List Image
  | [] => []
  | image :: rest =>
    if image.id = id then { image with references := image.references ++ [reference] } :: rest
    else image :: addReference id reference rest

/-- Removes a reference from all images. -/
def dropReference (reference : String) (images : List Image) : List Image :=
  images.map fun image => { image with references := image.references.filter (· ≠ reference) }

/-- The backend. -/
def backend : Backend ImageStore where
  build := fun store _ reference =>
    match store.refusal? .build reference with
    | some fault => ⟨store, [], .error fault⟩
    | none =>
      ⟨store.add reference, [.line .stdout ("Successfully tagged " ++ reference)],
        .ok (imageId (store.built + 1))⟩
  tag := fun store id repository tag =>
    match store.refusal? .tag tag with
    | some fault => ⟨store, [], .error fault⟩
    | none =>
      ⟨{ store with images := addReference id (repository ++ ":" ++ tag) store.images }, [], .ok ()⟩
  push := fun store repository tag =>
    match store.refusal? .push tag with
    | some fault => ⟨store, [], .error fault⟩
    | none =>
      ⟨store, [.lines .stderr ("pushing " ++ repository ++ "\r\n\n" ++ tag ++ ": pushed  \n")],
        .ok ()⟩
  find := fun store pattern =>
    match store.refusal? .find pattern.text with
    | some fault => ⟨store, [], .error fault⟩
    | none => ⟨store, [], .ok (Image.latest? pattern store.images)⟩
  removeReference := fun store reference =>
    match store.refusal? .removeReference reference with
    | some fault => ⟨store, [], .error fault⟩
    | none => ⟨{ store with images := dropReference reference store.images }, [], .ok ()⟩

end ImageStore

end ImageBuild
