import ImageBuild.Pattern

/-!
# Images

An image has an identifier and any number of references of the form `repository:tag`. Of the images
with a matching reference, `Image.latest?` finds the one created last.
-/

namespace ImageBuild

/-- What is known about an image. -/
structure Image where
  id : String
  references : List String
  /-- When it was created, in seconds since the epoch. -/
  created : Int
  deriving DecidableEq, Repr

namespace Image

/-- Whether some reference of an image matches a pattern. -/
def matchesPattern (p : Pattern) (image : Image) : Bool :=
  image.references.any p.isMatch

/-- The later of two images; of images created at the same time, the second one. -/
def later (best : Option Image) (image : Image) : Option Image :=
  match best with
  | none => some image
  | some b => if b.created ≤ image.created then some image else some b

/-- The image created last among those with a reference that matches a pattern; of several created
at the same time, the last one listed. -/
def latest? (p : Pattern) (images : List Image) : Option Image :=
  (images.filter (matchesPattern p)).foldl later none

end Image

end ImageBuild
