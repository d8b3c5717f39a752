/-!
# Tags as a configuration writes them

A tag is a literal text or stands for something that version control knows: the branch, the
revision, or a description of the revision. The two last ones have two spellings each, and a tag
spec remembers its spelling: `TagSpec.text` is a left inverse of `TagSpec.ofText` on every text.
-/

namespace ImageBuild

/-- A tag as a configuration writes it. -/
inductive TagSpec
  | literal (text : String)
  /-- The branch that is checked out. -/
  | branch
  /-- The full hash of the revision, spelled `git:sha` or `git:rev`. -/
  | revision (sha : Bool)
  /-- The description of the revision, spelled `git:tag` or `git:short`. -/
  | description (tag : Bool)
  deriving DecidableEq, Repr

namespace TagSpec

/-- The tag spec that a text writes. -/
def ofText (s : String) : TagSpec :=
  if s = "git:branch" then .branch
  else if s = "git:rev" then .revision false
  else if s = "git:sha" then .revision true
  else if s = "git:short" then .description false
  else if s = "git:tag" then .description true
  else .literal s

/-- The text of a tag spec. -/
def text : TagSpec → String
  | .literal s => s
  | .branch => "git:branch"
  | .revision false => "git:rev"
  | .revision true => "git:sha"
  | .description false => "git:short"
  | .description true => "git:tag"

/-- Reading keeps the spelling. -/
@[simp] theorem text_ofText (s : String) : (ofText s).text = s := by
  unfold ofText
  repeat' split
  all_goals simp_all [text]

end TagSpec

end ImageBuild
