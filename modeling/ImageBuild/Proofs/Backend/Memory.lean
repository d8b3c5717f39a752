import Mathlib.Data.List.Infix
import ImageBuild.Backend.Memory
import ImageBuild.Proofs.Numbering

/-!
# Images in memory

What the backend in memory does to its images while the newest one is worked on: a reference that is
added goes to that image (`addReference_concat`), which is found again by a reference that no other
image has (`latest?_concat`), and removing that reference leaves the others alone
(`dropReference_concat`). Images built one after the other have different identifiers
(`imageId_injective`).
-/

namespace ImageBuild

/-! ## Patterns of temporary references -/

/-- A reference matches the pattern of an identifier if it ends in a colon and the identifier. -/
theorem Pattern.isMatch_ofSuffix {s reference : String} :
    (ofSuffix s).isMatch reference = true ↔ ':' :: s.toList <:+ reference.toList :=
  List.isSuffixOf_iff_suffix

/-- Where no identifier has a colon, only its own tag ends a reference in it, or a tag that does so
already. -/
theorem Pattern.isMatch_reference {uuid repository tag : String} (huuid : ':' ∉ uuid.toList) :
    (ofSuffix uuid).isMatch (repository ++ ":" ++ tag) = true ↔
      tag = uuid ∨ ':' :: uuid.toList <:+ tag.toList := by
  have htag : ':' :: tag.toList <:+ (repository ++ ":" ++ tag).toList :=
    ⟨repository.toList, by simp⟩
  rw [isMatch_ofSuffix]
  constructor
  · intro h
    rcases List.suffix_or_suffix_of_suffix h htag with h | h
    · rcases List.suffix_cons_iff.1 h with h | h
      · exact Or.inl (String.toList_inj.1 (List.cons.inj h).2.symm)
      · exact Or.inr h
    · rcases List.suffix_cons_iff.1 h with h | h
      · exact Or.inl (String.toList_inj.1 (List.cons.inj h).2)
      · exact absurd (h.subset List.mem_cons_self) huuid
  · rintro (rfl | h)
    · exact htag
    · exact h.trans ((List.suffix_cons _ _).trans htag)

/-! ## The newest image -/

theorem Image.latest?_concat {p : Pattern} {images : List Image} {image : Image}
    (hothers : ∀ other ∈ images, other.matchesPattern p = false)
    (himage : image.matchesPattern p = true) : latest? p (images ++ [image]) = some image := by
  unfold latest?
  rw [List.filter_append, List.filter_eq_nil_iff.2 fun other h => by simp [hothers other h],
    List.filter_singleton, himage]
  rfl

namespace ImageStore

theorem imageId_toList (n : Nat) : (imageId n).toList = paddedName "sha256:".toList 4 n := by
  unfold imageId paddedName
  simp

theorem imageId_injective : Function.Injective imageId := by
  intro m n h
  apply paddedName_injective "sha256:".toList 4
  rw [← imageId_toList, ← imageId_toList, h]

/-- The store in which an image has another reference. -/
def refer (store : ImageStore) (id reference : String) : ImageStore :=
  { store with images := addReference id reference store.images }

theorem addReference_concat {images : List Image} {id reference : String}
    {references : List String} {created : Int} (h : ∀ other ∈ images, other.id ≠ id) :
    addReference id reference (images ++ [⟨id, references, created⟩]) =
      images ++ [⟨id, references ++ [reference], created⟩] := by
  induction images with
  | nil => simp [addReference]
  | cons other rest ih =>
    rw [List.cons_append, addReference, if_neg (h other List.mem_cons_self),
      ih fun other hother => h other (List.mem_cons_of_mem _ hother), List.cons_append]

theorem refusal?_eq_none {store : ImageStore} (h : store.rules = []) (operation : Operation)
    (argument : String) : store.refusal? operation argument = none := by
  simp [refusal?, h]

theorem filter_ne_of_notMem {references : List String} {reference : String}
    (h : reference ∉ references) : references.filter (· ≠ reference) = references := by
  refine List.filter_eq_self.2 fun r hr => ?_
  rw [decide_eq_true_iff]
  rintro rfl
  exact h hr

theorem dropReference_of_notMem {images : List Image} {reference : String}
    (h : ∀ image ∈ images, reference ∉ image.references) :
    dropReference reference images = images := by
  refine (List.map_congr_left fun image himage => ?_).trans (List.map_id images)
  rw [filter_ne_of_notMem (h image himage)]
  rfl

/-- Removing the first reference of the newest image, which nothing else has. -/
theorem dropReference_concat {images : List Image} {id reference : String}
    {references : List String} {created : Int}
    (hothers : ∀ image ∈ images, reference ∉ image.references) (hrest : reference ∉ references) :
    dropReference reference (images ++ [⟨id, reference :: references, created⟩]) =
      images ++ [⟨id, references, created⟩] := by
  have hsplit (xs ys : List Image) : dropReference reference (xs ++ ys) =
      dropReference reference xs ++ dropReference reference ys := List.map_append
  have hlast : dropReference reference [⟨id, reference :: references, created⟩] =
      [⟨id, references, created⟩] := by
    simp only [dropReference, List.map_cons, List.map_nil, List.filter_cons, ne_eq,
      not_true_eq_false, decide_false, Bool.false_eq_true, if_false]
    rw [← filter_ne_of_notMem hrest]
    simp
  rw [hsplit, hlast, dropReference_of_notMem hothers]

end ImageStore

end ImageBuild
