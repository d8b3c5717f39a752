import ImageBuild.Proofs.Backend.Memory
import ImageBuild.Proofs.Builder.Results

/-!
# Which reference is reclaimed

After the steps of a section its temporary reference is looked for by a pattern. The pattern means
what it is written as, whatever the identifier is (`ofText_text_ofSuffix`), and it matches the
reference under which the section was built. In a store of images the newest image with a matching
reference is found (`exists_of_latest?`), its first matching reference is removed and no other one
is (`reclaim_newest`). Any other backend is asked to find and to remove something once at most.
-/

namespace ImageBuild

/-! ## Written patterns -/

namespace Pattern

/-- Characters that are escaped read back as they are. -/
theorem readLiteral_escaped (cs : List Char) : readLiteral (escaped cs ++ ['$']) = (cs, true) := by
  induction cs with
  | nil => rfl
  | cons c cs ih =>
    have hcons : escaped (c :: cs) = (if c ∈ special then ['\\', c] else [c]) ++ escaped cs := rfl
    rw [hcons, List.append_assoc]
    by_cases hc : c ∈ special
    · rw [if_pos hc, List.cons_append, List.singleton_append, readLiteral, ih]
    · have hdollar : c ≠ '$' := fun h => hc (by rw [h]; decide)
      have hbackslash : c ≠ '\\' := fun h => hc (by rw [h]; decide)
      rw [if_neg hc, List.singleton_append, readLiteral, ih]
      · exact fun h => absurd h hdollar
      · exact fun _ _ h => absurd h hbackslash

/-- The written pattern of an identifier reads back as the pattern, whatever characters are in the
identifier. -/
theorem ofText_text_ofSuffix (s : String) : ofText (ofSuffix s).text = ofSuffix s := by
  have htext : (ofSuffix s).text.toList = ':' :: (escaped s.toList ++ ['$']) := String.toList_ofList
  unfold ofText
  rw [htext]
  split
  · rename_i heq
    cases heq
  · rw [readLiteral, readLiteral_escaped]
    · rfl
    · exact fun h => absurd h (by decide)
    · exact fun _ _ h => absurd h (by decide)

end Pattern

/-! ## The newest image -/

namespace Image

variable {p : Pattern} {images : List Image} {image : Image}

theorem latest?_append (p : Pattern) (images : List Image) (image : Image) :
    latest? p (images ++ [image]) =
      if image.matchesPattern p then later (latest? p images) image else latest? p images := by
  unfold latest?
  rw [List.filter_append, List.foldl_append, List.filter_singleton]
  cases image.matchesPattern p <;> rfl

theorem latest?_eq_none (h : latest? p images = none) (image : Image) (himage : image ∈ images) :
    image.matchesPattern p = false := by
  induction images using List.reverseRecOn with
  | nil => cases himage
  | append_singleton images last ih =>
    rw [latest?_append] at h
    split_ifs at h with hlast
    · unfold later at h
      split at h
      · cases h
      · split_ifs at h
    · rcases List.mem_append.1 himage with himage | himage
      · exact ih h himage
      · rw [List.mem_singleton.1 himage]
        simpa using hlast

/-- The image that is found matches; none in front of it that does so was created later, and none
behind it as late. -/
theorem exists_of_latest? (h : latest? p images = some image) :
    ∃ before after, images = before ++ image :: after ∧ image.matchesPattern p = true ∧
      (∀ other ∈ before, other.matchesPattern p = true → other.created ≤ image.created) ∧
      ∀ other ∈ after, other.matchesPattern p = true → other.created < image.created := by
  induction images using List.reverseRecOn generalizing image with
  | nil => cases h
  | append_singleton images last ih =>
    rw [latest?_append] at h
    by_cases hlast : last.matchesPattern p = true
    · rw [if_pos hlast] at h
      cases hbest : latest? p images with
      | none =>
        rw [hbest] at h
        obtain rfl := Option.some.inj h
        refine ⟨images, [], rfl, hlast, fun other hother hmatch => ?_, nofun⟩
        rw [latest?_eq_none hbest other hother] at hmatch
        cases hmatch
      | some best =>
        obtain ⟨before, after, rfl, hmatch, hbefore, hafter⟩ := ih hbest
        rw [hbest, later] at h
        by_cases hle : best.created ≤ last.created
        · rw [if_pos hle] at h
          obtain rfl := Option.some.inj h
          refine ⟨before ++ best :: after, [], rfl, hlast, fun other hother hmatch => ?_, nofun⟩
          rcases List.mem_append.1 hother with hother | hother
          · exact Int.le_trans (hbefore other hother hmatch) hle
          · rcases List.mem_cons.1 hother with rfl | hother
            · exact hle
            · exact Int.le_trans (Int.le_of_lt (hafter other hother hmatch)) hle
        · rw [if_neg hle] at h
          obtain rfl := Option.some.inj h
          refine ⟨before, after ++ [last], by simp, hmatch, hbefore, fun other hother hm => ?_⟩
          rcases List.mem_append.1 hother with hother | hother
          · exact hafter other hother hm
          · rw [List.mem_singleton.1 hother]
            exact Int.not_le.1 hle
    · rw [if_neg hlast] at h
      obtain ⟨before, after, rfl, hmatch, hbefore, hafter⟩ := ih h
      refine ⟨before, after ++ [last], by simp, hmatch, hbefore, fun other hother hm => ?_⟩
      rcases List.mem_append.1 hother with hother | hother
      · exact hafter other hother hm
      · rw [List.mem_singleton.1 hother] at hm
        exact absurd hm hlast

end Image

/-! ## The reference that is removed -/

/-- Whether a reference ends in a colon and an identifier. -/
def EndsIn (uuid reference : String) : Prop := ':' :: uuid.toList <:+ reference.toList

/-- Whether some reference of an image does. -/
def Image.HasTemporary (uuid : String) (image : Image) : Prop :=
  ∃ reference ∈ image.references, EndsIn uuid reference

theorem Image.matchesPattern_iff {uuid : String} {image : Image} :
    image.matchesPattern (.ofSuffix uuid) = true ↔ image.HasTemporary uuid := by
  simp only [matchesPattern, List.any_eq_true, Pattern.isMatch_ofSuffix]
  rfl

/-- A reference is the first one that ends in an identifier of the image that was created last among
those with such a reference; of several created at the same time the last one listed counts. -/
inductive NewestTemporary (uuid : String) : List Image → String → Prop
  | intro {before after : List Image} {image : Image} {front back : List String}
      {reference : String} (hreferences : image.references = front ++ reference :: back)
      (hends : EndsIn uuid reference) (hfront : ∀ other ∈ front, ¬ EndsIn uuid other)
      (hbefore : ∀ other ∈ before, other.HasTemporary uuid → other.created ≤ image.created)
      (hafter : ∀ other ∈ after, other.HasTemporary uuid → other.created < image.created) :
      NewestTemporary uuid (before ++ image :: after) reference

theorem hasTemporary_of_latest? {uuid : String} {images : List Image} {image : Image}
    (h : Image.latest? (.ofSuffix uuid) images = some image) :
    image ∈ images ∧ image.HasTemporary uuid := by
  obtain ⟨before, after, rfl, hmatch, -⟩ := Image.exists_of_latest? h
  exact ⟨by simp, Image.matchesPattern_iff.1 hmatch⟩

/-- The first matching reference of the image that is found. -/
theorem newestTemporary_of_latest? {uuid reference : String} {images : List Image} {image : Image}
    (himage : Image.latest? (.ofSuffix uuid) images = some image)
    (hreference : image.references.find? (Pattern.ofSuffix uuid).isMatch = some reference) :
    NewestTemporary uuid images reference := by
  obtain ⟨before, after, rfl, -, hbefore, hafter⟩ := Image.exists_of_latest? himage
  obtain ⟨hmatch, front, back, hsplit, hfront⟩ := List.find?_eq_some_iff_append.1 hreference
  refine .intro hsplit (Pattern.isMatch_ofSuffix.1 hmatch) (fun other hother hends => ?_)
    (fun other hother h => hbefore other hother (Image.matchesPattern_iff.2 h))
    fun other hother h => hafter other hother (Image.matchesPattern_iff.2 h)
  have := hfront other hother
  rw [Pattern.isMatch_ofSuffix.2 hends] at this
  cases this

/-- What looking for the temporary reference of an identifier does to a store of images. -/
structure Reclaimed (uuid : String) (w w' : World ImageStore) : Prop where
  /-- If no reference ends in the identifier, nothing is removed. -/
  absent : (∀ image ∈ w.service.images, ¬ image.HasTemporary uuid) →
    w'.events = w.events ++ [.find (.ofSuffix uuid)] ∧ w'.service = w.service
  /-- Otherwise the first such reference of the newest image with one is removed, and all others
  stay as they are. -/
  present : (∃ image ∈ w.service.images, image.HasTemporary uuid) →
    ∃ reference, NewestTemporary uuid w.service.images reference ∧
      w'.events = w.events ++ [.find (.ofSuffix uuid), .removeReference reference] ∧
      w'.service = { w.service with
        images := w.service.images.map fun image =>
          { image with references := image.references.filter (· ≠ reference) } }

variable {σ : Type}

theorem Reclaim.reclaimed {settings : Settings ImageStore} {uuid : String} {w w' : World ImageStore}
    {events : List Event} {s : ImageStore} (h : Reclaim settings uuid w.service events s)
    (hmoved : w.Moved events s w') (hbackend : settings.backend = some ImageStore.backend)
    (hfind : w.service.refusal? .find (Pattern.ofSuffix uuid).text = none)
    (hremove : ∀ reference, w.service.refusal? .removeReference reference = none) :
    Reclaimed uuid w w' := by
  have hfound : ImageStore.backend.find w.service (.ofSuffix uuid) =
      ⟨w.service, [], .ok (Image.latest? (.ofSuffix uuid) w.service.images)⟩ := by
    simp only [ImageStore.backend, hfind]
  generalize hs : w.service = store at h hfind hremove hfound
  cases h with
  | unattached _ hnone =>
    rw [hbackend] at hnone
    cases hnone
  | nothing _ hsome hnothing =>
    obtain rfl := Option.some.inj (hbackend.symm.trans hsome)
    rw [hfound] at hnothing hmoved
    -- an image that is found has a matching reference
    have hnone : Image.latest? (.ofSuffix uuid) store.images = none := by
      rw [Option.eq_none_iff_forall_ne_some]
      intro image himage
      obtain ⟨-, reference, hreference, hends⟩ := hasTemporary_of_latest? himage
      have := List.find?_eq_none.1 (hnothing image (by rw [himage])) reference hreference
      exact this (Pattern.isMatch_ofSuffix.2 hends)
    refine ⟨fun _ => ⟨hmoved.events, hmoved.service.trans hs.symm⟩, ?_⟩
    rintro ⟨image, himage, htemporary⟩
    rw [hs] at himage
    have := Image.latest?_eq_none hnone image himage
    rw [Image.matchesPattern_iff.2 htemporary] at this
    cases this
  | @removed backend image reference _ hsome hlatest hreference =>
    obtain rfl := Option.some.inj (hbackend.symm.trans hsome)
    rw [hfound] at hlatest hmoved
    have himage : Image.latest? (.ofSuffix uuid) store.images = some image := Except.ok.inj hlatest
    have hnewest := newestTemporary_of_latest? himage hreference
    have hstate : (ImageStore.backend.removeReference store reference).state =
        { store with images := ImageStore.dropReference reference store.images } := by
      simp only [ImageStore.backend, hremove]
    constructor
    · intro hnone
      obtain ⟨hmem, htemporary⟩ := hasTemporary_of_latest? himage
      exact absurd htemporary (hnone image (hs ▸ hmem))
    · intro _
      rw [hs]
      exact ⟨reference, hnewest, hmoved.events, hmoved.service.trans hstate⟩

/-! ## Any backend -/

/-- What looking for a temporary reference asks of any backend, however it answers. -/
structure ReclaimedAnyhow (settings : Settings σ) (uuid : String) (w : World σ) : Prop where
  /-- Something is found once and removed once at most. -/
  events : ∃ events, (Builder.reclaim settings uuid w).events = w.events ++ events ∧
    (events = [] ∨ events = [.find (.ofSuffix uuid)] ∨
      ∃ reference, events = [.find (.ofSuffix uuid), .removeReference reference])
  sameFiles : w.SameFiles (Builder.reclaim settings uuid w)

theorem reclaimedAnyhow (settings : Settings σ) (uuid : String) (w : World σ) :
    ReclaimedAnyhow settings uuid w := by
  obtain ⟨events, s, hreclaim, hmoved⟩ := Builder.reclaim_reclaim settings uuid w
  refine ⟨⟨events, hmoved.events, ?_⟩, hmoved.sameFiles⟩
  cases hreclaim with
  | unattached => exact Or.inl rfl
  | nothing => exact Or.inr (Or.inl rfl)
  | removed => exact Or.inr (Or.inr ⟨_, rfl⟩)

/-- A section whose steps succeed does so, whatever comes of its temporary reference. -/
theorem Builder.runSection_eq_ok {settings : Settings σ} {b b₁ : Builder} {plan : SectionPlan}
    {w w₁ w₂ w₃ : World σ} {place : Place} {image : Option String}
    (hprepared : Prepared settings b plan w b₁ w₁ place w₂)
    (hsteps : runSteps settings (b₁.bind plan) plan (w₂.log [sectionRecord plan]) =
      (w₃, .ok image)) : (runSection settings b plan w).2.2 = .ok () := by
  unfold runSection
  rw [hprepared.clean]
  dsimp only
  rw [hprepared.setup]
  dsimp only
  rw [hsteps]

/-- The pattern of a plan matches the reference under which the section is built. -/
theorem Compiler.isMatch_of_compile {c : Compiler} {draw : Nat → String} {used : Nat}
    {config : Config} {plans : Plan} (hplans : (c.compile draw used config).1 = .ok plans)
    {plan : SectionPlan} (hplan : plan ∈ plans) : ∃ reference steps,
      plan.steps = .build reference :: steps ∧
        (Pattern.ofSuffix plan.uuid).isMatch reference = true := by
  have hcompile : c.compile draw used config = (.ok plans, (c.compile draw used config).2) :=
    Prod.ext hplans rfl
  obtain ⟨-, hsections⟩ := eq_planSections_of_compile hcompile
  obtain rfl : _ = plans := congrArg Prod.fst hsections
  obtain ⟨s, -, uuid, rfl⟩ := exists_of_mem_planSections hplan
  exact ⟨_, _, rfl, Pattern.isMatch_ofSuffix.2 ⟨s.repository.toList, by simp [planSection]⟩⟩

/-- In a store that refuses neither to find images nor to remove references, the newest temporary
reference is removed and nothing else. The pattern for it is read back as it is written, and it
matches what was built under the identifier. Whatever a backend answers, it is asked to find and to
remove something once at most, and the section goes on. -/
theorem reclaim_newest (settings : Settings ImageStore) (uuid : String) (w : World ImageStore)
    (hbackend : settings.backend = some ImageStore.backend)
    (hfind : w.service.refusal? .find (Pattern.ofSuffix uuid).text = none)
    (hremove : ∀ reference, w.service.refusal? .removeReference reference = none) :
    Reclaimed uuid w (Builder.reclaim settings uuid w) ∧
    Pattern.ofText (Pattern.ofSuffix uuid).text = .ofSuffix uuid ∧
    (∀ (c : Compiler) (draw : Nat → String) (used : Nat) (config : Config) (plans : Plan),
      (c.compile draw used config).1 = .ok plans → ∀ plan ∈ plans, ∃ reference steps,
        plan.steps = .build reference :: steps ∧
          (Pattern.ofSuffix plan.uuid).isMatch reference = true) ∧
    (∀ (τ : Type) (settings : Settings τ) (uuid : String) (w : World τ),
      ReclaimedAnyhow settings uuid w) ∧
    ∀ (τ : Type) (settings : Settings τ) (b b₁ : Builder) (plan : SectionPlan)
      (w w₁ w₂ w₃ : World τ) (place : Place) (image : Option String),
      Prepared settings b plan w b₁ w₁ place w₂ →
      Builder.runSteps settings (b₁.bind plan) plan (w₂.log [Builder.sectionRecord plan]) =
        (w₃, .ok image) →
      (Builder.runSection settings b plan w).2.2 = .ok () := by
  obtain ⟨events, s, hreclaim, hmoved⟩ := Builder.reclaim_reclaim settings uuid w
  refine ⟨hreclaim.reclaimed hmoved hbackend hfind hremove, Pattern.ofText_text_ofSuffix uuid,
    fun c draw used config plans hplans plan hplan => Compiler.isMatch_of_compile hplans hplan,
    fun τ => reclaimedAnyhow, ?_⟩
  exact fun τ settings b b₁ plan w w₁ w₂ w₃ place image hprepared hsteps =>
    Builder.runSection_eq_ok hprepared hsteps

/-- A world with a store in which several references end in the identifier `a.b`, two of them in the
newest images with one, and another one only looks like it. -/
def World.crowded : World ImageStore where
  files := .empty
  cwd := []
  temp := "/tmp"
  serial := 1
  service := ⟨[⟨"1", ["app:axb"], 9⟩, ⟨"2", ["lib:a.b"], 5⟩,
    ⟨"3", ["app:v1", "app:a.b", "lib:a.b"], 5⟩, ⟨"4", ["old:a.b", "app:a.b"], 3⟩],
    [⟨.push, none, .failed⟩], 4⟩
  stdout := .discard
  stderr := .discard
  records := []
  events := []

/-- Settings with the backend in memory, and nothing that is pushed. -/
def Settings.storing : Settings ImageStore :=
  ⟨"/ctx", some ImageStore.backend, FixedAnswers.provider ⟨none, none, none⟩, true⟩

theorem reclaim_newest_crowded :
    Settings.storing.backend = some ImageStore.backend ∧
      World.crowded.service.refusal? .find (Pattern.ofSuffix "a.b").text = none ∧
      (∀ reference, World.crowded.service.refusal? .removeReference reference = none) ∧
      Reclaimed "a.b" .crowded (Builder.reclaim .storing "a.b" .crowded) ∧
      (Builder.reclaim .storing "a.b" .crowded).service.images =
        [⟨"1", ["app:axb"], 9⟩, ⟨"2", ["lib:a.b"], 5⟩, ⟨"3", ["app:v1", "lib:a.b"], 5⟩,
          ⟨"4", ["old:a.b"], 3⟩] := by
  have hfind : World.crowded.service.refusal? .find (Pattern.ofSuffix "a.b").text = none := by
    decide +kernel
  have hremove (reference : String) :
      World.crowded.service.refusal? .removeReference reference = none := rfl
  exact ⟨rfl, hfind, hremove, (reclaim_newest .storing "a.b" .crowded rfl hfind hremove).1,
    by decide +kernel⟩

end ImageBuild
