import ImageBuild.Archive.Basic
import ImageBuild.Proofs.PathSteps

/-!
# Stored link targets

A link that comes out of an archive has its target in the short form already. So archiving it again
stores the same target, but for one: the root in its short form gets a second slash
(`storedTarget_storedTarget`).
-/

namespace ImageBuild

/-! ## Parts of targets -/

/-- Parts of a link target in the short form. -/
structure ShortParts (rooted : Bool) (parts : List String) : Prop where
  nonempty : ∀ part ∈ parts, part ≠ ""
  noSlash : ∀ part ∈ parts, '/' ∉ part.toList
  /-- Only in front of a target that is not rooted there is a step nowhere. -/
  noHere : ∀ part ∈ if rooted then parts else parts.tail, part ≠ "."

theorem shortParts_targetParts (target : String) :
    ShortParts (target.startsWith "/") (targetParts target) := by
  have hmem : ∀ part ∈ (Text.splitText '/' target).filter (· ≠ ""),
      part ≠ "" ∧ '/' ∉ part.toList := by
    intro part hpart
    obtain ⟨hsplit, hne⟩ := List.mem_filter.1 hpart
    exact ⟨of_decide_eq_true hne, Text.not_mem_of_mem_splitText hsplit⟩
  unfold targetParts
  split
  · exact ⟨nofun, nofun, by simp⟩
  · rename_i first rest hparts
    rw [hparts] at hmem
    by_cases hrooted : target.startsWith "/" = true
    · rw [if_pos hrooted, hrooted]
      refine ⟨fun part hpart => ?_, fun part hpart => ?_, fun part hpart => ?_⟩
      · exact (hmem part (List.mem_of_mem_filter hpart)).1
      · exact (hmem part (List.mem_of_mem_filter hpart)).2
      · rw [if_pos rfl] at hpart
        exact of_decide_eq_true (List.mem_filter.1 hpart).2
    · rw [if_neg hrooted, Bool.eq_false_iff.2 hrooted]
      have hsub : ∀ part ∈ first :: rest.filter (· ≠ "."), part ∈ first :: rest :=
        fun part hpart => List.cons_subset_cons first (List.filter_subset_self rest) hpart
      refine ⟨fun part hpart => (hmem part (hsub part hpart)).1,
        fun part hpart => (hmem part (hsub part hpart)).2, fun part hpart => ?_⟩
      exact of_decide_eq_true (List.mem_filter.1 hpart).2

/-! ## Short forms -/

/-- The target with the given parts, perhaps between slashes. -/
def targetText (rooted : Bool) (parts : List String) (closed : Bool) : String :=
  (if rooted then "/" else "") ++ "/".intercalate parts ++ (if closed then "/" else "")

variable {rooted : Bool} {parts : List String}

theorem targetText_eq_intercalate (hne : parts ≠ []) (closed : Bool) :
    targetText rooted parts closed = "/".intercalate
      ((if rooted then [""] else []) ++ parts ++ (if closed then [""] else [])) := by
  have hback : "/".intercalate (parts ++ (if closed then [""] else [])) =
      "/".intercalate parts ++ (if closed then "/" else "") := by
    cases closed with
    | false => simp
    | true => simp [String.intercalate_append_of_ne_nil hne (List.cons_ne_nil "" [])]
  unfold targetText
  cases rooted with
  | false => simpa using hback.symm
  | true =>
    have hne' : parts ++ (if closed then [""] else []) ≠ [] :=
      List.append_ne_nil_of_left_ne_nil hne _
    simp [String.intercalate_cons_of_ne_nil hne', hback, String.append_assoc]

theorem splitText_targetText (hne : parts ≠ []) (h : ShortParts rooted parts) (closed : Bool) :
    Text.splitText '/' (targetText rooted parts closed) =
      (if rooted then [""] else []) ++ parts ++ (if closed then [""] else []) := by
  have hsingle : "/" = String.singleton '/' := rfl
  rw [targetText_eq_intercalate hne, hsingle, Text.splitText_intercalate]
  · intro part hpart
    rw [List.mem_append, List.mem_append] at hpart
    rcases hpart with (hpart | hpart) | hpart
    · split_ifs at hpart
      · simp [List.mem_singleton.1 hpart]
      · cases hpart
    · exact h.noSlash part hpart
    · split_ifs at hpart
      · simp [List.mem_singleton.1 hpart]
      · cases hpart
  · simp [hne]

theorem startsWith_targetText (hne : parts ≠ []) (h : ShortParts rooted parts) (closed : Bool) :
    (targetText rooted parts closed).startsWith "/" = rooted := by
  cases rooted with
  | true =>
    rw [String.startsWith_string_iff]
    simp [targetText]
  | false =>
    obtain ⟨first, rest, rfl⟩ := List.exists_cons_of_ne_nil hne
    obtain ⟨back, hback⟩ := Text.exists_toList_intercalate_cons "/" first rest
    have htext : (targetText false (first :: rest) closed).toList =
        first.toList ++ (back ++ (if closed then "/" else "").toList) := by
      simp [targetText, hback]
    exact Text.startsWith_slash_eq_false htext (h.nonempty first List.mem_cons_self)
      (h.noSlash first List.mem_cons_self)

theorem endsWith_targetText (hne : parts ≠ []) (h : ShortParts rooted parts) (closed : Bool) :
    (targetText rooted parts closed).endsWith "/" = closed := by
  cases closed with
  | true =>
    rw [← String.endsWith_toSlice, String.Slice.endsWith_string_iff, String.copy_toSlice,
      targetText, String.toList_append]
    exact List.suffix_append _ _
  | false =>
    obtain ⟨init, last, rfl⟩ : ∃ init last, parts = init ++ [last] :=
      ⟨_, _, (List.dropLast_append_getLast hne).symm⟩
    obtain ⟨front, hfront⟩ := Text.exists_toList_intercalate_concat "/" init last
    have htext : (targetText rooted (init ++ [last]) false).toList =
        (if rooted then "/" else "").toList ++ front ++ last.toList := by
      simp [targetText, hfront]
    exact Text.endsWith_slash_eq_false htext (h.nonempty last (by simp)) (h.noSlash last (by simp))

theorem targetParts_targetText (hne : parts ≠ []) (h : ShortParts rooted parts) (closed : Bool) :
    targetParts (targetText rooted parts closed) = parts := by
  have hfilter : (Text.splitText '/' (targetText rooted parts closed)).filter (· ≠ "") = parts := by
    rw [splitText_targetText hne h, List.filter_append, List.filter_append]
    have hparts : parts.filter (· ≠ "") = parts :=
      List.filter_eq_self.2 fun part hpart => decide_eq_true (h.nonempty part hpart)
    rw [hparts]
    cases rooted <;> cases closed <;> simp
  unfold targetParts
  rw [hfilter, startsWith_targetText hne h]
  obtain ⟨first, rest, rfl⟩ := List.exists_cons_of_ne_nil hne
  have hhere := h.noHere
  cases rooted with
  | true => exact List.filter_eq_self.2 fun part hpart => decide_eq_true (hhere part hpart)
  | false =>
    exact congrArg (first :: ·)
      (List.filter_eq_self.2 fun part hpart => decide_eq_true (hhere part hpart))

/-- A target in the short form is its own short form if it has a part. -/
theorem shortForm_targetText (hne : parts ≠ []) (h : ShortParts rooted parts) (closed : Bool) :
    shortForm (targetText rooted parts closed) = targetText rooted parts closed := by
  unfold shortForm
  rw [startsWith_targetText hne h, endsWith_targetText hne h, targetParts_targetText hne h]
  rfl

theorem shortForm_eq_targetText (target : String) : shortForm target =
    targetText (target.startsWith "/") (targetParts target) (target.endsWith "/") :=
  rfl

/-- The short form of a short form is the same, but for the root. -/
theorem shortForm_shortForm (target : String) :
    shortForm (shortForm target) = if shortForm target = "/" then "//" else shortForm target := by
  have h := shortParts_targetParts target
  rw [shortForm_eq_targetText target]
  rcases hparts : targetParts target with _ | ⟨first, rest⟩
  · -- nothing but slashes is left
    generalize target.startsWith "/" = rooted
    generalize target.endsWith "/" = closed
    cases rooted <;> cases closed <;> decide +kernel
  · rw [hparts] at h
    have hne : first :: rest ≠ [] := List.cons_ne_nil first rest
    rw [shortForm_targetText hne h, if_neg]
    intro hroot
    have hparts' := targetParts_targetText hne h (target.endsWith "/")
    rw [hroot] at hparts'
    exact absurd hparts' (by rw [show targetParts "/" = [] by decide +kernel]; exact hne.symm)

/-- Storing the target of a link that was stored before. -/
theorem storedTarget_storedTarget (target : String) : storedTarget (storedTarget target) =
    if storedTarget target = "/" then "//" else storedTarget target := by
  by_cases hshort : (shortForm target).utf8ByteSize ≤ shortTarget
  · have hstored : storedTarget target = shortForm target := if_pos hshort
    rw [hstored, storedTarget, shortForm_shortForm]
    split_ifs with hroot hlong
    · rfl
    · exact absurd (by decide +kernel) hlong
    · rfl
  · have hstored : storedTarget target = target := if_neg hshort
    rw [hstored, hstored, if_neg]
    rintro rfl
    exact hshort (by decide +kernel)

theorem mem_of_mem_targetParts {target part : String} (h : part ∈ targetParts target) :
    part ∈ Text.splitText '/' target := by
  have hsub : ∀ part ∈ targetParts target, part ∈ (Text.splitText '/' target).filter (· ≠ "") := by
    intro part hpart
    unfold targetParts at hpart
    split at hpart
    · cases hpart
    · rename_i first rest hparts
      rw [hparts]
      split_ifs at hpart
      · exact List.mem_of_mem_filter hpart
      · exact List.cons_subset_cons first (List.filter_subset_self rest) hpart
  exact List.mem_of_mem_filter (hsub part h)

/-- A stored target has no parts but those of the target and empty ones. -/
theorem mem_of_mem_storedTarget {target part : String} (hne : part ≠ "")
    (h : part ∈ Text.splitText '/' (storedTarget target)) : part ∈ Text.splitText '/' target := by
  unfold storedTarget at h
  split_ifs at h
  · have hshort := shortParts_targetParts target
    rw [shortForm_eq_targetText target] at h
    by_cases hparts : targetParts target = []
    · -- nothing but slashes is stored
      have hempty : ∀ rooted closed, ∀ part ∈ Text.splitText '/' (targetText rooted [] closed),
          part = "" := by decide +kernel
      rw [hparts] at h
      exact absurd (hempty _ _ part h) hne
    · rw [splitText_targetText hparts hshort] at h
      have hends : ∀ ends : Bool, part ∉ if ends then [""] else [] := by
        intro ends
        cases ends with
        | false => exact List.not_mem_nil
        | true => exact fun hpart => hne (List.mem_singleton.1 hpart)
      rcases List.mem_append.1 h with h | h
      · exact mem_of_mem_targetParts ((List.mem_append.1 h).resolve_left (hends _))
      · exact absurd h (hends _)
  · exact h

/-- A target has parts if it has a character and is not rooted. -/
theorem targetParts_ne_nil {target : String} (hne : target ≠ "")
    (hrooted : target.startsWith "/" = false) : targetParts target ≠ [] := by
  obtain ⟨c, back, hlist⟩ := List.exists_cons_of_ne_nil (mt String.toList_eq_nil_iff.1 hne)
  have hc : c ≠ '/' := by
    rintro rfl
    rw [← Bool.not_eq_true, String.startsWith_string_iff, hlist] at hrooted
    exact hrooted ⟨back, rfl⟩
  obtain ⟨part, hpart, hmem⟩ :=
    (Text.exists_mem_splitText_iff hc target).2 (by rw [hlist]; exact List.mem_cons_self)
  have hkept : part ∈ (Text.splitText '/' target).filter (· ≠ "") := by
    refine List.mem_filter.2 ⟨hpart, decide_eq_true ?_⟩
    rintro rfl
    simp at hmem
  unfold targetParts
  split
  · rename_i hnil
    rw [hnil] at hkept
    cases hkept
  · simp [hrooted]

theorem shortForm_ne_empty {target : String} (hne : target ≠ "") : shortForm target ≠ "" := by
  intro h
  have hlist := congrArg String.toList h
  cases hrooted : target.startsWith "/" with
  | true => simp [shortForm, hrooted] at hlist
  | false =>
    obtain ⟨first, rest, hparts⟩ := List.exists_cons_of_ne_nil (targetParts_ne_nil hne hrooted)
    obtain ⟨back, hback⟩ := Text.exists_toList_intercalate_cons "/" first rest
    have hfirst := (shortParts_targetParts target).nonempty first (by simp [hparts])
    simp [shortForm, hrooted, hparts, hback, hfirst] at hlist

/-- Only an empty target is stored as one. -/
theorem storedTarget_eq_empty_iff {target : String} : storedTarget target = "" ↔ target = "" := by
  constructor
  · intro h
    by_contra hne
    unfold storedTarget at h
    split_ifs at h
    · exact shortForm_ne_empty hne h
    · exact hne h
  · rintro rfl
    decide +kernel

end ImageBuild
