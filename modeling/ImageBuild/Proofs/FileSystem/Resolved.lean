import ImageBuild.Proofs.PathText

/-!
# Resolved places

A place is resolved if something stands there that is no link, and everything on the way to it is a
directory (`Resolved`). Whatever resolving finds is resolved (`resolved_of_canonical`), and steps
along names that meet no link end where the names say (`walk_names_cases`).
-/

namespace ImageBuild

namespace FileSystem

variable {fs : FileSystem} {limit : Option Nat} {p q : Place} {node : Node}

/-- Something stands at the place, and it is no link. -/
def Stands (fs : FileSystem) (p : Place) : Prop :=
  ∃ node, fs.lookup p = some node ∧ ∀ target, node ≠ .link target

/-- A place without links: proper names, directories on the way, and no link at the end. -/
structure Resolved (fs : FileSystem) (p : Place) : Prop where
  named : ∀ name ∈ p, IsEntryName name
  /-- Everything on the way is a directory. -/
  way : ∀ q, q <+: p → q ≠ p → fs.isDirAt q = true
  stands : fs.Stands p

theorem stands_of_isDirAt (h : fs.isDirAt p = true) : fs.Stands p := by
  obtain ⟨mode, hm⟩ := isDirAt_iff.1 h
  exact ⟨_, hm, by simp⟩

theorem WellFormed.resolved (h : fs.WellFormed) (hp : fs.Stands p) : fs.Resolved p := by
  obtain ⟨node, hl, -⟩ := id hp
  exact ⟨h.isEntryName hl, fun q => h.isDirAt_of_prefix hl, hp⟩

theorem Resolved.lookup_ne_link (h : fs.Resolved p) (hq : q <+: p) (target : String) :
    fs.lookup q ≠ some (.link target) := by
  intro hl
  by_cases hqp : q = p
  · obtain ⟨node, hn, hlink⟩ := h.stands
    rw [hqp, hn, Option.some.injEq] at hl
    exact hlink target hl
  · obtain ⟨mode, hm⟩ := isDirAt_iff.1 (h.way q hq hqp)
    simp [hm] at hl

/-! ## One step -/

theorem advance_of_not_isDirAt (limit : Option Nat) (h : fs.isDirAt p = false) (step : Step)
    (rest : List Step) : ∃ fault, fs.advance limit p (step :: rest) = .failed fault := by
  rw [advance.eq_def]
  dsimp only
  by_cases hover : overruns limit p step = true
  · exact ⟨_, if_pos hover⟩
  · rw [if_neg hover]
    unfold isDirAt at h
    rcases hl : fs.lookup p with _ | n
    · exact ⟨_, rfl⟩
    · rw [hl] at h
      cases n with
      | dir mode => simp [Node.isDir] at h
      | _ => exact ⟨_, rfl⟩

theorem advance_here (limit : Option Nat) (h : fs.isDirAt p = true) (rest : List Step) :
    fs.advance limit p (.here :: rest) = fs.advance limit p rest := by
  obtain ⟨mode, hm⟩ := isDirAt_iff.1 h
  rw [advance, if_neg (by simp [overruns]), hm]

theorem advance_up (limit : Option Nat) (h : fs.isDirAt p = true) (rest : List Step) :
    fs.advance limit p (.up :: rest) = fs.advance limit p.dropLast rest := by
  obtain ⟨mode, hm⟩ := isDirAt_iff.1 h
  rw [advance, if_neg (by simp [overruns]), hm]

/-- A step by a name fails, finds nothing there, meets a link, or goes on from there. -/
theorem advance_name_cases (limit : Option Nat) (h : fs.isDirAt p = true) (name : Name)
    (rest : List Step) :
    (∃ fault, fs.advance limit p (.name name :: rest) = .failed fault) ∨
      (fs.lookup (p ++ [name]) = none ∧ rest = [] ∧
        fs.advance limit p (.name name :: rest) = .missing (p ++ [name])) ∨
      (∃ target, fs.lookup (p ++ [name]) = some (.link target) ∧
        fs.advance limit p (.name name :: rest) = .link p target rest) ∨
      fs.Stands (p ++ [name]) ∧
        fs.advance limit p (.name name :: rest) = fs.advance limit (p ++ [name]) rest := by
  obtain ⟨mode, hm⟩ := isDirAt_iff.1 h
  rw [advance]
  by_cases hover : overruns limit p (.name name) = true
  · exact Or.inl ⟨_, if_pos hover⟩
  · rw [if_neg hover, hm]
    by_cases hlong : longestName < name.utf8ByteSize
    · exact Or.inl ⟨_, if_pos hlong⟩
    · simp only [if_neg hlong]
      rcases hl : fs.lookup (p ++ [name]) with _ | n
      · by_cases hr : rest = []
        · exact Or.inr (Or.inl ⟨rfl, hr, if_pos hr⟩)
        · exact Or.inl ⟨_, if_neg hr⟩
      · cases n with
        | link target => exact Or.inr (Or.inr (Or.inl ⟨target, rfl, rfl⟩))
        | _ => exact Or.inr (Or.inr (Or.inr ⟨⟨_, hl, by simp⟩, rfl⟩))

/-! ## What resolving finds -/

/-- Steps that arrive end where something other than a link stands. -/
theorem WellFormed.stands_of_advance (h : fs.WellFormed) {steps : List Step}
    (hstart : steps ≠ [] ∨ fs.Stands p) (ha : fs.advance limit p steps = .arrived q) :
    fs.Stands q := by
  induction steps generalizing p with
  | nil =>
    rw [advance, Advance.arrived.injEq] at ha
    exact ha ▸ hstart.resolve_left (by simp)
  | cons step rest ih =>
    by_cases hd : fs.isDirAt p = true
    · cases step with
      | here => exact ih (Or.inr (stands_of_isDirAt hd)) (advance_here limit hd rest ▸ ha)
      | up =>
        obtain ⟨mode, hm⟩ := isDirAt_iff.1 hd
        exact ih (Or.inr (stands_of_isDirAt (h.isDirAt_dropLast hm)))
          (advance_up limit hd rest ▸ ha)
      | name n =>
        rcases advance_name_cases limit hd n rest with ⟨fault, he⟩ | ⟨-, -, he⟩ | ⟨target, -, he⟩ |
          ⟨hs, he⟩
        · exact absurd (he ▸ ha) (by simp)
        · exact absurd (he ▸ ha) (by simp)
        · exact absurd (he ▸ ha) (by simp)
        · exact ih (Or.inr hs) (he ▸ ha)
    · obtain ⟨fault, he⟩ := advance_of_not_isDirAt limit (by simpa using hd) step rest
      exact absurd (he ▸ ha) (by simp)

/-- A link is met in a directory. -/
theorem isDirAt_of_advance_link {steps rest : List Step} {target : String}
    (ha : fs.advance limit p steps = .link q target rest) : fs.isDirAt q = true := by
  induction steps generalizing p with
  | nil => simp [advance] at ha
  | cons step rest' ih =>
    by_cases hd : fs.isDirAt p = true
    · cases step with
      | here => exact ih (advance_here limit hd rest' ▸ ha)
      | up => exact ih (advance_up limit hd rest' ▸ ha)
      | name n =>
        rcases advance_name_cases limit hd n rest' with ⟨fault, he⟩ | ⟨-, -, he⟩ |
          ⟨target', -, he⟩ | ⟨-, he⟩
        · exact absurd (he ▸ ha) (by simp)
        · exact absurd (he ▸ ha) (by simp)
        · rw [he, Advance.link.injEq] at ha
          exact ha.1 ▸ hd
        · exact ih (he ▸ ha)
    · obtain ⟨fault, he⟩ := advance_of_not_isDirAt limit (by simpa using hd) step rest'
      exact absurd (he ▸ ha) (by simp)

theorem WellFormed.stands_of_walk (h : fs.WellFormed) {links : Nat} {steps : List Step}
    (hstart : steps ≠ [] ∨ fs.Stands p) (hw : fs.walk limit links p steps = .found q) :
    fs.Stands q := by
  induction links generalizing p steps with
  | zero =>
    unfold walk at hw
    cases ha : fs.advance limit p steps with
    | arrived place =>
      rw [ha] at hw
      exact Destination.found.inj hw ▸ h.stands_of_advance hstart ha
    | _ => simp [ha] at hw
  | succ links ih =>
    unfold walk at hw
    cases ha : fs.advance limit p steps with
    | arrived place =>
      rw [ha] at hw
      exact Destination.found.inj hw ▸ h.stands_of_advance hstart ha
    | link dir target rest =>
      simp only [ha] at hw
      split_ifs at hw with hempty hrooted
      · exact ih (Or.inr (stands_of_isDirAt fs.isDirAt_root)) hw
      · exact ih (Or.inr (stands_of_isDirAt (isDirAt_of_advance_link ha))) hw
    | _ => simp [ha] at hw

theorem stepsOfParts_ne_nil {parts : List String} (hne : parts ≠ []) :
    Path.stepsOfParts parts ≠ [] := by
  induction parts with
  | nil => exact absurd rfl hne
  | cons part rest ih =>
    by_cases hr : rest = []
    · subst hr
      rw [Path.stepsOfParts]
      split_ifs <;> simp
    · by_cases hpart : part = ""
      · rw [hpart, Path.stepsOfParts_empty_cons hr]
        exact ih hr
      · rw [Path.stepsOfParts_cons hpart hr]
        simp

theorem steps_ofText_ne_nil {s : String} (hs : s ≠ "") : (Path.ofText s).steps ≠ [] := by
  unfold Path.ofText
  rw [if_neg hs]
  exact stepsOfParts_ne_nil (by simp [Text.splitText, Text.split_ne_nil])

/-- Whatever a text resolves to is resolved. -/
theorem WellFormed.resolved_of_destination (h : fs.WellFormed) {cwd : Place} {s : String}
    (hd : fs.destination limit cwd s = .found p) : fs.Resolved p := by
  unfold destination at hd
  split at hd
  · cases hd
  · rename_i hfault
    have hs : s ≠ "" := by
      rintro rfl
      simp [textFault?] at hfault
    exact h.resolved (h.stands_of_walk (Or.inl (steps_ofText_ne_nil hs)) hd)

theorem Destination.existing_eq_ok_iff {d : Destination} : d.existing = .ok p ↔ d = .found p := by
  cases d <;> simp [Destination.existing]

theorem WellFormed.resolved_of_canonical (h : fs.WellFormed) {cwd : Place} {s : String}
    (hc : fs.canonical cwd s = .ok p) : fs.Resolved p :=
  h.resolved_of_destination (Destination.existing_eq_ok_iff.1 hc)

/-! ## Steps along names -/

/-- Steps along names that meet no link fail, miss the last name, or get to the end of the names. -/
theorem advance_names_cases (limit : Option Nat) {names : List Name} (rest : List Step)
    (hlink : ∀ r, r <+: names → r ≠ [] → ∀ target, fs.lookup (p ++ r) ≠ some (.link target)) :
    (∃ fault, fs.advance limit p (namesToSteps names ++ rest) = .failed fault) ∨
      (names ≠ [] ∧ rest = [] ∧ fs.isDirAt (p ++ names.dropLast) = true ∧
        fs.lookup (p ++ names) = none ∧
        fs.advance limit p (namesToSteps names ++ rest) = .missing (p ++ names)) ∨
      (names ≠ [] → fs.Stands (p ++ names)) ∧
        fs.advance limit p (namesToSteps names ++ rest) = fs.advance limit (p ++ names) rest := by
  induction names generalizing p with
  | nil => exact Or.inr (Or.inr ⟨fun hne => absurd rfl hne, by simp [namesToSteps]⟩)
  | cons name names ih =>
    have hsteps : namesToSteps (name :: names) ++ rest =
      .name name :: (namesToSteps names ++ rest) := rfl
    rw [hsteps]
    by_cases hd : fs.isDirAt p = true
    · rcases advance_name_cases limit hd name (namesToSteps names ++ rest) with ⟨fault, he⟩ |
        ⟨hnone, hrest, he⟩ | ⟨target, hl, -⟩ | ⟨hs, he⟩
      · exact Or.inl ⟨fault, he⟩
      · obtain ⟨hnames, hrest⟩ := List.append_eq_nil_iff.1 hrest
        obtain rfl : names = [] := by simpa [namesToSteps] using hnames
        exact Or.inr (Or.inl ⟨by simp, hrest, by simpa using hd, hnone, he⟩)
      · exact absurd hl (hlink [name] (by simp) (by simp) target)
      · have hlink' : ∀ r, r <+: names → r ≠ [] → ∀ target,
            fs.lookup (p ++ [name] ++ r) ≠ some (.link target) := by
          intro r hr _ target
          rw [List.append_assoc]
          exact hlink (name :: r) (List.cons_prefix_cons.2 ⟨rfl, hr⟩) (by simp) target
        rw [he]
        have happ : p ++ name :: names = p ++ [name] ++ names := by simp
        rw [happ]
        rcases ih hlink' with ⟨fault, he⟩ | ⟨hne, hrest, hdir, hnone, he⟩ | ⟨hs', he⟩
        · exact Or.inl ⟨fault, he⟩
        · refine Or.inr (Or.inl ⟨by simp, hrest, ?_, hnone, he⟩)
          rwa [List.dropLast_cons_of_ne_nil hne, ← List.singleton_append, ← List.append_assoc]
        · refine Or.inr (Or.inr ⟨fun _ => ?_, he⟩)
          by_cases hne : names = []
          · simpa [hne] using hs
          · exact hs' hne
    · exact Or.inl (advance_of_not_isDirAt limit (by simpa using hd) _ _)

theorem walk_of_advance_failed {links : Nat} {steps : List Step} {fault : FileFault}
    (h : fs.advance limit p steps = .failed fault) :
    fs.walk limit links p steps = .failed fault := by
  unfold walk
  rw [h]

/-- Where names without links lead: nowhere else than they say. -/
theorem walk_names_cases (limit : Option Nat) (links : Nat) {names : List Name}
    (hlink : ∀ r, r <+: names → r ≠ [] → ∀ target, fs.lookup (p ++ r) ≠ some (.link target)) :
    (∃ fault, fs.walk limit links p (namesToSteps names) = .failed fault) ∨
      (names ≠ [] ∧ fs.isDirAt (p ++ names.dropLast) = true ∧ fs.lookup (p ++ names) = none ∧
        fs.walk limit links p (namesToSteps names) = .missing (p ++ names)) ∨
      (names ≠ [] → fs.Stands (p ++ names)) ∧
        fs.walk limit links p (namesToSteps names) = .found (p ++ names) := by
  rcases advance_names_cases limit [] hlink with ⟨fault, he⟩ | ⟨hne, -, hdir, hnone, he⟩ | ⟨hs, he⟩
  · rw [List.append_nil] at he
    exact Or.inl ⟨fault, walk_of_advance_failed he⟩
  · rw [List.append_nil] at he
    refine Or.inr (Or.inl ⟨hne, hdir, hnone, ?_⟩)
    unfold walk
    rw [he]
  · rw [List.append_nil, advance] at he
    refine Or.inr (Or.inr ⟨hs, ?_⟩)
    unfold walk
    rw [he]

/-- Without a limit on texts, a step into what stands there gets there unless the name is too
long. -/
theorem advance_name_of_stands (h : fs.isDirAt p = true) {name : Name}
    (hs : fs.Stands (p ++ [name])) (rest : List Step) :
    fs.advance none p (.name name :: rest) =
      if longestName < name.utf8ByteSize then .failed .nameTooLong
      else fs.advance none (p ++ [name]) rest := by
  obtain ⟨mode, hm⟩ := isDirAt_iff.1 h
  obtain ⟨node, hn, hlink⟩ := hs
  rw [advance, if_neg (by simp [overruns]), hm]
  by_cases hlong : longestName < name.utf8ByteSize
  · simp only [if_pos hlong]
  · -- `hlink` rules out the case of a link
    simp only [if_neg hlong, hn]

/-- Without a limit on texts, the steps to a resolved place get there unless a name is too long. -/
theorem Resolved.advance_names (h : fs.Resolved p) (rest : List Step) :
    fs.advance none [] (namesToSteps p ++ rest) =
      if ∃ name ∈ p, longestName < name.utf8ByteSize then .failed .nameTooLong
      else fs.advance none p rest := by
  -- the names that are left are taken one by one, from a place on the way
  have key : ∀ done left, done ++ left = p →
      fs.advance none done (namesToSteps left ++ rest) =
        if ∃ name ∈ left, longestName < name.utf8ByteSize then .failed .nameTooLong
        else fs.advance none p rest := by
    intro done left
    induction left generalizing done with
    | nil =>
      intro e
      rw [if_neg (by simp), ← e, List.append_nil]
      rfl
    | cons name left ih =>
      intro e
      have hdir : fs.isDirAt done = true :=
        h.way done ⟨_, e⟩ fun he => by simp [he] at e
      have hnext : fs.Stands (done ++ [name]) := by
        by_cases hend : done ++ [name] = p
        · exact hend ▸ h.stands
        · exact stands_of_isDirAt (h.way _ ⟨left, by simpa using e⟩ hend)
      have hsteps : namesToSteps (name :: left) ++ rest =
        .name name :: (namesToSteps left ++ rest) := rfl
      rw [hsteps, advance_name_of_stands hdir hnext, ih (done ++ [name]) (by simpa using e)]
      by_cases hlong : longestName < name.utf8ByteSize
      · rw [if_pos hlong, if_pos ⟨name, List.mem_cons_self, hlong⟩]
      · rw [if_neg hlong]
        simp [hlong]
  exact key [] p rfl

/-- The text of a resolved place leads to this place, unless it or a name in it is too long. -/
theorem Resolved.resolve_text (h : fs.Resolved p) (hp : p ≠ []) (cwd : Place)
    (hnames : ∀ name ∈ p, name.utf8ByteSize ≤ longestName)
    (htext : p.text.utf8ByteSize < pathLimit) : fs.resolve cwd p.text = .ok p := by
  have hzero : textFault? p.text = none := by
    unfold textFault?
    rw [if_neg (by simpa using Place.zero_not_mem_text h.named), if_neg p.text_ne_empty]
  have hwalk : fs.walk none linkLimit [] (namesToSteps p) = .found p := by
    have ha := h.advance_names []
    rw [if_neg (by simpa using hnames), List.append_nil, advance] at ha
    unfold walk
    rw [ha]
  unfold resolve locate destination
  rw [if_neg (by simp [Nat.not_le.2 htext]), hzero, Path.ofText_text h.named hp]
  simp only [if_true, hwalk, Destination.existing]

/-- The text of the place of a directory leads there with a slash behind it, too. -/
theorem Resolved.resolve_joinText (h : fs.Resolved p) (hp : p ≠ []) (cwd : Place)
    (hnames : ∀ name ∈ p, name.utf8ByteSize ≤ longestName) (hdir : fs.isDirAt p = true)
    (htext : (joinText p.text "").utf8ByteSize < pathLimit) :
    fs.resolve cwd (joinText p.text "") = .ok p := by
  have hjoin : joinText p.text "" = p.text ++ "/" ++ "" :=
    joinText_text h.named hp (by decide +kernel)
  have hzero : textFault? (joinText p.text "") = none := by
    unfold textFault?
    rw [hjoin, if_neg, if_neg]
    · intro hempty
      simpa using congrArg String.toList hempty
    · simpa using Place.zero_not_mem_text h.named
  have hwalk : fs.walk none linkLimit [] (namesToSteps p ++ [.here]) = .found p := by
    have ha := h.advance_names [.here]
    rw [if_neg (by simpa using hnames), advance_here none hdir, advance] at ha
    unfold walk
    rw [ha]
  unfold resolve locate destination
  rw [if_neg (by simp [Nat.not_le.2 htext]), hzero, Path.ofText_joinText_text h.named]
  simp only [if_true, hwalk, Destination.existing]

end FileSystem

end ImageBuild
