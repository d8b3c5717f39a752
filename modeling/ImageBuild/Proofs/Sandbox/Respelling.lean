import ImageBuild.Proofs.Sandbox.Shortcut

/-!
# Dockerfiles spelled with their root

A dockerfile text behind the text of a root is judged as it is alone if the root text names the
resolved root (`SpelledWithRoot`). If it leads there by links, the names of the two are compared
with the resolved root all the same: the file is refused as if it was outside, unless the resolved
root happens to stand before them.
-/

namespace ImageBuild

/-- A refusal with another spelling of the dockerfile. -/
def SandboxFault.about (file : String) : SandboxFault → SandboxFault
  | .escape _ root => .escape file root
  | .notFound _ => .notFound file
  | .notAFile _ => .notAFile file
  | .unreadable _ cause => .unreadable file cause
  | .rootUnavailable root cause => .rootUnavailable root cause

namespace Path

/-- Steps without steps up that go somewhere go by names. -/
theorem exists_moves_eq {steps : List Step} (hup : .up ∉ steps) :
    ∃ names, moves steps = namesToSteps names := by
  induction steps with
  | nil => exact ⟨[], rfl⟩
  | cons step steps ih =>
    obtain ⟨names, hnames⟩ := ih fun h => hup (List.mem_cons_of_mem _ h)
    cases step with
    | here => exact ⟨names, hnames⟩
    | up => exact absurd List.mem_cons_self hup
    | name n =>
      refine ⟨n :: names, ?_⟩
      change .name n :: moves steps = _
      rw [hnames]
      rfl

end Path

namespace Sandbox

open FileSystem

variable {fs : FileSystem} {cwd root place : Place} {top file : String} {names : List Name}

theorem startsWith_joinText (htop : top.startsWith "/" = true)
    (hfile : file.startsWith "/" = false) : (joinText top file).startsWith "/" = true := by
  have hrooted := Path.rooted_joinText top hfile
  rwa [Path.rooted_ofText, Path.rooted_ofText, htop] at hrooted

/-! ## The candidates -/

/-- A text without steps up names a place below the root. -/
theorem candidate?_of_names (hroot : ∀ name ∈ root, IsEntryName name)
    (hfile : file.startsWith "/" = false)
    (hnames : Path.moves (Path.ofText file).steps = namesToSteps names) :
    candidate? root file = some (root ++ names) := by
  have hroute : route root file = namesToSteps (root ++ names) := by
    unfold route
    rw [Path.moves_joinText _ hfile, Path.moves_text fun n hn => .of_isEntryName (hroot n hn),
      hnames]
    exact List.map_append.symm
  have hcancel := Path.cancel_names [] (root ++ names)
  rw [← hroute, List.append_nil] at hcancel
  rw [candidate?_of_cancel hroot hcancel, List.reverse_reverse, if_pos (List.prefix_append _ _)]

/-- A text from the root of the file system names the place that its names are left of. -/
theorem candidate?_of_startsWith (hfile : file.startsWith "/" = true) :
    candidate? root file = match (Path.ofText file).names? with
      | none => none
      | some place => if root.isPrefixOf place then some place else none := by
  have hjoin : (Path.ofPlace root).join (Path.ofText file) = Path.ofText file := by
    unfold Path.join
    exact if_pos ((Path.rooted_ofText file).trans hfile)
  exact congrArg (fun path : Path => match path.names? with
    | none => none
    | some place => if root.isPrefixOf place then some place else none) hjoin

theorem names?_joinText (hfile : file.startsWith "/" = false)
    (hnames : Path.moves (Path.ofText file).steps = namesToSteps names) :
    (Path.ofText (joinText top file)).names? =
      (Path.ofText top).names?.map (· ++ names) := by
  unfold Path.names?
  rw [← Path.cancel_moves, Path.moves_joinText top hfile, Path.cancel_append, Path.cancel_moves,
    hnames]
  cases Path.cancel [] (Path.ofText top).steps with
  | none => rfl
  | some back => simp [Path.cancel_names]

/-! ## Verdicts -/

theorem judge_about (fs : FileSystem) (file file' : String) (root : Place)
    (outcome : Except FileFault Place) :
    judge fs file' root outcome = (judge fs file root outcome).mapError (·.about file') := by
  rcases outcome with fault | resolved
  · cases fault <;> rfl
  · unfold judge
    dsimp only
    split_ifs <;> rfl

theorem check_of_candidate? (hroot : fs.canonical cwd top = .ok root)
    (hplace : candidate? root file = some place) :
    check fs cwd file top = judge fs file root (fs.canonical [] place.text) := by
  unfold check
  rw [hroot]
  dsimp only
  rw [hplace]
  exact inspect_eq_judge fs file root place

/-- The verdicts on a dockerfile text alone and on the same text behind the text of its root. -/
structure SpelledWithRoot (fs : FileSystem) (cwd : Place) (top file : String) : Prop where
  unavailable : ∀ cause, fs.canonical cwd top = .error cause →
    check fs cwd file top = .error (.rootUnavailable top cause) ∧
      check fs cwd (joinText top file) top = .error (.rootUnavailable top cause)
  /-- If the root text names the resolved root, the verdicts are the same. -/
  same : ∀ root, fs.canonical cwd top = .ok root → (Path.ofText top).names? = some root →
    check fs cwd (joinText top file) top =
      (check fs cwd file top).mapError (·.about (joinText top file))
  /-- Unless the resolved root stands before the names of both texts, the file is refused. -/
  escapes : ∀ root, fs.canonical cwd top = .ok root →
    (∀ place, (Path.ofText (joinText top file)).names? = some place → ¬ root <+: place) →
    check fs cwd (joinText top file) top = .error (.escape (joinText top file) root.text)
  /-- If it does, and no step up is in the root text, the verdicts are the same, or there are too
  many links on the way of both texts. -/
  within : ∀ root place, fs.canonical cwd top = .ok root →
    (Path.ofText (joinText top file)).names? = some place → root <+: place →
    .up ∉ (Path.ofText top).steps →
    check fs cwd (joinText top file) top =
        (check fs cwd file top).mapError (·.about (joinText top file)) ∨
      check fs cwd (joinText top file) top =
        .error (.unreadable (joinText top file) .tooManyLinks)

theorem walk_of_canonical (htop : top.startsWith "/" = true)
    (hroot : fs.canonical cwd top = .ok root) :
    '\x00' ∉ top.toList ∧
      fs.walk (some pathLimit) linkLimit [] (Path.ofText top).steps = .found root := by
  have hfound := Destination.existing_eq_ok_iff.1 hroot
  unfold destination textFault? at hfound
  by_cases hzero : '\x00' ∈ top.toList
  · rw [if_pos (List.contains_iff_mem.2 hzero)] at hfound
    cases hfound
  · have hne : top ≠ "" := by
      rintro rfl
      exact absurd htop (by decide +kernel)
    have hrooted : (Path.ofText top).rooted = true := by rw [Path.rooted_ofText, htop]
    rw [if_neg (by simpa using hzero), if_neg hne] at hfound
    dsimp only at hfound
    rw [if_pos hrooted] at hfound
    exact ⟨hzero, hfound⟩

/-- Names without the character zero in front of others do not matter to whether it is in the
text. -/
theorem zero_mem_text_append {front : List Name} (hfront : ∀ n ∈ front, Path.IsName n)
    (hzero : ∀ n ∈ front, '\x00' ∉ n.toList) (hnames : ∀ n ∈ names, Path.IsName n) :
    '\x00' ∈ (Place.text (front ++ names)).toList ↔ ∃ n ∈ names, '\x00' ∈ n.toList := by
  have hproper : ∀ n ∈ front ++ names, Path.IsName n := fun n hn =>
    (List.mem_append.1 hn).elim (hfront n) (hnames n)
  rw [Path.mem_toList_iff (by decide) (by decide), Path.moves_text hproper]
  constructor
  · rintro ⟨n, hn, hmem⟩
    obtain ⟨m, hm, hstep⟩ := List.mem_map.1 hn
    obtain rfl := Step.name.inj hstep
    exact ⟨m, (List.mem_append.1 hm).resolve_left fun h => hzero m h hmem, hmem⟩
  · rintro ⟨n, hn, hmem⟩
    exact ⟨n, List.mem_map_of_mem (List.mem_append_right front hn), hmem⟩

/-- Names behind those of a root text lead on from the resolved root, but for the links that were
followed on the way there. -/
theorem canonical_behind (hfs : fs.WellFormed) (htop : top.startsWith "/" = true)
    (hroot : fs.canonical cwd top = .ok root) {front : List Name}
    (hfront : Path.moves (Path.ofText top).steps = namesToSteps front)
    (hnames : ∀ n ∈ names, Path.IsName n) :
    fs.canonical [] (Place.text (front ++ names)) = fs.canonical [] (Place.text (root ++ names)) ∨
      fs.canonical [] (Place.text (front ++ names)) = .error .tooManyLinks := by
  have hresolved := hfs.resolved_of_canonical hroot
  obtain ⟨htopZero, hwalk⟩ := walk_of_canonical htop hroot
  have hstep : ∀ n ∈ front, .name n ∈ Path.moves (Path.ofText top).steps := fun n hn => by
    rw [hfront]
    exact List.mem_map_of_mem hn
  have hproper : ∀ n ∈ front, Path.IsName n := fun n hn => Path.isName_of_mem_moves (hstep n hn)
  have hproper' : ∀ n ∈ root, Path.IsName n := fun n hn => .of_isEntryName (hresolved.named n hn)
  have hzero := zero_mem_text_append hproper (fun n hn h =>
    htopZero ((Path.mem_toList_iff (by decide) (by decide) top).2 ⟨n, hstep n hn, h⟩)) hnames
  have hzero' := zero_mem_text_append hproper' (fun n hn => (hresolved.named n hn).2.2.2.2) hnames
  have happend : ∀ place : Place,
      namesToSteps (place ++ names) = namesToSteps place ++ namesToSteps names :=
    fun _ => List.map_append
  have hbehind : fs.walk (some pathLimit) linkLimit [] (namesToSteps (root ++ names)) =
      fs.walk (some pathLimit) linkLimit root (namesToSteps names) := by
    rw [happend, walk_eq_walkOn, hresolved.advance_of_fits (fits_of_walk (.nil _) hwalk),
      ← walk_eq_walkOn]
  -- on the way to the root some links are used up
  obtain ⟨left, hle, hleft⟩ := exists_walk_append (walk_moves_of_found hwalk)
  unfold canonical
  rw [existing_destination_text fs _ (List.forall_mem_append.2 ⟨hproper, hnames⟩),
    existing_destination_text fs _ (List.forall_mem_append.2 ⟨hproper', hnames⟩), hbehind, happend,
    ← hfront, hleft]
  by_cases hin : ∃ n ∈ names, '\x00' ∈ n.toList
  · rw [if_pos (hzero.2 hin), if_pos (hzero'.2 hin)]
    exact Or.inl rfl
  · rw [if_neg fun h => hin (hzero.1 h), if_neg fun h => hin (hzero'.1 h)]
    rcases walk_mono hle root (namesToSteps names) with h | h
    · exact Or.inl (by rw [h])
    · exact Or.inr (by rw [h]; rfl)

theorem spelledWithRoot (fs : FileSystem) (hfs : fs.WellFormed) (cwd : Place) (top file : String)
    (htop : top.startsWith "/" = true) (hfile : file.startsWith "/" = false)
    (hup : .up ∉ (Path.ofText file).steps) : SpelledWithRoot fs cwd top file := by
  obtain ⟨names, hnames⟩ := Path.exists_moves_eq hup
  have hjoined := startsWith_joinText htop hfile
  have hproper : ∀ n ∈ names, Path.IsName n := fun n hn =>
    Path.isName_of_mem_moves (by rw [hnames]; exact List.mem_map_of_mem hn)
  have halone : ∀ root : Place, fs.canonical cwd top = .ok root →
      check fs cwd file top = judge fs file root (fs.canonical [] (Place.text (root ++ names))) :=
    fun root hroot => check_of_candidate? hroot
      (candidate?_of_names (hfs.resolved_of_canonical hroot).named hfile hnames)
  have htogether : ∀ root place : Place, fs.canonical cwd top = .ok root →
      (Path.ofText (joinText top file)).names? = some place → root <+: place →
      check fs cwd (joinText top file) top =
        judge fs (joinText top file) root (fs.canonical [] place.text) := by
    intro root place hroot hplace hpre
    refine check_of_candidate? hroot ?_
    rw [candidate?_of_startsWith hjoined, hplace]
    exact if_pos (by simpa using hpre)
  constructor
  case unavailable =>
    intro cause hcause
    unfold check
    rw [hcause]
    exact ⟨rfl, rfl⟩
  case same =>
    intro root hroot hnamed
    have hplace : (Path.ofText (joinText top file)).names? = some (root ++ names) := by
      rw [names?_joinText hfile hnames, hnamed]
      rfl
    rw [htogether root _ hroot hplace (List.prefix_append _ _), halone root hroot, ← judge_about]
  case escapes =>
    intro root hroot hescapes
    unfold check
    rw [hroot]
    dsimp only
    rw [candidate?_of_startsWith hjoined]
    cases hplace : (Path.ofText (joinText top file)).names? with
    | none => rfl
    | some place =>
      dsimp only
      rw [if_neg (by simpa using hescapes place hplace)]
  case within =>
    intro root place hroot hplace hpre htopUp
    obtain ⟨front, hfront⟩ := Path.exists_moves_eq htopUp
    have hfrontNames : (Path.ofText top).names? = some front := by
      unfold Path.names?
      rw [← Path.cancel_moves, hfront, Path.cancel_names, List.append_nil]
      simp
    rw [names?_joinText hfile hnames, hfrontNames] at hplace
    obtain rfl := Option.some.inj hplace
    have hplace' : (Path.ofText (joinText top file)).names? = some (front ++ names) := by
      rw [names?_joinText hfile hnames, hfrontNames]
      rfl
    rw [htogether root _ hroot hplace' hpre, halone root hroot, ← judge_about]
    rcases canonical_behind hfs htop hroot hfront hproper with h | h
    · exact Or.inl (by rw [h])
    · exact Or.inr (by rw [h]; rfl)

theorem spelledWithRoot_detoured :
    detoured.WellFormed ∧ "/ctx".startsWith "/" = true ∧ "link/Dockerfile".startsWith "/" = false ∧
      .up ∉ (Path.ofText "link/Dockerfile").steps ∧
      SpelledWithRoot detoured [] "/ctx" "link/Dockerfile" ∧
      check detoured [] (joinText "/ctx" "link/Dockerfile") "/ctx" =
        .ok ⟨["ctx", "sub", "Dockerfile"], ["ctx"]⟩ := by
  have hfs : detoured.WellFormed := by decide +kernel
  have htop : "/ctx".startsWith "/" = true := by decide +kernel
  have hfile : "link/Dockerfile".startsWith "/" = false := by decide +kernel
  have hup : .up ∉ (Path.ofText "link/Dockerfile").steps := by decide +kernel
  exact ⟨hfs, htop, hfile, hup, spelledWithRoot detoured hfs [] _ _ htop hfile hup,
    by decide +kernel⟩

/-- A context with a dockerfile, and a link to the context. -/
def linkedContext : FileSystem :=
  ⟨[(["ctx"], .dir 0o755), (["ctx", "Dockerfile"], .file [70] 0o644 ⟨1, 0⟩),
    (["link"], .link "ctx")]⟩

/-- Behind a root text that leads to the root by a link, a dockerfile in the root is refused as if
it was outside. -/
theorem escapes_behind_link :
    check linkedContext [] "Dockerfile" "/link" = .ok ⟨["ctx", "Dockerfile"], ["ctx"]⟩ ∧
      linkedContext.canonical [] (joinText "/link" "Dockerfile") = .ok ["ctx", "Dockerfile"] ∧
      check linkedContext [] (joinText "/link" "Dockerfile") "/link" =
        .error (.escape "/link/Dockerfile" "/ctx") := by
  decide +kernel

/-- With a step up behind a link in the root text, the two spellings can be of different files. -/
example :
    let fs : FileSystem := ⟨[(["a"], .dir 0o755), (["a", "b"], .dir 0o755),
      (["a", "b", "c"], .dir 0o755), (["a", "link"], .link "b/c"),
      (["a", "b", "d"], .file [] 0o644 ⟨1, 0⟩), (["a", "b", "b"], .dir 0o755),
      (["a", "b", "b", "d"], .file [] 0o644 ⟨1, 0⟩)]⟩
    check fs [] "b/d" "/a/link/.." = .ok ⟨["a", "b", "b", "d"], ["a", "b"]⟩ ∧
      check fs [] (joinText "/a/link/.." "b/d") "/a/link/.." =
        .ok ⟨["a", "b", "d"], ["a", "b"]⟩ := by
  decide +kernel

end Sandbox

end ImageBuild
