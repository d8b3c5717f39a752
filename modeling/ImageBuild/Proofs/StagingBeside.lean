import ImageBuild.Proofs.Archive.Targets
import ImageBuild.Proofs.FileSystem.Aside
import ImageBuild.Proofs.PathSteps
import ImageBuild.Proofs.Staging

/-!
# Staging beside another place

A dockerfile is judged the same with and without a place aside (`Aside.check_erase`), and staging
does the same, as long as the context does not hold that place (`Aside.stage`). Every change that
staging is made of is followed in both file systems at once (`Beside`): it fails in both for the
same reason, or what differs afterwards is the place only.
-/

namespace ImageBuild

variable {n : Name}

theorem name_not_mem_namesToSteps {names : List Name} (h : n ∉ names) :
    .name n ∉ namesToSteps names := by
  intro hmem
  obtain ⟨m, hm, hstep⟩ := List.mem_map.1 hmem
  exact h (Step.name.inj hstep ▸ hm)

theorem Place.not_namedIn_text {p : Place} (hne : n ≠ "")
    (hslash : ∀ name ∈ p, '/' ∉ name.toList) (hp : n ∉ p) : ¬ NamedIn n p.text := by
  have hsingle : "/" = String.singleton '/' := rfl
  unfold NamedIn Place.text
  rw [hsingle, Text.splitText_cons]
  by_cases hnil : p = []
  · subst hnil
    simpa [Text.splitText, Text.split] using hne
  · rw [Text.splitText_intercalate hslash hnil]
    exact List.not_mem_cons_of_ne_of_not_mem hne hp

/-- A link that is unpacked names nothing that the archived link does not name. -/
theorem Node.linksBy_of_kept? {node : Node} {stored : Stored} (hne : n ≠ "")
    (hkept : node.kept? = some stored) (h : stored.unpacked.LinksBy n) : node.LinksBy n := by
  obtain ⟨target, htarget, hnamed⟩ := h
  cases node with
  | link original =>
    obtain rfl := Option.some.inj hkept
    obtain rfl := Node.link.inj htarget
    exact ⟨original, rfl, mem_of_mem_storedTarget hne hnamed⟩
  | pipe | socket => cases hkept
  | file | dir =>
    obtain rfl := Option.some.inj hkept
    cases htarget

namespace FileSystem

/-- What a change comes to with a place aside and without that place. -/
inductive Beside (place : Place) (n : Name) : Except FileFault FileSystem →
    Except FileFault FileSystem → Prop
  | error (fault : FileFault) : Beside place n (.error fault) (.error fault)
  | ok (fs : FileSystem) (h : fs.Aside place n) : Beside place n (.ok fs) (.ok (fs.erase place))

namespace Aside

variable {fs : FileSystem} {place dir target p : Place} {m : Name} {node : Node}

/-! ## Changes -/

theorem insert_beside (h : fs.Aside place n) (hp : n ∉ p) (hnode : ¬ node.LinksBy n) :
    Beside place n (.ok (fs.insert p node)) (.ok ((fs.erase place).insert p node)) := by
  rw [← erase_insert fs h.name hp]
  exact .ok _ (h.insert hp hnode)

theorem erase_beside (h : fs.Aside place n) (p : Place) :
    Beside place n (.ok (fs.erase p)) (.ok ((fs.erase place).erase p)) := by
  rw [erase_erase]
  exact .ok _ (h.erase p)

theorem slot_erase (h : fs.Aside place n) (hdir : n ∉ dir) (m : Name) :
    (fs.erase place).slot dir [.name m] = fs.slot dir [.name m] := by
  rw [slot_name, slot_name, isDirAt_erase_of_not_mem fs h.name hdir]

theorem not_mem_of_slot (hdir : n ∉ dir) (hm : n ≠ m) (hslot : fs.slot dir [.name m] = .ok p) :
    n ∉ p := by
  rw [slot_name] at hslot
  split_ifs at hslot
  exact Except.ok.inj hslot ▸ not_mem_concat hdir hm

theorem create_beside (h : fs.Aside place n) (hdir : n ∉ dir) (hm : n ≠ m)
    (hnode : ¬ node.LinksBy n) :
    Beside place n (fs.create dir [.name m] node) ((fs.erase place).create dir [.name m] node) := by
  unfold create
  rw [h.slot_erase hdir]
  cases hslot : fs.slot dir [.name m] with
  | error fault => exact .error fault
  | ok p =>
    have hp := not_mem_of_slot hdir hm hslot
    dsimp only
    rw [lookup_erase_of_not_mem fs h.name hp]
    split
    · exact .error _
    · split_ifs
      · exact .error _
      · exact h.insert_beside hp hnode

theorem unlink_beside (h : fs.Aside place n) (hdir : n ∉ dir) (hm : n ≠ m) :
    Beside place n (fs.unlink dir [.name m]) ((fs.erase place).unlink dir [.name m]) := by
  unfold unlink
  rw [h.slot_erase hdir]
  cases hslot : fs.slot dir [.name m] with
  | error fault => exact .error fault
  | ok p =>
    have hp := not_mem_of_slot hdir hm hslot
    dsimp only
    rw [lookup_erase_of_not_mem fs h.name hp]
    split
    · exact .error _
    · exact .error _
    · exact h.erase_beside p

theorem overwrite_beside (h : fs.Aside place n) (hdir : n ∉ dir) (hm : n ≠ m)
    (hnode : ¬ node.LinksBy n) :
    Beside place n (fs.overwrite dir m node) ((fs.erase place).overwrite dir m node) := by
  have hcreate := h.create_beside hdir hm hnode
  unfold overwrite
  generalize fs.create dir [.name m] node = created at hcreate
  generalize (fs.erase place).create dir [.name m] node = created₀ at hcreate
  cases hcreate with
  | ok fs' h' => exact .ok fs' h'
  | error fault =>
    cases fault with
    | «exists» =>
      have hunlink := h.unlink_beside hdir hm
      dsimp only
      generalize fs.unlink dir [.name m] = unlinked at hunlink
      generalize (fs.erase place).unlink dir [.name m] = unlinked₀ at hunlink
      cases hunlink with
      | error fault => exact .error fault
      | ok fs' h' => exact h'.create_beside hdir hm hnode
    | _ => exact .error _

theorem ensureDir_beside (h : fs.Aside place n) (hdir : n ∉ dir) (hm : n ≠ m) (mode : Mode) :
    Beside place n (fs.ensureDir dir m mode) ((fs.erase place).ensureDir dir m mode) := by
  have hslot : n ∉ dir ++ [m] := not_mem_concat hdir hm
  have hnode : ¬ (Node.dir mode).LinksBy n := by
    rintro ⟨target, htarget, -⟩
    cases htarget
  have hcreate := h.create_beside hdir hm hnode
  unfold ensureDir
  rw [isDirAt_erase_of_not_mem fs h.name hslot]
  generalize fs.create dir [.name m] (.dir mode) = created at hcreate
  generalize (fs.erase place).create dir [.name m] (.dir mode) = created₀ at hcreate
  cases hcreate with
  | ok fs' h' => exact .ok fs' h'
  | error fault =>
    cases fault with
    | «exists» =>
      dsimp only
      split_ifs
      · exact h.insert_beside hslot hnode
      · exact .error _
    | _ => exact .error _

theorem write_beside (h : fs.Aside place n) (hp : n ∉ p) (content : List UInt8) (mode : Mode)
    (time : Time) :
    Beside place n (fs.write [] (namesToSteps p) content mode time)
      ((fs.erase place).write [] (namesToSteps p) content mode time) := by
  have hsteps := name_not_mem_namesToSteps hp
  have hclear := h.clear_walk none linkLimit List.not_mem_nil hsteps
  have hnode : ¬ (Node.file content mode time).LinksBy n := by
    rintro ⟨target, htarget, -⟩
    cases htarget
  unfold write
  rw [h.walk_erase List.not_mem_nil hsteps]
  cases hwalk : fs.walk none linkLimit [] (namesToSteps p) with
  | failed fault => exact .error fault
  | missing q =>
    rw [hwalk] at hclear
    exact h.insert_beside hclear hnode
  | found q =>
    rw [hwalk] at hclear
    dsimp only
    rw [lookup_erase_of_not_mem fs h.name hclear]
    split
    · exact h.insert_beside hclear hnode
    · exact .error _
    · exact .error _

theorem copyFile_beside (h : fs.Aside place n) {source : Place} (hsource : n ∉ source)
    (hdir : n ∉ dir) (hm : n ≠ m) :
    Beside place n (fs.copyFile source dir m) ((fs.erase place).copyFile source dir m) := by
  have hp : n ∉ dir ++ [m] := not_mem_concat hdir hm
  unfold copyFile
  dsimp only
  rw [lookup_erase_of_not_mem fs h.name hsource]
  split_ifs
  · exact .error _
  · split
    · rename_i mode time _
      have hwrite := h.write_beside hp [] mode time
      generalize fs.write [] (namesToSteps (dir ++ [m])) [] mode time = written at hwrite
      generalize (fs.erase place).write [] (namesToSteps (dir ++ [m])) [] mode time = written₀
        at hwrite
      cases hwrite with
      | error fault => exact .error fault
      | ok fs' h' =>
        dsimp only
        rw [lookup_erase_of_not_mem fs' h'.name hsource]
        split
        · exact h'.write_beside hp _ _ _
        · exact .error _
    · exact .error _
    · exact .error _

/-! ## Unpacking -/

theorem follow_erase (h : fs.Aside place n) (hp : n ∉ p) :
    (fs.erase place).follow [] (namesToSteps p) = fs.follow [] (namesToSteps p) := by
  unfold follow
  rw [h.walk_erase List.not_mem_nil (name_not_mem_namesToSteps hp)]

theorem unpackParent_erase (h : fs.Aside place n) (htarget : n ∉ target) {path : List Name}
    (hpath : n ∉ path) :
    (fs.erase place).unpackParent target path = fs.unpackParent target path := by
  have hway : n ∉ target ++ path.dropLast := by
    rw [List.mem_append]
    exact not_or.2 ⟨htarget, fun hmem => hpath ((List.dropLast_prefix path).subset hmem)⟩
  unfold unpackParent
  rw [h.follow_erase hway, h.follow_erase htarget]

theorem not_mem_of_unpackParent (h : fs.Aside place n) (htarget : n ∉ target) {path : List Name}
    (hpath : n ∉ path) (hparent : fs.unpackParent target path = .ok p) : n ∉ p := by
  have hway : n ∉ target ++ path.dropLast := by
    rw [List.mem_append]
    exact not_or.2 ⟨htarget, fun hmem => hpath ((List.dropLast_prefix path).subset hmem)⟩
  unfold unpackParent at hparent
  split at hparent
  · cases hparent
  · rename_i parent hfollow
    have hclear := h.clear_walk none linkLimit List.not_mem_nil
      (name_not_mem_namesToSteps hway)
    split at hparent
    · cases hparent
    · split_ifs at hparent
      exact Except.ok.inj hparent ▸ not_mem_of_existing hclear hfollow

theorem unpackEntry_beside (h : fs.Aside place n) (htarget : n ∉ target) {entry : ArchiveEntry}
    (hpath : n ∉ entry.path) (hnode : ¬ entry.stored.unpacked.LinksBy n) :
    Beside place n (fs.unpackEntry target entry) ((fs.erase place).unpackEntry target entry) := by
  unfold unpackEntry
  rw [h.unpackParent_erase htarget hpath]
  split
  · exact .ok fs h
  · rename_i m hm
    have hne : n ≠ m := by
      rintro rfl
      exact hpath (List.mem_of_getLast? hm)
    split_ifs
    · exact .error _
    · cases hparent : fs.unpackParent target entry.path with
      | error fault => exact .error fault
      | ok p =>
        have hp := h.not_mem_of_unpackParent htarget hpath hparent
        dsimp only
        cases hstored : entry.stored with
        | dir mode => exact h.ensureDir_beside hp hne _
        | link | file =>
          rw [hstored] at hnode
          exact h.overwrite_beside hp hne hnode

theorem unpack_erase (h : fs.Aside place n) (htarget : n ∉ target) {archive : Archive}
    (hentries : ∀ entry ∈ archive, n ∉ entry.path ∧ ¬ entry.stored.unpacked.LinksBy n) :
    (fs.erase place).unpack target archive =
        ((fs.unpack target archive).1.erase place, (fs.unpack target archive).2) ∧
      (fs.unpack target archive).1.Aside place n := by
  induction archive generalizing fs with
  | nil => exact ⟨rfl, h⟩
  | cons entry rest ih =>
    obtain ⟨hpath, hnode⟩ := hentries entry List.mem_cons_self
    have hentry := h.unpackEntry_beside htarget hpath hnode
    unfold unpack
    generalize fs.unpackEntry target entry = unpacked at hentry
    generalize (fs.erase place).unpackEntry target entry = unpacked₀ at hentry
    cases hentry with
    | error fault => exact ⟨rfl, h⟩
    | ok fs' h' => exact ih h' fun entry he => hentries entry (List.mem_cons_of_mem _ he)

/-! ## Dockerfiles -/

section Dockerfiles

variable {cwd root : Place} {file text : String} {c : Contained}

/-- The place that a dockerfile text names below a root has only names of the root and of the
text. -/
theorem not_namedIn_candidate (hne : n ≠ "") (hnames : ∀ name ∈ root, IsEntryName name)
    (hroot : n ∉ root) (hfile : ¬ NamedIn n file)
    (hcandidate : Sandbox.candidate? root file = some p) : ¬ NamedIn n p.text := by
  have hp : ∀ name ∈ p, name ∈ root ∨ NamedIn name file := by
    intro name hname
    unfold Sandbox.candidate? at hcandidate
    split at hcandidate
    · cases hcandidate
    · rename_i names hcancel
      split_ifs at hcandidate
      obtain rfl := Option.some.inj hcandidate
      obtain ⟨back, hback, rfl⟩ := Option.map_eq_some_iff.1 hcancel
      have hsteps := Path.mem_of_mem_cancel hback (List.mem_reverse.1 hname)
      unfold Path.join at hsteps
      split_ifs at hsteps
      · exact Or.inr (Path.namedIn_of_mem_steps (hsteps.resolve_left List.not_mem_nil))
      · rcases List.mem_append.1 (hsteps.resolve_left List.not_mem_nil) with hsteps | hsteps
        · obtain ⟨m, hm, hstep⟩ := List.mem_map.1 hsteps
          exact Or.inl (Step.name.inj hstep ▸ hm)
        · exact Or.inr (Path.namedIn_of_mem_steps hsteps)
  refine Place.not_namedIn_text hne (fun name hname => ?_) fun hmem => ?_
  · exact (hp name hname).elim (fun h => (hnames name h).2.2.2.1) Text.not_mem_of_mem_splitText
  · exact (hp n hmem).elim hroot hfile

/-- A dockerfile is judged the same without a place aside. -/
theorem check_erase (h : fs.Aside place n) (hwf : fs.WellFormed) (hne : n ≠ "") (hcwd : n ∉ cwd)
    (hfile : ¬ NamedIn n file) (htext : ¬ NamedIn n text) :
    Sandbox.check (fs.erase place) cwd file text = Sandbox.check fs cwd file text := by
  have hsteps := mt Path.namedIn_of_mem_steps htext
  unfold Sandbox.check
  rw [h.canonical_erase hcwd hsteps]
  cases hcanonical : fs.canonical cwd text with
  | error cause => rfl
  | ok root =>
    have hroot := h.not_mem_of_canonical hcwd hsteps hcanonical
    have hnames := (hwf.resolved_of_canonical hcanonical).named
    dsimp only
    cases hcandidate : Sandbox.candidate? root file with
    | none => rfl
    | some p =>
      have hp := mt Path.namedIn_of_mem_steps
        (not_namedIn_candidate hne hnames hroot hfile hcandidate)
      unfold Sandbox.inspect
      dsimp only
      rw [h.canonical_erase List.not_mem_nil hp]
      cases hresolved : fs.canonical [] p.text with
      | error cause => cases cause <;> rfl
      | ok q =>
        have hq := h.not_mem_of_canonical List.not_mem_nil hp hresolved
        dsimp only
        rw [isFileAt_erase_of_not_mem fs h.name hq]

theorem not_mem_of_check (h : fs.Aside place n) (hwf : fs.WellFormed) (hne : n ≠ "")
    (hcwd : n ∉ cwd) (hfile : ¬ NamedIn n file) (htext : ¬ NamedIn n text)
    (hcheck : Sandbox.check fs cwd file text = .ok c) : n ∉ c.root ∧ n ∉ c.file := by
  obtain ⟨hcanonical, p, hcandidate, hinspect⟩ := Sandbox.check_eq_ok_iff.1 hcheck
  have hroot := h.not_mem_of_canonical hcwd (mt Path.namedIn_of_mem_steps htext) hcanonical
  have hnames := (hwf.resolved_of_canonical hcanonical).named
  have hp := not_namedIn_candidate hne hnames hroot hfile hcandidate
  exact ⟨hroot, h.not_mem_of_canonical List.not_mem_nil (mt Path.namedIn_of_mem_steps hp)
    (Sandbox.inspect_eq_ok_iff.1 hinspect).2.1⟩

end Dockerfiles

/-! ## Staging -/

variable {root workdir : Place} {c : Contained}

theorem archive_erase (h : fs.Aside place n) (hroot : fs.Resolved root) (hn : n ∉ root)
    (hup : ¬ root <+: place) {cwd : Place} (hcwd : n ∉ cwd) :
    (fs.erase place).archive cwd root.text = fs.archive cwd root.text := by
  have hsteps : .name n ∉ (Path.ofText (joinText root.text "")).steps := by
    rw [Path.ofText_joinText_text hroot.named]
    simpa using name_not_mem_namesToSteps hn
  unfold FileSystem.archive
  rw [h.resolve_erase hcwd hsteps]
  cases hresolve : fs.resolve cwd (joinText root.text "") with
  | error cause => rfl
  | ok p =>
    obtain rfl := hroot.eq_of_resolve hresolve
    dsimp only
    rw [isDirAt_erase_of_not_mem fs h.name hn,
      below_erase fs hup fun hup => hn (hup.subset h.name)]

/-- What is archived of a context that does not hold a place aside does not lead there. -/
theorem not_mem_of_archive (h : fs.Aside place n) (hwf : fs.WellFormed) (hroot : fs.Resolved root)
    (hne : n ≠ "") (hn : n ∉ root) (hup : ¬ root <+: place) {records : List LogRecord}
    {archive : Archive} (ha : fs.archive [] root.text = (records, .ok archive)) :
    ∀ entry ∈ archive, n ∉ entry.path ∧ ¬ entry.stored.unpacked.LinksBy n := by
  intro entry he
  obtain ⟨hpath, node, hl, hkept⟩ := (hwf.mem_archive_iff hroot ha entry).1 he
  have hbelow : ¬ place <+: root ++ entry.path := by
    intro hprefix
    rcases List.prefix_or_prefix_of_prefix hprefix (List.prefix_append root entry.path) with h' | h'
    · exact hn (h'.subset h.name)
    · exact hup h'
  obtain ⟨hmem, hlinks⟩ := h.others _ (mem_nodes_of_lookup (by simp [hpath]) hl) hbelow
  exact ⟨fun hmem' => hmem (List.mem_append_right root hmem'),
    fun hlinked => hlinks (Node.linksBy_of_kept? hne hkept hlinked)⟩

/-- Staging beside a place that the context does not hold. -/
theorem stage (h : fs.Aside place n) (hwf : fs.WellFormed) (hroot : fs.Resolved c.root)
    (hne : n ≠ "") (hdockerfile : n ≠ dockerfileName) (hn : n ∉ c.root) (hup : ¬ c.root <+: place)
    (hfile : n ∉ c.file) (hworkdir : n ∉ workdir) :
    (fs.erase place).stage c workdir = ((fs.stage c workdir).1,
        (fs.stage c workdir).2.1.erase place, (fs.stage c workdir).2.2) ∧
      (fs.stage c workdir).2.1.Aside place n := by
  unfold FileSystem.stage
  rw [h.archive_erase hroot hn hup List.not_mem_nil]
  rcases ha : fs.archive [] c.root.text with ⟨records, fault | archive⟩
  · exact ⟨rfl, h⟩
  · -- what is unpacked comes from the context, which does not hold the place
    have hentries : ∀ entry ∈ archive.filter fun entry => !entry.isExcluded,
        n ∉ entry.path ∧ ¬ entry.stored.unpacked.LinksBy n :=
      fun entry he => h.not_mem_of_archive hwf hroot hne hn hup ha entry (List.mem_of_mem_filter he)
    obtain ⟨hunpack, h'⟩ := h.unpack_erase hworkdir hentries
    dsimp only
    rw [hunpack]
    rcases hu : fs.unpack workdir (archive.filter fun entry => !entry.isExcluded) with
      ⟨files, _ | fault⟩
    · rw [hu] at h'
      have hcopy := h'.copyFile_beside hfile hworkdir hdockerfile
      dsimp only
      generalize files.copyFile c.file workdir dockerfileName = copied at hcopy
      generalize (files.erase place).copyFile c.file workdir dockerfileName = copied₀ at hcopy
      cases hcopy with
      | error fault => exact ⟨rfl, h'⟩
      | ok files' h'' => exact ⟨rfl, h''⟩
    · rw [hu] at h'
      exact ⟨rfl, h'⟩

end Aside

end FileSystem

end ImageBuild
