import ImageBuild.World

/-!
# What requests change

A request to the backend or to version control adds one event, moves the state of the services and
writes output; it changes no files. Steps that make no request at all leave the services as they
are (`World.Quiet`).
-/

namespace ImageBuild

namespace World

variable {σ : Type} {w w' w'' : World σ}

/-- Nothing was asked of the services between two worlds. -/
structure Quiet (w w' : World σ) : Prop where
  service : w'.service = w.service
  events : w'.events = w.events
  cwd : w'.cwd = w.cwd

/-- The files are the same in two worlds, are seen from the same directory, and the next working
directory is made in the same place. -/
structure SameFiles (w w' : World σ) : Prop where
  files : w'.files = w.files
  cwd : w'.cwd = w.cwd
  temp : w'.temp = w.temp
  serial : w'.serial = w.serial

theorem Quiet.refl (w : World σ) : w.Quiet w := ⟨rfl, rfl, rfl⟩

theorem Quiet.trans (h : w.Quiet w') (h' : w'.Quiet w'') : w.Quiet w'' :=
  ⟨h'.service.trans h.service, h'.events.trans h.events, h'.cwd.trans h.cwd⟩

theorem SameFiles.refl (w : World σ) : w.SameFiles w := ⟨rfl, rfl, rfl, rfl⟩

theorem SameFiles.trans (h : w.SameFiles w') (h' : w'.SameFiles w'') : w.SameFiles w'' :=
  ⟨h'.files.trans h.files, h'.cwd.trans h.cwd, h'.temp.trans h.temp, h'.serial.trans h.serial⟩

theorem quiet_log (w : World σ) (records : List LogRecord) : w.Quiet (w.log records) :=
  ⟨rfl, rfl, rfl⟩

theorem sameFiles_log (w : World σ) (records : List LogRecord) : w.SameFiles (w.log records) :=
  ⟨rfl, rfl, rfl, rfl⟩

/-! ## Output -/

theorem forwardOne_eq (w : World σ) (piece : Output) : ∃ out err records,
    w.forwardOne piece = { w with stdout := out, stderr := err, records := records } := by
  match piece with
  | .line .stdout _ => exact ⟨_, _, _, rfl⟩
  | .line .stderr _ => exact ⟨_, _, _, rfl⟩
  | .lines .stdout _ => exact ⟨_, _, _, rfl⟩
  | .lines .stderr _ => exact ⟨_, _, _, rfl⟩

/-- Forwarding output only concerns sinks and records. -/
theorem forward_eq (w : World σ) (output : List Output) : ∃ out err records,
    w.forward output = { w with stdout := out, stderr := err, records := records } := by
  induction output generalizing w with
  | nil => exact ⟨w.stdout, w.stderr, w.records, rfl⟩
  | cons piece output ih =>
    obtain ⟨out, err, records, hone⟩ := w.forwardOne_eq piece
    obtain ⟨out', err', records', hrest⟩ := ih (w.forwardOne piece)
    refine ⟨out', err', records', ?_⟩
    have hcons : w.forward (piece :: output) = (w.forwardOne piece).forward output := rfl
    rw [hcons, hrest, hone]

theorem quiet_forward (w : World σ) (output : List Output) : w.Quiet (w.forward output) := by
  obtain ⟨out, err, records, h⟩ := w.forward_eq output
  rw [h]
  exact ⟨rfl, rfl, rfl⟩

theorem sameFiles_forward (w : World σ) (output : List Output) :
    w.SameFiles (w.forward output) := by
  obtain ⟨out, err, records, h⟩ := w.forward_eq output
  rw [h]
  exact ⟨rfl, rfl, rfl, rfl⟩

/-! ## Requests -/

/-- Some requests were made between two worlds, which left the services in a state and changed no
files. -/
structure Moved (w : World σ) (events : List Event) (service : σ) (w' : World σ) : Prop where
  sameFiles : w.SameFiles w'
  service : w'.service = service
  events : w'.events = w.events ++ events

theorem Moved.refl (w : World σ) : w.Moved [] w.service w := ⟨.refl w, rfl, by simp⟩

theorem Moved.trans {events events' : List Event} {s s' : σ} (h : w.Moved events s w')
    (h' : w'.Moved events' s' w'') : w.Moved (events ++ events') s' w'' :=
  ⟨h.sameFiles.trans h'.sameFiles, h'.service, by rw [h'.events, h.events, List.append_assoc]⟩

theorem Moved.log {events : List Event} {s : σ} (h : w.Moved events s w')
    (records : List LogRecord) : w.Moved events s (w'.log records) :=
  ⟨h.sameFiles.trans (sameFiles_log w' records), h.service, h.events⟩

theorem Moved.of_log {events : List Event} {s : σ} {records : List LogRecord}
    (h : (w.log records).Moved events s w') : w.Moved events s w' :=
  ⟨(sameFiles_log w records).trans h.sameFiles, h.service, h.events⟩

theorem moved_of_request {α : Type} {event : Event} {call : σ → Answer σ α}
    {result : Except BackendFault α} (h : w.request event call = (w', result)) :
    w.Moved [event] (call w.service).state w' ∧ (call w.service).result = result := by
  unfold request at h
  dsimp only at h
  obtain ⟨rfl, hresult⟩ := Prod.mk.inj h
  have hquiet := quiet_forward { w.note event with service := (call w.service).state }
    (call w.service).output
  have hfiles := sameFiles_forward { w.note event with service := (call w.service).state }
    (call w.service).output
  exact ⟨⟨⟨hfiles.files, hfiles.cwd, hfiles.temp, hfiles.serial⟩, hquiet.service, hquiet.events⟩,
    hresult⟩

theorem moved_of_ask {provider : Provider σ} {query : Query} {root : String}
    {result : Except Frames String} (h : w.ask provider query root = (w', result)) :
    ∃ s, w.Moved [.query query root] s w' ∧ provider.answer w.service query root = (s, result) := by
  unfold ask at h
  dsimp only at h
  obtain ⟨rfl, rfl⟩ := Prod.mk.inj h
  exact ⟨_, ⟨⟨rfl, rfl, rfl, rfl⟩, rfl, rfl⟩, rfl⟩

end World

end ImageBuild
