import ImageBuild.Proofs.Builder.Sending
import ImageBuild.Proofs.Output.Forwarding

/-!
# Streams of a daemon

A build and a push read what the daemon streams up to its first failure, and this failure is their
result, whatever was reported before (`heedsFailures`). `ReadsStream` says what reading one item
does: a failure ends the stream, and every other item gives its lines and maybe an identifier. By
induction the items in front of a failure give theirs in order (`ReadsStream.append`).
-/

namespace ImageBuild

/-! ## Lines of output -/

/-- The lines that a piece of output gives to a stream. -/
def Output.linesOn (stream : Stream) : Output → List String
  | .line s text => if s = stream then [text] else []
  | .lines s text => if s = stream then Sink.visibleLines text else []

/-- Some output gives lines to the standard output of every world, one after the other, and nothing
to the other one. -/
def Gives (output : List Output) (lines : List String) : Prop :=
  ∀ (σ : Type) (w : World σ), (w.forward output).stdout = (w.stdout.writeEach lines).1 ∧
    (w.forward output).stderr = w.stderr

theorem Sink.writeEach_append (sink : Sink) (lines more : List String) :
    (sink.writeEach (lines ++ more)).1 = ((sink.writeEach lines).1.writeEach more).1 := by
  rw [sink.writeEach_append_eq]

namespace World

variable {σ : Type}

theorem forwardOne_sinks (w : World σ) (piece : Output) :
    (w.forwardOne piece).stdout = (w.stdout.writeEach (piece.linesOn .stdout)).1 ∧
      (w.forwardOne piece).stderr = (w.stderr.writeEach (piece.linesOn .stderr)).1 := by
  rcases piece with ⟨stream, text⟩ | ⟨stream, text⟩ <;> cases stream <;> exact ⟨rfl, rfl⟩

/-- Each sink receives the lines of its stream in order. -/
theorem forward_sinks (w : World σ) (output : List Output) :
    (w.forward output).stdout = (w.stdout.writeEach (output.flatMap (·.linesOn .stdout))).1 ∧
      (w.forward output).stderr = (w.stderr.writeEach (output.flatMap (·.linesOn .stderr))).1 := by
  induction output generalizing w with
  | nil => exact ⟨rfl, rfl⟩
  | cons piece output ih =>
    obtain ⟨hout, herr⟩ := ih (w.forwardOne piece)
    obtain ⟨hout₁, herr₁⟩ := w.forwardOne_sinks piece
    rw [List.flatMap_cons, List.flatMap_cons, Sink.writeEach_append, Sink.writeEach_append, ← hout₁,
      ← herr₁]
    exact ⟨hout, herr⟩

end World

theorem gives_of_linesOn {output : List Output} {lines : List String}
    (hout : output.flatMap (·.linesOn .stdout) = lines)
    (herr : output.flatMap (·.linesOn .stderr) = []) : Gives output lines := by
  intro σ w
  obtain ⟨hstdout, hstderr⟩ := w.forward_sinks output
  rw [hout] at hstdout
  rw [herr] at hstderr
  exact ⟨hstdout, hstderr⟩

/-- Pieces of output give their lines one after the other. -/
theorem gives_flatMap {ι : Type} {written : ι → List Output} {lines : ι → List String}
    (hout : ∀ i, (written i).flatMap (·.linesOn .stdout) = lines i)
    (herr : ∀ i, (written i).flatMap (·.linesOn .stderr) = []) (items : List ι) :
    Gives (items.flatMap written) (items.flatMap lines) := by
  refine gives_of_linesOn ?_ ?_
  · rw [List.flatMap_assoc]
    exact congrArg (List.flatMap · items) (funext hout)
  · rw [List.flatMap_assoc]
    exact List.flatMap_eq_nil_iff.2 fun i _ => herr i

/-! ## Reading up to the first failure -/

/-- Items of a stream are read one by one with a state: an item that is a failure ends the stream
with its report and maybe some last output, and any other one gives output and the next state. -/
structure ReadsStream {ι S ρ : Type} (follow : S → List ι → List Output × Except Frames ρ)
    (failure? : ι → Option Frames) (written last : ι → List Output) (next : S → ι → S)
    (finish : S → ρ) : Prop where
  nil : ∀ s, follow s [] = ([], .ok (finish s))
  cons_of_failure : ∀ s item rest frames, failure? item = some frames →
    follow s (item :: rest) = (last item, .error frames)
  cons : ∀ s item rest, failure? item = none → follow s (item :: rest) =
    (written item ++ (follow (next s item) rest).1, (follow (next s item) rest).2)

namespace ReadsStream

variable {ι S ρ : Type} {follow : S → List ι → List Output × Except Frames ρ}
  {failure? : ι → Option Frames} {written last : ι → List Output} {next : S → ι → S}
  {finish : S → ρ} {before : List ι}

/-- Items that are no failures give their output in order, and the rest is read after them. -/
theorem append (h : ReadsStream follow failure? written last next finish)
    (hbefore : ∀ item ∈ before, failure? item = none) (s : S) (rest : List ι) :
    follow s (before ++ rest) =
      (before.flatMap written ++ (follow (before.foldl next s) rest).1,
        (follow (before.foldl next s) rest).2) := by
  induction before generalizing s with
  | nil => rfl
  | cons item before ih =>
    rw [List.cons_append, h.cons s item _ (hbefore item List.mem_cons_self),
      ih (fun i hi => hbefore i (List.mem_cons_of_mem _ hi)), List.flatMap_cons, List.append_assoc,
      List.foldl_cons]

theorem of_no_failure (h : ReadsStream follow failure? written last next finish) {items : List ι}
    (hitems : ∀ item ∈ items, failure? item = none) (s : S) :
    follow s items = (items.flatMap written, .ok (finish (items.foldl next s))) := by
  have happend := h.append hitems s []
  rwa [List.append_nil, h.nil, List.append_nil] at happend

theorem of_failure (h : ReadsStream follow failure? written last next finish)
    (hbefore : ∀ item ∈ before, failure? item = none) {item : ι} {frames : Frames}
    (hitem : failure? item = some frames) (s : S) (after : List ι) :
    follow s (before ++ item :: after) = (before.flatMap written ++ last item, .error frames) := by
  rw [h.append hbefore, h.cons_of_failure _ item after frames hitem]

end ReadsStream

/-! ## The stream of a build -/

namespace BuildMessage

/-- The report of an item, if it is a failure: it is no message, or one with an error. -/
def failure? : Except Frames BuildMessage → Option Frames
  | .error frames => some (frames ++ ["error while building image"])
  | .ok message => message.error.map fun error => ["image build failed: " ++ error]

/-- The lines of the text of an item. -/
def lines : Except Frames BuildMessage → List String
  | .error _ => []
  | .ok message => (message.text.map Sink.visibleLines).getD []

/-- The identifier that an item reports. -/
def id? : Except Frames BuildMessage → Option String
  | .error _ => none
  | .ok message => message.id

/-- The output of an item, be it a failure or not. -/
def written : Except Frames BuildMessage → List Output
  | .error _ => []
  | .ok message => (message.text.map (Output.lines .stdout)).toList

theorem gives_written (items : List (Except Frames BuildMessage)) :
    Gives (items.flatMap written) (items.flatMap lines) := by
  refine gives_flatMap (fun item => ?_) (fun item => ?_) items <;>
    rcases item with _ | ⟨_ | text, _, _⟩ <;> simp [written, lines, Output.linesOn]

theorem readsStream :
    ReadsStream follow failure? written written (fun id item => (id? item).or id) fun id => id := by
  constructor
  case nil => exact fun _ => rfl
  case cons_of_failure =>
    rintro id (frames | ⟨text, _ | error, id'⟩) rest report h
    · obtain rfl := Option.some.inj h
      rfl
    · cases h
    · obtain rfl := Option.some.inj h
      rfl
  case cons =>
    rintro id (frames | ⟨text, _ | error, id'⟩) rest h
    · cases h
    · rfl
    · cases h

/-- The last identifier that an item reports is kept. -/
theorem foldl_id? (id : Option String) (items : List (Except Frames BuildMessage)) :
    items.foldl (fun id item => (id? item).or id) id =
      (items.filterMap id?).getLast?.or id := by
  induction items generalizing id with
  | nil => rfl
  | cons item items ih =>
    rw [List.foldl_cons, ih, List.filterMap_cons]
    cases id? item with
    | none => rfl
    | some reported =>
      dsimp only
      rw [List.getLast?_cons]
      cases (items.filterMap id?).getLast? <;> rfl

theorem follow_of_no_failure {items : List (Except Frames BuildMessage)}
    (h : ∀ item ∈ items, failure? item = none) :
    follow none items = (items.flatMap written, .ok (items.filterMap id?).getLast?) := by
  rw [readsStream.of_no_failure h, foldl_id?, Option.or_none]

theorem follow_of_failure {before after : List (Except Frames BuildMessage)}
    {item : Except Frames BuildMessage} {frames : Frames}
    (hbefore : ∀ item ∈ before, failure? item = none) (h : failure? item = some frames) :
    follow none (before ++ item :: after) = ((before ++ [item]).flatMap written, .error frames) := by
  rw [readsStream.of_failure hbefore h, List.flatMap_append, List.flatMap_singleton]

end BuildMessage

/-! ## The stream of a push -/

namespace PushMessage

/-- The report of an item, if it is a failure: it is no message, or one with an error. -/
def failure? (reference : String) : Except Frames PushMessage → Option Frames
  | .error frames => some (frames ++ ["error while pushing image"])
  | .ok message => message.error.map fun error => ["push of " ++ reference ++ " failed: " ++ error]

/-- The line of an item. -/
def lines : Except Frames PushMessage → List String
  | .error _ => []
  | .ok message => message.line?.toList

/-- The output of an item that is no failure. -/
def written : Except Frames PushMessage → List Output
  | .error _ => []
  | .ok message => (message.line?.map (Output.line .stdout)).toList

theorem gives_written (items : List (Except Frames PushMessage)) :
    Gives (items.flatMap written) (items.flatMap lines) := by
  refine gives_flatMap (fun item => ?_) (fun item => ?_) items <;>
    rcases item with _ | message
  · rfl
  · cases hline : message.line? <;> simp [written, lines, Output.linesOn, hline]
  · rfl
  · cases hline : message.line? <;> simp [written, Output.linesOn, hline]

theorem readsStream (reference : String) :
    ReadsStream (fun _ : Unit => follow reference) (failure? reference) written (fun _ => [])
      (fun _ _ => ()) (fun _ => ()) := by
  constructor
  case nil => exact fun _ => rfl
  case cons_of_failure =>
    rintro - (frames | ⟨status, progress, _ | error⟩) rest report h
    · obtain rfl := Option.some.inj h
      rfl
    · cases h
    · obtain rfl := Option.some.inj h
      rfl
  case cons =>
    rintro - (frames | ⟨status, progress, _ | error⟩) rest h
    · cases h
    · rfl
    · cases h

theorem follow_of_no_failure {reference : String} {items : List (Except Frames PushMessage)}
    (h : ∀ item ∈ items, failure? reference item = none) :
    follow reference items = (items.flatMap written, .ok ()) :=
  (readsStream reference).of_no_failure h ()

theorem follow_of_failure {reference : String} {before after : List (Except Frames PushMessage)}
    {item : Except Frames PushMessage} {frames : Frames}
    (hbefore : ∀ item ∈ before, failure? reference item = none)
    (h : failure? reference item = some frames) :
    follow reference (before ++ item :: after) = (before.flatMap written, .error frames) := by
  rw [← List.append_nil (before.flatMap written)]
  exact (readsStream reference).of_failure hbefore h () after

end PushMessage

/-- A stream has a first failure, or none. -/
theorem first_failure {ι : Type} (failure? : ι → Option Frames) (items : List ι) :
    (∀ item ∈ items, failure? item = none) ∨ ∃ before item after frames,
      items = before ++ item :: after ∧ (∀ i ∈ before, failure? i = none) ∧
        failure? item = some frames := by
  induction items with
  | nil => exact Or.inl (List.forall_mem_nil _)
  | cons item items ih =>
    rcases h : failure? item with _ | frames
    · rcases ih with hnone | ⟨before, failed, after, frames, rfl, hbefore, hfailed⟩
      · exact Or.inl (List.forall_mem_cons.2 ⟨h, hnone⟩)
      · exact Or.inr ⟨item :: before, failed, after, frames, rfl,
          List.forall_mem_cons.2 ⟨h, hbefore⟩, hfailed⟩
    · exact Or.inr ⟨[], item, items, frames, rfl, List.forall_mem_nil _, h⟩

/-! ## Answers -/

namespace Daemon

variable {daemon : Daemon}

/-- What a build answers if the daemon streams some items and is in a state `daemon` then. -/
structure BuildAnswered (daemon : Daemon) (reference : String)
    (items : List (Except Frames BuildMessage)) (answer : Answer Daemon String) : Prop where
  /-- It succeeds if and only if no item is a failure, with the last identifier that an item
  reports, or else with the one that the daemon has for the reference. -/
  ok_iff : ∀ id, answer.result = .ok id ↔ (∀ item ∈ items, BuildMessage.failure? item = none) ∧
    ((items.filterMap BuildMessage.id?).getLast? = some id ∨
      items.filterMap BuildMessage.id? = [] ∧ (daemon.inspect reference).2 = .ok id)
  /-- The first failure is its result, and it is the last item that is read. -/
  failed : ∀ before item after frames, items = before ++ item :: after →
    (∀ i ∈ before, BuildMessage.failure? i = none) → BuildMessage.failure? item = some frames →
      answer.result = .error (.failed frames) ∧
        Gives answer.output ((before ++ [item]).flatMap BuildMessage.lines)
  finished : (∀ item ∈ items, BuildMessage.failure? item = none) →
    Gives answer.output (items.flatMap BuildMessage.lines)
  /-- The daemon is asked about the reference if no item is a failure and none reports an
  identifier. -/
  asked : (∀ item ∈ items, BuildMessage.failure? item = none) →
    items.filterMap BuildMessage.id? = [] → answer.state = (daemon.inspect reference).1 ∧
      answer.state.requests = daemon.requests ++ [inspectRequest reference]
  /-- Otherwise it is asked for nothing. -/
  unasked : ((∃ item ∈ items, BuildMessage.failure? item ≠ none) ∨
    items.filterMap BuildMessage.id? ≠ []) → answer.state = daemon

/-- What a push of a reference answers if the daemon streams some items and is in a state `daemon`
then. -/
structure PushAnswered (daemon : Daemon) (reference : String)
    (items : List (Except Frames PushMessage)) (answer : Answer Daemon Unit) : Prop where
  ok_iff : answer.result = .ok () ↔ ∀ item ∈ items, PushMessage.failure? reference item = none
  /-- The first failure is its result, and nothing of it or of what comes after it is written. -/
  failed : ∀ before item after frames, items = before ++ item :: after →
    (∀ i ∈ before, PushMessage.failure? reference i = none) →
    PushMessage.failure? reference item = some frames →
      answer.result = .error (.failed frames) ∧
        Gives answer.output (before.flatMap PushMessage.lines)
  finished : (∀ item ∈ items, PushMessage.failure? reference item = none) →
    Gives answer.output (items.flatMap PushMessage.lines)
  state : answer.state = daemon

/-- No failure in a stream of a daemon is lost. -/
structure HeedsFailures (daemon : Daemon) : Prop where
  concludeBuild : ∀ reference items,
    BuildAnswered daemon reference items (daemon.concludeBuild reference items)
  concludePush : ∀ repository tag items,
    PushAnswered daemon (repository ++ ":" ++ tag) items (daemon.concludePush repository tag items)
  /-- A directory that can be archived is built by what the daemon streams. -/
  build : ∀ (dir : BuildDir) reference archive,
    (dir.files.archive dir.cwd dir.path).2 = .ok archive →
      BuildAnswered (daemon.exchange (buildRequest archive reference)).1 reference
        (streamed BuildMessage.ofBody (daemon.exchange (buildRequest archive reference)).2)
        (backend.build daemon dir reference)
  push : ∀ repository tag,
    PushAnswered (daemon.exchange (pushRequest repository tag)).1 (repository ++ ":" ++ tag)
      (streamed PushMessage.ofBody (daemon.exchange (pushRequest repository tag)).2)
      (backend.push daemon repository tag)

theorem concludeBuild_of_failure {before after : List (Except Frames BuildMessage)}
    {item : Except Frames BuildMessage} {frames : Frames}
    (hbefore : ∀ i ∈ before, BuildMessage.failure? i = none)
    (h : BuildMessage.failure? item = some frames) (daemon : Daemon) (reference : String) :
    daemon.concludeBuild reference (before ++ item :: after) =
      ⟨daemon, (before ++ [item]).flatMap BuildMessage.written, .error (.failed frames)⟩ := by
  unfold concludeBuild
  rw [BuildMessage.follow_of_failure hbefore h]

theorem concludeBuild_of_reported {items : List (Except Frames BuildMessage)} {id : String}
    (h : ∀ item ∈ items, BuildMessage.failure? item = none)
    (hid : (items.filterMap BuildMessage.id?).getLast? = some id) (daemon : Daemon)
    (reference : String) :
    daemon.concludeBuild reference items =
      ⟨daemon, items.flatMap BuildMessage.written, .ok id⟩ := by
  unfold concludeBuild
  rw [BuildMessage.follow_of_no_failure h, hid]

theorem concludeBuild_of_unreported {items : List (Except Frames BuildMessage)}
    (h : ∀ item ∈ items, BuildMessage.failure? item = none)
    (hid : items.filterMap BuildMessage.id? = []) (daemon : Daemon) (reference : String) :
    daemon.concludeBuild reference items = ⟨(daemon.inspect reference).1,
      items.flatMap BuildMessage.written, (daemon.inspect reference).2⟩ := by
  unfold concludeBuild
  rw [BuildMessage.follow_of_no_failure h, hid]
  rfl

theorem buildAnswered (daemon : Daemon) (reference : String)
    (items : List (Except Frames BuildMessage)) :
    BuildAnswered daemon reference items (daemon.concludeBuild reference items) := by
  constructor
  case ok_iff =>
    intro id
    rcases first_failure BuildMessage.failure? items with
      h | ⟨before, item, after, frames, rfl, hbefore, hitem⟩
    · rcases hid : (items.filterMap BuildMessage.id?).getLast? with _ | id'
      · have hnil := List.getLast?_eq_none_iff.1 hid
        rw [concludeBuild_of_unreported h hnil, and_iff_right h]
        simp [hnil]
      · have hne : items.filterMap BuildMessage.id? ≠ [] := fun hnil => by simp [hnil] at hid
        rw [concludeBuild_of_reported h hid, and_iff_right h]
        simp [hne]
    · rw [concludeBuild_of_failure hbefore hitem]
      refine iff_of_false (by simp) fun h => ?_
      rw [h.1 item (by simp)] at hitem
      cases hitem
  case failed =>
    rintro before item after frames rfl hbefore hitem
    rw [concludeBuild_of_failure hbefore hitem]
    exact ⟨rfl, BuildMessage.gives_written _⟩
  case finished =>
    intro h
    rcases hid : (items.filterMap BuildMessage.id?).getLast? with _ | id
    · rw [concludeBuild_of_unreported h (List.getLast?_eq_none_iff.1 hid)]
      exact BuildMessage.gives_written items
    · rw [concludeBuild_of_reported h hid]
      exact BuildMessage.gives_written items
  case asked =>
    intro h hid
    rw [concludeBuild_of_unreported h hid]
    exact ⟨rfl, requests_inspect daemon reference⟩
  case unasked =>
    intro h
    rcases first_failure BuildMessage.failure? items with
      hnone | ⟨before, item, after, frames, rfl, hbefore, hitem⟩
    · rcases h with ⟨item, hmem, hitem⟩ | hid
      · exact absurd (hnone item hmem) hitem
      · rw [concludeBuild_of_reported hnone (List.getLast?_eq_some_getLast hid)]
    · rw [concludeBuild_of_failure hbefore hitem]

theorem pushAnswered (daemon : Daemon) (repository tag : String)
    (items : List (Except Frames PushMessage)) :
    PushAnswered daemon (repository ++ ":" ++ tag) items
      (daemon.concludePush repository tag items) := by
  unfold concludePush
  constructor
  case ok_iff =>
    rcases first_failure (PushMessage.failure? (repository ++ ":" ++ tag)) items with
      h | ⟨before, item, after, frames, rfl, hbefore, hitem⟩
    · rw [PushMessage.follow_of_no_failure h]
      exact iff_of_true rfl h
    · rw [PushMessage.follow_of_failure hbefore hitem]
      refine iff_of_false (by simp [reported]) fun h => ?_
      rw [h item (by simp)] at hitem
      cases hitem
  case failed =>
    rintro before item after frames rfl hbefore hitem
    rw [PushMessage.follow_of_failure hbefore hitem]
    exact ⟨rfl, PushMessage.gives_written before⟩
  case finished =>
    intro h
    rw [PushMessage.follow_of_no_failure h]
    exact PushMessage.gives_written items
  case state => rfl

/-- A failure after an identifier is the result all the same; the text of its message is written. -/
example :
    let answer := (⟨[], []⟩ : Daemon).concludeBuild "repository:tag"
      [.ok ⟨some "Step 1\n\n", none, some "sha256:1"⟩,
        .ok ⟨some "Step 2", some "out of space", none⟩, .ok ⟨some "Step 3", none, none⟩]
    answer.result = .error (.failed ["image build failed: out of space"]) ∧
      answer.output = [.lines .stdout "Step 1\n\n", .lines .stdout "Step 2"] := by
  decide +kernel

end Daemon

end ImageBuild
