import PhoneAudio.Proofs.Capture.Reports
import PhoneAudio.Proofs.Handset.Failures
import PhoneAudio.Proofs.Handset.Reopening

/-!
# Failed transfers

How a transfer that fails leaves its stream and the others (`PhoneAudio.Session.failsCleanly`). It
answers the first failure of a call to the PCM driver on behalf of its stream, which is the only
one. The stream is in standby afterwards, without a PCM and without the wake lock, and the listener
was told about the failure once, before anything that the standby has to tell. Any other stream
stays where it is, and stays out of standby unless it could not be opened again.
-/

namespace PhoneAudio

namespace Run

/-- Whether an error is that of the first failure that a transfer met. A stream that is not open is
refused before anything is called. -/
def Blames (before : Run) (id : StreamId) (error : AudioError) (found : List AudioError) : Prop :=
  if before.machine.isOpen id = true then
    found = [error] ∨
      found = [] ∧ (before.machine.stream id).direction = .capture ∧ error = Act.noFrames
  else found = [] ∧ error = .notInitialized

/-- Whether the listener is told of a failed transfer once, before the standby of its stream. -/
def Reports (before : Run) (id : StreamId) (error : AudioError) (moments : List Moment) : Prop :=
  ∃ ahead report behind, moments = ahead ++ report :: behind ∧
    report.what =
      .event (some id) (.transferFailed (before.machine.stream id).direction error.message) ∧
    (∀ moment ∈ ahead, moment.what.isReport = false ∧ moment.what.tellsStandby id = false) ∧
    ∀ moment ∈ behind, moment.what.isReport = false

/-- What is left of a transfer that failed with an error: its stream is in standby and holds
nothing, the listener was told, and other streams stay where they are. -/
structure FailsCleanly (before : Run) (id : StreamId) (error : AudioError) (moments : List Moment)
    (after : Run) : Prop where
  history : after.history = before.history ++ moments
  first : before.Blames id error (moments.filterMap (Moment.failure? id))
  asleep : (after.machine.stream id).isActive = false
  shut : (after.machine.stream id).pcm = none
  released : after.machine.drivers.hasWakeLock = true →
    Moment.taken after.history id = Moment.given after.history id
  told : before.machine.drivers.hasListener = true → before.Reports id error moments
  devices : ∀ other, (after.machine.stream other).devices = (before.machine.stream other).devices
  others : ∀ other, other ≠ id → (before.machine.stream other).isActive = true →
    (after.machine.stream other).isActive = true ∨ ∃ moment ∈ moments, moment.Refuses other

/-- A transfer that failed, but did not end yet. -/
structure Failing (before : Run) (id : StreamId) (error : AudioError) (between : Run) : Prop where
  meets : ∃ found moments, before.Meets id found moments between ∧ before.Blames id error found
  fixtures : between.machine.fixtures = before.machine.fixtures
  shows : ∃ state, between.Shows state ∧ state.Sound [] ∧ id < state.streams.length

end Run

namespace Act

variable {id : StreamId}

/-- Waking a stream answers with the failure that it meets, if it meets one. -/
theorem answered_beginTransfer {run : Run} (tied : run.machine.Tied)
    (attached : (run.machine.stream id).status.detached = false)
    (present : run.machine.hardware.present = true) :
    run.Answered id (beginTransfer [] id run).1 (beginTransfer [] id run).2 := by
  have locked : Clear id (lock (.stream id)) := clear_lock _
  have same : ((lock (.stream id) run).2.machine.stream id).status.detached =
      (run.machine.stream id).status.detached :=
    Machine.view_adjust (fun stream => stream.status.detached) run.machine id id fun _ => rfl
  have settled : (lock (.stream id) run).2.machine.Tied :=
    tied.of_ties ((plain_lock (.stream id)).keeps_ties run)
  exact (answered_wake settled (same.trans attached) present).preceded (locked.meets run)
    (locked.fixed.length run)

/-- A stream in standby that was closed is refused. -/
theorem beginTransfer_of_detached {run : Run} (asleep : (run.machine.stream id).isActive = false)
    (detached : (run.machine.stream id).status.detached = true) :
    beginTransfer [] id run = (.error .notInitialized, (lock (.stream id) run).2) := by
  have active : ((lock (.stream id) run).2.machine.stream id).isActive =
      (run.machine.stream id).isActive :=
    Machine.view_adjust Stream.isActive run.machine id id fun _ => rfl
  have status : ((lock (.stream id) run).2.machine.stream id).status.detached =
      (run.machine.stream id).status.detached :=
    Machine.view_adjust (fun stream => stream.status.detached) run.machine id id fun _ => rfl
  unfold beginTransfer wake
  rw [bind_apply, bind_apply, stream_apply]
  dsimp only
  rw [active, asleep, status, detached]
  rfl

/-- A transfer of the PCM of a stream meets what the driver makes of it. -/
theorem meets_transfer {α : Type} {what : Happening} {run : Run} {pcm : OpenPcm}
    (activity : Activity) (transfer : OpenPcm → Bench.Pcm → Except PcmError α × Bench.Pcm)
    (fails : ∀ before : Machine, Moment.failure? id ⟨what, before⟩ =
      (before.stream id).pcm.bind fun pcm => transferError? (transfer pcm before.drivers.pcm).1)
    (untold : what.isReport = false ∧ what.tellsStandby id = false)
    (opened : (run.machine.stream id).pcm = some pcm) : ∃ moments,
      run.Meets id (transferError? (transfer pcm run.machine.drivers.pcm).1).toList moments
        (call (.stream id) activity what (onPcm (transfer pcm)) run).2 := by
  have same : ((setActivity activity (.stream id) run).2.machine.stream id).pcm =
      (run.machine.stream id).pcm :=
    Machine.view_adjust Stream.pcm run.machine id id fun _ => rfl
  have failure := fails (setActivity activity (.stream id) run).2.machine
  rw [same, opened] at failure
  have called := meets_call id id activity (onPcm (transfer pcm)) untold run
  rw [failure] at called
  exact ⟨_, called⟩

/-- Writing to a PCM answers the failure that it meets. -/
theorem meets_writeOpen {run : Run} (there : (run.machine.stream id).pcm.isSome = true)
    (bytes : Nat) : ∃ moments,
      run.Meets id (failures (writeOpen id bytes run).1) moments (writeOpen id bytes run).2 := by
  obtain ⟨pcm, opened⟩ := Option.isSome_iff_exists.mp there
  have written : writeOpen id bytes run =
      ((run.machine.drivers.pcm.write pcm bytes).1.mapError .pcm,
        (call (.stream id) .writingPcm (.writePcm id bytes)
          (onPcm (·.write pcm bytes)) run).2) := by
    unfold writeOpen
    rw [bind_apply, stream_apply]
    dsimp only
    rw [opened]
    rfl
  have mapped : failures ((run.machine.drivers.pcm.write pcm bytes).1.mapError AudioError.pcm) =
      (transferError? (run.machine.drivers.pcm.write pcm bytes).1).toList := by
    cases (run.machine.drivers.pcm.write pcm bytes).1 <;> rfl
  rw [written, mapped]
  exact meets_transfer .writingPcm (fun pcm driver => driver.write pcm bytes)
    (fun _ => if_pos rfl) ⟨rfl, rfl⟩ opened

/-- What collecting frames meets, as long as the PCM is that of the stream. -/
def Hears (id : StreamId) (pcm : OpenPcm) (first : Run) (found : List PcmError) (last : Run) :
    Prop :=
  (first.machine.stream id).pcm = some pcm → (last.machine.stream id).pcm = some pcm ∧
    ∃ moments, first.Meets id (found.map .pcm) moments last

/-- Failures are met one read after the other. -/
theorem meeting_hears (id : StreamId) (pcm : OpenPcm) : Meeting (Hears id pcm) where
  refl run opened := ⟨opened, [], .refl run id⟩
  trans first rest opened := by
    obtain ⟨between, _, met⟩ := first opened
    obtain ⟨last, _, more⟩ := rest between
    have both := met.trans more
    rw [← List.map_append] at both
    exact ⟨last, _, both⟩

/-- Changing the buffers and the filters of a stream meets nothing. -/
theorem clear_buffers (id : StreamId) {f : Stream → Stream}
    (unseen : ∀ stream, (f stream).posting = stream.posting ∧ (f stream).tie = stream.tie) :
    Clear id (changeStream id f) :=
  Silent.clear (fixtures_changeStream id fun stream => (unseen stream).1)
    (keeps_ties_changeStream id fun stream => (unseen stream).2)

/-- What the PCM answers is reported as heard. -/
theorem captured_reports (id : StreamId) (pcm : OpenPcm) :
    (captured id pcm).Reports (Hears id pcm) := by
  intro wanted run opened
  have delivered : (failures (captured id pcm wanted run).1.frames).map AudioError.pcm =
      (transferError? (run.machine.drivers.pcm.read pcm (wanted * 2)).1).toList := by
    rw [(captured_eq id pcm wanted run).1]
    cases (run.machine.drivers.pcm.read pcm (wanted * 2)).1 <;> rfl
  have put : ∀ raw, Clear id (keepRaw id raw) := fun raw => clear_buffers id fun _ => ⟨rfl, rfl⟩
  obtain ⟨moments, asked⟩ := (put _).meets run
  have there : ((asking id wanted run).machine.stream id).pcm = some pcm :=
    ((put _).pcm run).trans opened
  have called : ∃ moments, (asking id wanted run).Meets id
      (transferError? (run.machine.drivers.pcm.read pcm (wanted * 2)).1).toList moments
      (call (.stream id) .readingPcm (.readPcm id (wanted * 2)) (onPcm (·.read pcm (wanted * 2)))
        (asking id wanted run)).2 :=
    meets_transfer .readingPcm (fun pcm driver => driver.read pcm (wanted * 2))
      (fun _ => if_pos rfl) ⟨rfl, rfl⟩ there
  obtain ⟨more, called⟩ := called
  rw [delivered]
  refine captured_ends (fun after => (after.machine.stream id).pcm = some pcm ∧ ∃ moments,
    run.Meets id ((transferError? (run.machine.drivers.pcm.read pcm (wanted * 2)).1).toList) moments
      after) ⟨?_, _, asked.trans called⟩ fun raw after ⟨there, moments, met⟩ => ?_
  · have ties : (call (.stream id) .readingPcm (.readPcm id (wanted * 2))
        (onPcm (·.read pcm (wanted * 2))) (asking id wanted run)).2.machine.ties =
          (asking id wanted run).machine.ties :=
      keeps_ties_call id _ _ _ _
    exact (congrArg Prod.fst (Machine.tie_of_ties ties id)).trans there
  · obtain ⟨more, rest⟩ := (put raw).meets after
    have both := met.trans rest
    rw [List.append_nil] at both
    exact ⟨((put raw).pcm after).trans there, _, both⟩

/-- Reading meets what collecting the frames meets. -/
theorem meets_readOpen_of_hears {run after : Run} {pcm : OpenPcm}
    (opened : (run.machine.stream id).pcm = some pcm) {frames : Nat}
    {outcome : Except AudioError Unit} {samples : List Int16} {pipeline : Pipeline}
    (ended : collected id pcm frames run = ((outcome, samples), pipeline, after))
    {found : List PcmError} (hears : Hears id pcm run found after) :
    ∃ moments, run.Meets id (found.map .pcm) moments (readOpen id frames run).2 := by
  obtain ⟨-, moments, met⟩ := hears opened
  have back : Clear id (changeStream id fun stream =>
      { stream with pipeline := pipeline, samples := samples }) :=
    clear_buffers id fun _ => ⟨rfl, rfl⟩
  obtain ⟨more, put⟩ := back.meets after
  have both := met.trans put
  rw [List.append_nil] at both
  rw [readOpen_of_some opened frames ended]
  exact ⟨_, both⟩

/-- **Reading** from a PCM answers the failure that it meets, unless no frames come. -/
theorem meets_readOpen {run : Run} (there : (run.machine.stream id).pcm.isSome = true)
    (frames : Nat) : ∃ found moments, run.Meets id found moments (readOpen id frames run).2 ∧
      (failures (readOpen id frames run).1 = found ∨
        (readOpen id frames run).1 = .error noFrames ∧ found = []) := by
  obtain ⟨pcm, opened⟩ := Option.isSome_iff_exists.mp there
  have meeting := meeting_hears id pcm
  obtain ⟨found, hears, answered⟩ := collect_reports meeting.behind
    (Pipeline.through_reports meeting (captured_reports id pcm))
    (run.machine.stream id).format.channels.toNat frames frames
    (padded (frames * (run.machine.stream id).format.channels.toNat)
      (run.machine.stream id).samples)
    ((run.machine.stream id).pipeline, run)
  change Hears id pcm run found (collected id pcm frames run).2.2 at hears
  change failures (collected id pcm frames run).1.1 = _ ∨ (collected id pcm frames run).1.1 = _ ∧ _
    at answered
  rcases ended : collected id pcm frames run with ⟨⟨outcome, samples⟩, pipeline, after⟩
  rw [ended] at hears answered
  obtain ⟨moments, met⟩ := meets_readOpen_of_hears opened ended hears
  refine ⟨_, moments, met, ?_⟩
  rw [readOpen_of_some opened frames ended, failures_map]
  refine answered.imp_right (And.imp (fun dry => ?_) fun nothing => ?_)
  · exact congrArg (Except.map fun () => samples) dry
  · exact congrArg _ nothing

/-- A read of whole frames that fails could not begin, or failed on the way. -/
theorem read_error_cases {run after : Run} {error : AudioError} {buffer filled : List UInt8}
    (whole : 0 < buffer.length / (run.machine.stream id).format.frameBytes)
    (failed : read id buffer run = ((.error error, filled), after)) :
    filled = buffer ∧
      ((∃ between, beginTransfer [] id run = (.error error, between) ∧
          after = (finishTransfer id (.error error : Except AudioError (List Int16)) between).2) ∨
        ∃ frames between middle, beginTransfer [] id run = (.ok (), between) ∧
          readOpen id frames between = (.error error, middle) ∧
          after =
            (finishTransfer id (.error error : Except AudioError (List Int16)) middle).2) := by
  have refuses : ∀ (error : AudioError) (run : Run),
      (finishTransfer id (.error error : Except AudioError (List Int16)) run).1 = .error error :=
    fun _ _ => rfl
  unfold read readAmid at failed
  rw [bind_apply, stream_apply] at failed
  dsimp only at failed
  rw [if_neg (Nat.ne_of_gt whole), bind_apply] at failed
  unfold completeRead at failed
  rcases begun : beginTransfer [] id run with ⟨refused | done, between⟩
  · rw [begun] at failed
    simp only [bind_apply, stream_apply, pure_apply, refuses] at failed
    cases failed
    exact ⟨rfl, .inl ⟨between, rfl, rfl⟩⟩
  · rw [begun] at failed
    simp only [bind_apply, stream_apply] at failed
    generalize buffer.length / (between.machine.stream id).format.frameBytes = frames at failed
    rcases heard : readOpen id frames between with ⟨error | samples, middle⟩
    · rw [heard] at failed
      simp only [refuses] at failed
      cases failed
      exact ⟨rfl, .inr ⟨frames, between, middle, rfl, heard, rfl⟩⟩
    · rw [heard] at failed
      cases failed

section Failing

variable {run between after : Run} {state : Machine} {error : AudioError}
  (shows : run.Shows state) (sound : state.Sound []) (inside : id < state.streams.length)
include shows sound inside

/-- A closed stream is not woken. -/
theorem beginTransfer_of_closed (closed : run.machine.isOpen id = false) :
    beginTransfer [] id run = (.error .notInitialized, (lock (.stream id) run).2) := by
  have detached : (state.stream id).status.detached = true := by
    rw [sound.attached id inside, ← shows.isOpen, closed]
    rfl
  have status := shows.status id
  refine beginTransfer_of_detached ?_ ?_
  · rw [Stream.isActive, status, sound.closed id inside detached]
    rfl
  · rw [status]
    exact detached

/-- An open stream is woken with the failure that it meets, if it meets one. -/
theorem answered_beginTransfer_of_open (isOpen : run.machine.isOpen id = true) :
    run.Answered id (beginTransfer [] id run).1 (beginTransfer [] id run).2 := by
  rw [shows.isOpen] at isOpen
  refine answered_beginTransfer (shows.tied sound.tied) ?_ ?_
  · rw [shows.status, sound.attached id inside, isOpen]
    rfl
  · rw [shows.present]
    by_contra absent
    rw [sound.isOpen_of_absent (Bool.eq_false_of_not_eq_true absent)] at isOpen
    cases isOpen

/-- A transfer that cannot begin. -/
theorem failing_beginTransfer (refused : beginTransfer [] id run = (.error error, between)) :
    run.Failing id error between := by
  have fixed := fixed_beginTransfer id run
  obtain ⟨_, shown, woken⟩ := leads_beginTransfer inside sound run shows
  rw [refused] at fixed shown
  refine ⟨?_, fixed.kept, _, shown, woken.sound, woken.length ▸ inside⟩
  unfold Run.Blames
  by_cases isOpen : run.machine.isOpen id = true
  · obtain ⟨⟨moments, met⟩, -⟩ := answered_beginTransfer_of_open shows sound inside isOpen
    rw [refused] at met
    refine ⟨_, moments, met, ?_⟩
    rw [if_pos isOpen]
    exact .inl rfl
  · have closed := Bool.eq_false_of_not_eq_true isOpen
    rw [beginTransfer_of_closed shows sound inside closed] at refused
    cases refused
    obtain ⟨moments, met⟩ := (clear_lock (.stream id)).meets run
    refine ⟨_, moments, met, ?_⟩
    rw [if_neg isOpen]
    exact ⟨rfl, rfl⟩

/-- A transfer that begins meets no failure. Its stream is open, and has a PCM. -/
theorem beginTransfer_begins (begun : beginTransfer [] id run = (.ok (), between)) :
    run.machine.isOpen id = true ∧ (∃ moments, run.Meets id [] moments between) ∧
      (between.machine.stream id).pcm.isSome = true := by
  by_cases isOpen : run.machine.isOpen id = true
  · obtain ⟨meets, pcm⟩ := answered_beginTransfer_of_open shows sound inside isOpen
    rw [begun] at meets pcm
    exact ⟨isOpen, meets, pcm (shows.length ▸ inside) rfl⟩
  · have closed := Bool.eq_false_of_not_eq_true isOpen
    rw [beginTransfer_of_closed shows sound inside closed] at begun
    cases begun

/-- A transfer that began, and fails on the way. -/
theorem failing_transfer {α : Type} {action : Act α} (fixed : Fixed action)
    (unseen : ∀ state, Leads Run.Shows action state fun _ after => after = state)
    (begun : beginTransfer [] id run = (.ok (), between)) (ended : (action between).2 = after)
    {found : List AudioError} {moments : List Moment} (met : between.Meets id found moments after)
    (blamed : found = [error] ∨
      found = [] ∧ (run.machine.stream id).direction = .capture ∧ error = noFrames) :
    run.Failing id error after := by
  obtain ⟨isOpen, ⟨early, ready⟩, -⟩ := beginTransfer_begins shows sound inside begun
  have stays := (fixed_beginTransfer id run).trans (fixed _)
  obtain ⟨_, shown, woken⟩ := leads_beginTransfer inside sound run shows
  rw [begun] at stays shown
  obtain ⟨_, last, rfl⟩ := unseen _ between shown
  rw [ended] at stays last
  refine ⟨⟨_, _, ready.trans met, ?_⟩, stays.kept, _, last, woken.sound, woken.length ▸ inside⟩
  unfold Run.Blames
  rw [if_pos isOpen]
  exact blamed

/-- **A write that fails** ends as a transfer that failed. -/
theorem write_fails {bytes : Nat} (failed : write id bytes run = (.error error, after)) :
    ∃ between, run.Failing id error between ∧
      after = (finishTransfer id (.error error : Except AudioError Nat) between).2 := by
  unfold write writeAmid completeWrite at failed
  rw [bind_apply] at failed
  rcases begun : beginTransfer [] id run with ⟨refused | done, between⟩
  · rw [begun] at failed
    cases failed
    exact ⟨between, failing_beginTransfer shows sound inside begun, rfl⟩
  · rw [begun] at failed
    dsimp only at failed
    rw [bind_apply] at failed
    obtain ⟨-, -, there⟩ := beginTransfer_begins shows sound inside begun
    obtain ⟨moments, met⟩ := meets_writeOpen there bytes
    rcases written : writeOpen id bytes between with ⟨error | done, middle⟩
    · rw [written] at failed met
      cases failed
      have failing := failing_transfer shows sound inside (fixed_writeOpen id bytes)
        (fun _ => leads_writeOpen id bytes) begun (congrArg Prod.snd written) met (.inl rfl)
      exact ⟨middle, failing, rfl⟩
    · rw [written] at failed
      cases failed

/-- **A read that fails** ends as a transfer that failed, and leaves the buffer. -/
theorem read_fails {buffer filled : List UInt8}
    (capture : (run.machine.stream id).direction = .capture)
    (whole : 0 < buffer.length / (run.machine.stream id).format.frameBytes)
    (failed : read id buffer run = ((.error error, filled), after)) :
    filled = buffer ∧ ∃ between, run.Failing id error between ∧
      after = (finishTransfer id (.error error : Except AudioError (List Int16)) between).2 := by
  obtain ⟨same, ⟨between, refused, ended⟩ | ⟨frames, between, middle, begun, heard, ended⟩⟩ :=
    read_error_cases whole failed
  · exact ⟨same, between, failing_beginTransfer shows sound inside refused, ended⟩
  · obtain ⟨-, -, there⟩ := beginTransfer_begins shows sound inside begun
    obtain ⟨found, moments, met, blamed⟩ := meets_readOpen there frames
    rw [heard] at met blamed
    refine ⟨same, middle, failing_transfer shows sound inside (fixed_readOpen id frames)
      (fun _ => leads_readOpen id frames) begun (congrArg Prod.snd heard) met ?_, ended⟩
    obtain same | ⟨⟨⟩, none⟩ := blamed
    · exact .inl same.symm
    · exact .inr ⟨none, capture, rfl⟩

end Failing

/-- An event is told if there is a listener. -/
theorem history_told (owner : Option StreamId) (event : Event) (run : Run) :
    (tell owner event run).2.history = run.history ++
      if run.machine.drivers.hasListener then [⟨.event owner event, run.machine⟩] else [] := by
  unfold tell
  rw [bind_apply, machine_apply]
  dsimp only
  split
  · rfl
  · exact (List.append_nil _).symm

/-- Standby of a stream leaves the others. -/
theorem keeps_tie_standby {other : StreamId} (different : other ≠ id) :
    Keeps (fun run => run.machine.tie other) (standby id) := by
  have plain : ∀ {α : Type} {action : Act α}, Plain action →
      Keeps (fun run => run.machine.tie other) action :=
    fun plain run => Machine.tie_of_ties (plain.keeps_ties run) other
  refine Keeps.bind (fun _ => rfl) fun hardware => ?_
  split
  · refine Keeps.bind (plain (plain_askForLock id)) fun _ => ?_
    refine Keeps.bind (plain (plain_lockFor id)) fun _ => ?_
    refine Keeps.bind ?_ fun _ => Keeps.bind (plain (plain_unlock _)) fun _ => keeps_pure _
    refine Keeps.bind (plain (plain_lock _)) fun _ => ?_
    refine Keeps.bind (tie_standbyLocked different) fun _ => ?_
    exact Keeps.bind (plain (plain_unlock _)) fun _ => keeps_pure _
  · exact keeps_pure _

/-- A failure is told before anything about the standby that follows. -/
theorem history_standby_told (id : StreamId) (event : Event) (run : Run) : ∃ behind,
    (standby id (tell (some id) event run).2).2.history = run.history ++
      ((if run.machine.drivers.hasListener then [⟨.event (some id) event, run.machine⟩] else []) ++
        behind) ∧
      ∀ moment ∈ behind, moment.what.isSettling = true := by
  obtain ⟨behind, history, settling⟩ := (fixtures_standby
    (fun _ => Happening.isSettling_of_isSilent) (fun _ => rfl) (tell (some id) event run).2).moments
  refine ⟨behind, ?_, fun moment member => (settling moment member).2⟩
  rw [history, history_told, List.append_assoc]

section Ending

variable {before between after : Run} {error : AudioError} {found : List AudioError}
  {ahead : List Moment}

/-- What happens when a stream whose lock was given back is put to standby over a failure. -/
theorem standby_reports (met : before.Meets id found ahead between)
    (fixtures : between.machine.fixtures = before.machine.fixtures)
    (ended : (standby id (tell (some id) (.transferFailed (before.machine.stream id).direction
      error.message) between).2).2 = after) :
    ∃ moments, after.history = before.history ++ moments ∧
      moments.filterMap (Moment.failure? id) = found ∧
      (before.machine.drivers.hasListener = true → before.Reports id error moments) ∧
      ∀ other, other ≠ id → (before.machine.tie other).2 = true →
        (after.machine.tie other).2 = true ∨ ∃ moment ∈ moments, moment.Refuses other := by
  obtain ⟨behind, history, settling⟩ := history_standby_told id (.transferFailed
    (before.machine.stream id).direction error.message) between
  have listener : between.machine.drivers.hasListener = before.machine.drivers.hasListener :=
    congrArg Prod.fst fixtures
  rw [ended, met.history, listener, List.append_assoc] at history
  refine ⟨_, history, ?_, fun listens => ?_, fun other different active => ?_⟩
  · have quiet : behind.filterMap (Moment.failure? id) = [] :=
      List.filterMap_eq_nil_iff.mpr fun moment member =>
        Moment.failure?_of_isSettling (settling moment member) id
    rw [List.filterMap_append, List.filterMap_append, met.failed, quiet]
    split <;> exact List.append_nil _
  · rw [if_pos listens]
    refine ⟨ahead, _, behind, rfl, rfl, met.untold, fun moment member => ?_⟩
    exact Happening.unreported_of_isSettling (settling moment member)
  · have kept : after.machine.tie other = between.machine.tie other := by
      rw [← ended]
      exact (keeps_tie_standby different _).trans
        (Machine.tie_of_ties (keeps_ties_tell _ _ between) other)
    rw [kept]
    refine (met.others other different active).imp_right fun ⟨moment, member, refuses⟩ => ?_
    exact ⟨moment, List.mem_append_left _ member, refuses⟩

/-- **Ending** a transfer that failed. -/
theorem failsCleanly_finishTransfer {α : Type} (failing : before.Failing id error between)
    (ended : (finishTransfer id (.error error : Except AudioError α) between).2 = after)
    (tied : after.machine.Tied) (settled : after.Settled none) :
    ∃ moments, before.FailsCleanly id error moments after := by
  obtain ⟨found, early, met, blames⟩ := failing.meets
  obtain ⟨freed, unlocked⟩ := (clear_unlock (.stream id)).meets between
  have ready := met.trans unlocked
  rw [List.append_nil] at ready
  have fixtures := ((silent_unlock (.stream id)).fixed between).kept.trans failing.fixtures
  have direction : ((unlock (.stream id) between).2.machine.stream id).direction =
      (before.machine.stream id).direction :=
    congrArg Prod.fst (Machine.posting_of_fixtures fixtures id)
  have slept : (standby id (tell (some id) (.transferFailed (before.machine.stream id).direction
      error.message) (unlock (.stream id) between).2).2).2 = after := by
    rw [← direction]
    exact ended
  obtain ⟨moments, history, failed, told, others⟩ := standby_reports ready fixtures slept
  have kept : after.machine.fixtures = before.machine.fixtures := by
    rw [← ended]
    exact (fixed_finishTransfer id (.error error : Except AudioError α) between).kept.trans
      failing.fixtures
  have shut : (after.machine.stream id).pcm = none := by
    obtain ⟨state, shows, sound, inside⟩ := failing.shows
    obtain ⟨last, shown, none⟩ :=
      leads_finishTransfer_error (α := α) inside sound error between shows
    rw [ended] at shown
    rw [← none, ← shown.stream id]
    rfl
  have asleep : (after.machine.tie id).2 = false := by
    rw [← tied.tie id]
    exact congrArg Option.isSome shut
  refine ⟨moments, history, failed.symm ▸ blames, asleep, shut, fun present => ?_, told,
    fun other => ?_, others⟩
  · simpa [asleep] using settled.holds present id
  · exact congrArg Prod.snd (Machine.posting_of_fixtures kept other)

end Ending

end Act

theorem Operation.perform_write (id : StreamId) (bytes : Nat) (run : Run) :
    ((Operation.write id bytes).perform run).2 = (Act.write id bytes run).2 := by
  dsimp only [perform]
  rw [Act.bind_apply]
  cases (Act.write id bytes run).1 <;> rfl

theorem Operation.perform_read (id : StreamId) (buffer : List UInt8) (run : Run) :
    ((Operation.read id buffer).perform run).2 = (Act.read id buffer run).2 := by
  dsimp only [perform]
  rw [Act.bind_apply]
  obtain ⟨answer, filled⟩ := (Act.read id buffer run).1
  cases answer <;> rfl

namespace Session

variable {first last : Run} {operations : List Operation}

/-- **Failed transfers.** Whatever the drivers do, a write that fails, or a read of whole frames,
answers the first failure that it met. It leaves the buffer, puts its stream to standby without a
PCM and without the wake lock, tells the listener once, and leaves other streams where they are. Any
of them that was out of standby still is, unless it could not be opened again. -/
theorem failsCleanly (built : first.Built) (session : Session first operations last)
    (conditions : Conditions) {id : StreamId} {error : AudioError} {after : Run} :
    (∀ bytes, (Operation.write id bytes).Possible last.machine →
      Act.write id bytes (last.under conditions) = (.error error, after) →
      ∃ moments, (last.under conditions).FailsCleanly id error moments after) ∧
    ∀ buffer filled, (Operation.read id buffer).Possible last.machine →
      0 < buffer.length / (last.machine.stream id).format.frameBytes →
      Act.read id buffer (last.under conditions) = ((.error error, filled), after) →
      filled = buffer ∧ ∃ moments, (last.under conditions).FailsCleanly id error moments after := by
  obtain ⟨start, begun, sound, -⟩ := built.shows
  obtain ⟨state, shown, reached⟩ := session.advances begun sound
  have shows := shown.under conditions
  refine ⟨fun bytes possible failed => ?_, fun buffer filled possible whole failed => ?_⟩
  · have goesOn := session.step conditions possible
    rw [Operation.perform_write, failed] at goesOn
    obtain ⟨between, failing, rfl⟩ :=
      Act.write_fails shows reached.sound (shown.length ▸ possible.1) failed
    exact Act.failsCleanly_finishTransfer failing rfl (goesOn.tied built) (goesOn.settled built)
  · have goesOn := session.step conditions possible
    rw [Operation.perform_read, failed] at goesOn
    obtain ⟨same, between, failing, rfl⟩ :=
      Act.read_fails shows reached.sound (shown.length ▸ possible.1) possible.2 whole failed
    exact ⟨same, Act.failsCleanly_finishTransfer failing rfl (goesOn.tied built)
      (goesOn.settled built)⟩

end Session

/-- Playback beside capture, when the PCM of the playback stream is gone. -/
def Run.unplugged : Run :=
  Run.aboutToCapture.under { transferScript := [some .disconnected] }

/-- Playback beside capture, when the PCM of the capture stream will not be ready. -/
def Run.unready : Run :=
  Run.aboutToCapture.under { openScript := [.normal, .notReady] }

/-- Playback fails when its PCM is gone. Capture fails when its PCM is not ready, and playback
goes on, which made way for it. -/
theorem Session.failsCleanly_aboutToCapture :
    (∃ moments after, Run.unplugged.FailsCleanly 0 (.pcm .disconnected) moments after) ∧
      ∃ moments after, Run.unready.FailsCleanly 1 (.pcm .notReady) moments after ∧
        (after.machine.stream 0).isActive = true := by
  have session := Session.aboutToCapture
  constructor
  · have failed : (Act.write 0 4 Run.unplugged).1 = .error (.pcm .disconnected) := by
      decide +kernel
    rcases wrote : Act.write 0 4 Run.unplugged with ⟨answer, after⟩
    rw [wrote] at failed
    cases failed
    have clean := (Session.failsCleanly Run.built_stock session _).1 4 (by decide +kernel) wrote
    exact clean.imp fun moments clean => ⟨after, clean⟩
  · have failed : (Act.read 1 [0, 0, 0, 0] Run.unready).1 =
        (.error (.pcm .notReady), [0, 0, 0, 0]) := by decide +kernel
    have active : ((Act.read 1 [0, 0, 0, 0] Run.unready).2.machine.stream 0).isActive = true := by
      decide +kernel
    rcases heard : Act.read 1 [0, 0, 0, 0] Run.unready with ⟨answer, after⟩
    rw [heard] at failed active
    cases failed
    obtain ⟨-, moments, clean⟩ := (Session.failsCleanly Run.built_stock session _).2 _ _
      (by decide +kernel) (by decide +kernel) heard
    exact ⟨moments, after, clean, active⟩

end PhoneAudio
