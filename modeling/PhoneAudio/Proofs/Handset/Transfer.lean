import PhoneAudio.Handset.Transfer
import PhoneAudio.Proofs.Capture.Streaming
import PhoneAudio.Proofs.Handset.Waking

/-!
# Transfers and the core

Writing to a stream and reading from it lead from sound states to sound states, whatever the PCM
driver makes of them, and proceed there in steps (`PhoneAudio.Act.along_write`,
`PhoneAudio.Act.along_read`).
-/

namespace PhoneAudio

namespace Bench.Pcm

/-- Beginning a transfer leaves which PCMs are open. -/
theorem live_beginTransfer (driver : Pcm) (pcm : OpenPcm) (attempt : Transfer) :
    (driver.beginTransfer pcm attempt).2.live = driver.live := by
  unfold beginTransfer
  dsimp only
  split
  · rfl
  · split
    · rfl
    · split <;> rfl

/-- A write leaves which PCMs are open. -/
theorem live_write (driver : Pcm) (pcm : OpenPcm) (bytes : Nat) :
    (driver.write pcm bytes).2.live = driver.live := by
  have begun := driver.live_beginTransfer pcm (.write bytes)
  unfold write
  generalize driver.beginTransfer pcm (.write bytes) = answered at begun
  obtain ⟨error | done, after⟩ := answered <;> exact begun

/-- A read leaves which PCMs are open. -/
theorem live_read (driver : Pcm) (pcm : OpenPcm) (bytes : Nat) :
    (driver.read pcm bytes).2.live = driver.live := by
  have begun := driver.live_beginTransfer pcm (.read bytes)
  unfold read
  generalize driver.beginTransfer pcm (.read bytes) = answered at begun
  obtain ⟨error | done, after⟩ := answered <;> exact begun

end Bench.Pcm

namespace Act

variable {state : Machine}

/-- Collecting frames keeps what the source keeps to. -/
theorem collect_keeps {σ : Type} {source : Source σ} {keeps : σ → Prop}
    (stays : ∀ wanted state, keeps state → keeps (source wanted state).2)
    (channels pulls frames : Nat) (buffer : List Int16) (state : σ) (kept : keeps state) :
    keeps (collect source channels pulls frames buffer state).2 := by
  induction pulls generalizing frames buffer state with
  | zero => exact kept
  | succ pulls ih =>
      rw [collect]
      split
      · exact kept
      · have next := stays (frames * channels) state kept
        generalize source (frames * channels) state = delivered at next
        obtain ⟨⟨samples, outcome⟩, final⟩ := delivered
        match outcome with
        | .error e => exact next
        | .ok 0 => exact next
        | .ok (got + 1) => exact ih (frames - (got + 1)) _ _ next

theorem leads_writeOpen (id : StreamId) (bytes : Nat) :
    Leads Run.Shows (writeOpen id bytes) state fun _ after => after = state := by
  refine (leads_stream id).read fun read _ => ?_
  cases read.pcm with
  | none => exact leads_pure _ rfl
  | some pcm =>
      refine (leads_call _ _ _ ?_).then fun _ => leads_pure _ rfl
      exact fun drivers => drivers.pcm.live_write pcm bytes

variable {id : StreamId} {pcm : OpenPcm}

/-- The run in which the PCM of a stream is read: the stream's buffer has the size of the
request. -/
def asking (id : StreamId) (wanted : Nat) (run : Run) : Run :=
  (keepRaw id (padded (wanted * 2) (run.machine.stream id).raw) run).2

/-- Capturing frames ends where the driver's call does, but for the buffer of bytes. -/
theorem captured_ends {wanted : Nat} (ends : Run → Prop) {run : Run}
    (called : ends (call (.stream id) .readingPcm (.readPcm id (wanted * 2))
      (onPcm (·.read pcm (wanted * 2))) (asking id wanted run)).2)
    (put : ∀ raw after, ends after → ends (keepRaw id raw after).2) :
    ends (captured id pcm wanted run).2 := by
  unfold captured
  unfold asking at called
  dsimp only
  generalize call (.stream id) .readingPcm (.readPcm id (wanted * 2))
    (onPcm (·.read pcm (wanted * 2))) _ = answered at called
  obtain ⟨error | samples, after⟩ := answered
  · exact called
  · exact put _ after called

/-- Capturing frames keeps what the driver's call and changing the buffer of bytes keep. -/
theorem captured_keeps {wanted : Nat} (keeps : Run → Prop)
    (buffered : ∀ raw between, keeps between → keeps (keepRaw id raw between).2)
    (reads : ∀ between, keeps between →
      keeps (call (.stream id) .readingPcm (.readPcm id (wanted * 2))
        (onPcm (·.read pcm (wanted * 2))) between).2)
    {run : Run} (kept : keeps run) : keeps (captured id pcm wanted run).2 :=
  captured_ends keeps (reads _ (buffered _ run kept)) buffered

theorem modifyGet_apply {α : Type} (f : Run → α × Run) (run : Run) :
    (modifyGet f : Act α) run = f run :=
  rfl

/-- Nothing is read from a stream without a PCM. -/
theorem readOpen_of_none {run : Run} (closed : (run.machine.stream id).pcm = none)
    (frames : Nat) : readOpen id frames run = (.error (.pcm .disconnected), run) := by
  unfold readOpen
  rw [bind_apply, stream_apply]
  dsimp only
  rw [closed]
  rfl

/-- The frames that a read collects from a PCM into the stream's buffer of samples. -/
def collected (id : StreamId) (pcm : OpenPcm) (frames : Nat) (run : Run) :
    (Except AudioError Unit × List Int16) × Pipeline × Run :=
  let stream := run.machine.stream id
  let channels := stream.format.channels.toNat
  collect (Pipeline.through (captured id pcm)) channels frames frames
    (padded (frames * channels) stream.samples) (stream.pipeline, run)

/-- Reading from a PCM collects frames, and then puts the filters and the buffer back. -/
theorem readOpen_of_some {run : Run} (there : (run.machine.stream id).pcm = some pcm)
    (frames : Nat) {outcome : Except AudioError Unit} {samples : List Int16} {pipeline : Pipeline}
    {after : Run} (ended : collected id pcm frames run = ((outcome, samples), pipeline, after)) :
    readOpen id frames run = (outcome.map fun () => samples,
      (changeStream id (fun stream =>
        { stream with pipeline := pipeline, samples := samples }) after).2) := by
  unfold collected at ended
  unfold readOpen
  rw [bind_apply, stream_apply]
  dsimp only at ended ⊢
  rw [there]
  simp only [bind_apply, modifyGet_apply, ended, pure_apply]

/-- Reading from a PCM keeps what capturing frames and putting the filters and the buffer back
keep. -/
theorem readOpen_keeps (keeps : Run → Prop) {run : Run} (kept : keeps run) (frames : Nat)
    (pulled : ∀ pcm, (run.machine.stream id).pcm = some pcm → ∀ wanted between,
      keeps between → keeps (captured id pcm wanted between).2)
    (back : ∀ pipeline samples between, keeps between →
      keeps (changeStream id (fun stream =>
        { stream with pipeline := pipeline, samples := samples }) between).2) :
    keeps (readOpen id frames run).2 := by
  cases there : (run.machine.stream id).pcm with
  | none =>
      rw [readOpen_of_none there]
      exact kept
  | some pcm =>
      have stays : ∀ wanted (paired : Pipeline × Run), keeps paired.2 →
          keeps (Pipeline.through (captured id pcm) wanted paired).2.2 :=
        fun wanted paired => Pipeline.through_keeps (pulled pcm there) wanted paired.1
      have last : keeps (collected id pcm frames run).2.2 := collect_keeps stays _ _ _ _ _ kept
      rcases ended : collected id pcm frames run with ⟨⟨outcome, samples⟩, pipeline, after⟩
      rw [ended] at last
      rw [readOpen_of_some there frames ended]
      exact back pipeline samples after last

/-- Reading leaves at every moment what the driver's call and changing the buffers leave. -/
theorem stays_readOpen_of {γ : Type} {view : Machine → γ} {kind : Happening → Bool}
    (buffered : ∀ raw, Stays view kind (keepRaw id raw))
    (reads : ∀ pcm bytes, Stays view kind
      (call (.stream id) .readingPcm (.readPcm id bytes) (onPcm (·.read pcm bytes))))
    (back : ∀ pipeline samples, Stays view kind
      (changeStream id fun stream => { stream with pipeline := pipeline, samples := samples }))
    (frames : Nat) : Stays view kind (readOpen id frames) := by
  intro run
  refine readOpen_keeps (run.Stays view kind ·) (.refl run) frames
    (fun pcm _ wanted between stays => ?_)
    fun pipeline samples between stays => stays.trans (back pipeline samples between)
  exact captured_keeps (run.Stays view kind ·)
    (fun raw between first => first.trans (buffered raw between))
    (fun between first => first.trans (reads pcm _ between)) stays

/-- Reading from the PCM of a stream leaves what is shown. -/
theorem shows_captured (id : StreamId) (pcm : OpenPcm) (wanted : Nat) {run : Run}
    (shown : run.Shows state) : (captured id pcm wanted run).2.Shows state := by
  refine captured_keeps (·.Shows state) (fun raw between shows => ?_) (fun between shows => ?_)
    shown
  · have buffers : Leads Run.Shows (keepRaw id raw) state fun _ after => after = state :=
      leads_unseenStream id fun _ => rfl
    obtain ⟨_, changed, rfl⟩ := buffers between shows
    exact changed
  · have reads : Leads Run.Shows (call (.stream id) .readingPcm (.readPcm id (wanted * 2))
        (onPcm (·.read pcm (wanted * 2)))) state fun _ after => after = state :=
      leads_call _ _ _ fun drivers => drivers.pcm.live_read pcm (wanted * 2)
    obtain ⟨_, called, rfl⟩ := reads between shows
    exact called

/-- A read leaves what is shown. -/
theorem leads_readOpen (id : StreamId) (frames : Nat) :
    Leads Run.Shows (readOpen id frames) state fun _ after => after = state := by
  refine leads_of_unseen fun run shows shown => ?_
  refine readOpen_keeps (·.Shows shows) shown frames (fun pcm _ wanted between =>
    shows_captured id pcm wanted) fun pipeline samples between shown => ?_
  have back : Leads Run.Shows (changeStream id fun stream =>
      { stream with pipeline := pipeline, samples := samples }) shows fun _ after =>
        after = shows :=
    leads_unseenStream id fun _ => rfl
  obtain ⟨_, changed, rfl⟩ := back between shown
  exact changed

theorem aside_writeOpen (id : StreamId) (bytes : Nat) : Aside (writeOpen id bytes) := by
  refine (stays_stream id).bind fun read => ?_
  cases read.pcm with
  | none => exact stays_pure _
  | some pcm =>
      refine (wires_call _ _ rfl ?_).bind fun _ => stays_pure _
      exact fun drivers => drivers.pcm.live_write pcm bytes

theorem aside_readOpen (id : StreamId) (frames : Nat) : Aside (readOpen id frames) := by
  refine stays_readOpen_of (fun raw => ?_) (fun pcm bytes => ?_) (fun pipeline samples => ?_) frames
  · exact wires_changeStream id fun _ => rfl
  · exact wires_call _ _ rfl fun drivers => drivers.pcm.live_read pcm bytes
  · exact wires_changeStream id fun _ => rfl

variable {alone : Prop} {origin : Run}

/-- Ending a transfer leads from a sound state to a sound state. -/
theorem along_finishTransfer {α : Type} {id : StreamId} (inside : id < state.streams.length)
    (sound : state.Sound []) (outcome : Except AudioError α) :
    Leads (Run.Along alone origin) (finishTransfer id outcome) state fun _ after =>
      state.Wakes id none after := by
  refine Leads.then ((leads_unlock _).asideAlong (aside_unlock _)) fun _ => ?_
  cases outcome with
  | ok answer => exact leads_pure _ (sound.wakes id none)
  | error error =>
      refine Leads.read ((leads_stream id).asideAlong (stays_stream id)) fun _ _ => ?_
      refine Leads.then ((leads_tell _ _).asideAlong (aside_tell _ _)) fun _ => ?_
      refine Leads.then ((leads_standby id (sound.calm id inside)).proceedAlong
        (proceeds_standby id)) fun _ => leads_pure _ ?_
      split
      · have exempted : state.Sound [id] := sound.weaken nofun
        refine ⟨⟨exempted.follows_slept, fun other different _ => ?_⟩, ?_, ?_⟩
        · rw [Machine.stream_congr (state.streams_slept id),
            state.stream_adjust_of_ne _ different]
        · rw [Machine.stream_congr (state.streams_slept id)]
          exact Machine.view_adjust Stream.direction state id id fun _ => rfl
        · exact fun audible isOpen => audible.slept sound inside isOpen
      · exact sound.wakes id none

section Transfers

variable {id : StreamId} (inside : id < state.streams.length) (sound : state.Sound [])
include inside sound

section Along

variable (few : alone → state.hardware.inputs.length ≤ 1)
include few

/-- Beginning a transfer wakes the stream along the way. -/
theorem along_beginTransfer :
    Leads (Run.Along alone origin) (beginTransfer [] id) state fun _ after =>
      state.Wakes id (state.active (state.stream id).direction.other) after :=
  Leads.then ((leads_lock _).asideAlong (aside_lock _)) fun _ => along_wake sound few id inside

/-- **Writing** proceeds in steps from a sound state to a sound state, and touches no other stream
but the active one of the other direction. -/
theorem along_write (bytes : Nat) :
    Leads (Run.Along alone origin) (write id bytes) state fun _ after =>
      state.Wakes id (state.active (state.stream id).direction.other) after := by
  refine (along_beginTransfer inside sound few).bind fun begun after woken => ?_
  have within : id < after.streams.length := by
    rw [woken.length]
    exact inside
  have finish : ∀ outcome : Except AudioError Nat,
      Leads (Run.Along alone origin) (finishTransfer id outcome) after fun _ last =>
        state.Wakes id (state.active (state.stream id).direction.other) last :=
    fun outcome => (along_finishTransfer within woken.sound outcome).mono fun _ _ =>
      woken.trans
  cases begun with
  | error error => exact finish (.error error)
  | ok done =>
      refine Leads.then ((leads_writeOpen id bytes).asideAlong (aside_writeOpen id bytes)) ?_
      exact fun _ => finish _

/-- **Reading** proceeds in steps from a sound state to a sound state, and touches no other stream
but the active one of the other direction. -/
theorem along_read (buffer : List UInt8) :
    Leads (Run.Along alone origin) (read id buffer) state fun _ after =>
      state.Wakes id (state.active (state.stream id).direction.other) after := by
  refine Leads.read ((leads_stream id).asideAlong (stays_stream id)) fun _ _ => ?_
  dsimp only
  split
  · exact leads_pure _ (sound.wakes id _)
  refine (along_beginTransfer inside sound few).bind fun begun after woken => ?_
  have within : id < after.streams.length := by
    rw [woken.length]
    exact inside
  have finish : ∀ outcome : Except AudioError (List Int16),
      Leads (Run.Along alone origin) (finishTransfer id outcome) after fun _ last =>
        state.Wakes id (state.active (state.stream id).direction.other) last :=
    fun outcome => (along_finishTransfer within woken.sound outcome).mono fun _ _ =>
      woken.trans
  refine Leads.read ((leads_stream id).asideAlong (stays_stream id)) fun _ _ => ?_
  cases begun with
  | error error =>
      refine Leads.after_pure ((finish _).bind fun ended last followed => ?_)
      cases ended <;> exact leads_pure _ followed
  | ok done =>
      refine Leads.then ((leads_readOpen id _).asideAlong (aside_readOpen id _)) fun _ => ?_
      refine (finish _).bind fun ended last followed => ?_
      cases ended <;> exact leads_pure _ followed

end Along

/-- Beginning a transfer wakes the stream. -/
theorem leads_beginTransfer :
    Leads Run.Shows (beginTransfer [] id) state fun _ after =>
      state.Wakes id (state.active (state.stream id).direction.other) after :=
  .of_along fun _ => along_beginTransfer inside sound nofun

/-- A write wakes its stream. -/
theorem leads_write (bytes : Nat) :
    Leads Run.Shows (write id bytes) state fun _ after =>
      state.Wakes id (state.active (state.stream id).direction.other) after :=
  .of_along fun _ => along_write inside sound nofun bytes

/-- A read wakes its stream. -/
theorem leads_read (buffer : List UInt8) :
    Leads Run.Shows (read id buffer) state fun _ after =>
      state.Wakes id (state.active (state.stream id).direction.other) after :=
  .of_along fun _ => along_read inside sound nofun buffer

end Transfers

end Act

end PhoneAudio
