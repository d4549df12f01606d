import PhoneAudio.Proofs.Capture.Liveness
import PhoneAudio.Proofs.Handset.DriverNotes
import PhoneAudio.Proofs.Handset.FailedTransfers
import PhoneAudio.Proofs.Handset.Formats

/-!
# The equipment of streams

The settings never change once the audio hardware is built. As they do not allow periods that are
too short, every capture stream has filters that always give something if the codec does, and a
buffer for what a period of the codec brings (`PhoneAudio.Machine.Equipped`). Filters only change
when frames pass them and when they are reset, so no operation takes them away
(`PhoneAudio.Operation.equips_perform`).
-/

namespace PhoneAudio

/-- A stream has filters that always give something, and one that captures does so in a format and
with a buffer for it. -/
structure Stream.Equipped (settings : Settings) (stream : Stream) : Prop where
  filters : stream.pipeline.Lively stream.format.channels.toNat
  captures : stream.direction = .capture → CaptureRate.captures stream.format = true
  buffer : stream.direction = .capture →
    stream.bufferBytes = CaptureRate.bufferBytes settings.capturePeriod stream.format

/-- The settings are some that are accepted, and every stream is equipped for them. -/
structure Machine.Equipped (settings : Settings) (machine : Machine) : Prop where
  same : machine.settings = settings
  accepted : settings.fault? = none
  streams : ∀ stream ∈ machine.streams, stream.Equipped settings

namespace Stream.Equipped

variable {settings : Settings} {before after : Stream}

/-- A stream is equipped that has the make of an equipped one and filters for it. -/
theorem of_make (equipped : before.Equipped settings) (make : after.make = before.make)
    (filters : after.pipeline.Lively before.format.channels.toNat) : after.Equipped settings := by
  obtain ⟨direction, format, buffer⟩ : after.direction = before.direction ∧
      after.format = before.format ∧ after.bufferBytes = before.bufferBytes := by
    simpa only [Stream.make, Prod.mk.injEq] using make
  refine ⟨?_, ?_, ?_⟩
  · rwa [format]
  · rw [direction, format]
    exact equipped.captures
  · rw [direction, format, buffer]
    exact equipped.buffer

/-- A stream keeps its equipment if its make and its filters stay the same. -/
theorem of_eq (equipped : before.Equipped settings) (make : after.make = before.make)
    (pipeline : after.pipeline = before.pipeline) : after.Equipped settings :=
  equipped.of_make make (pipeline ▸ equipped.filters)

/-- Filters that are reset are as large as before. -/
theorem of_reset (equipped : before.Equipped settings) (make : after.make = before.make)
    (pipeline : after.pipeline = before.pipeline.reset) : after.Equipped settings :=
  equipped.of_make make (pipeline ▸ equipped.filters.reset)

end Stream.Equipped

namespace Machine.Equipped

variable {machine after : Machine} {settings : Settings}

/-- Equipment depends on the settings and the streams. -/
theorem of_eq (equipped : machine.Equipped settings) (same : after.settings = machine.settings)
    (streams : after.streams = machine.streams) : after.Equipped settings :=
  ⟨same.trans equipped.same, equipped.accepted, streams ▸ equipped.streams⟩

/-- A stream that is there is equipped. -/
theorem stream (equipped : machine.Equipped settings) {id : StreamId}
    (inside : id < machine.streams.length) : (machine.stream id).Equipped settings := by
  rw [Machine.stream, List.getD_eq_getElem _ _ inside]
  exact equipped.streams _ (List.getElem_mem inside)

/-- A change of a stream that leaves it equipped leaves all equipped. -/
theorem adjust (equipped : machine.Equipped settings) {id : StreamId} {f : Stream → Stream}
    (keeps : (machine.stream id).Equipped settings → (f (machine.stream id)).Equipped settings) :
    (machine.adjust id f).Equipped settings := by
  refine ⟨equipped.same, equipped.accepted, fun stream member => ?_⟩
  obtain ⟨place, inside, rfl⟩ := List.mem_iff_getElem.mp member
  rw [Machine.length_adjust] at inside
  have before : ∀ {place} (inside : place < machine.streams.length),
      machine.streams[place] = machine.stream place :=
    fun inside => (List.getD_eq_getElem _ _ inside).symm
  have changed : (machine.adjust id f).streams[place] =
      if id = place then f machine.streams[place] else machine.streams[place] :=
    List.getElem_modify ..
  rw [changed, before inside]
  split
  · rename_i same
    subst same
    exact keeps (equipped.stream inside)
  · exact equipped.stream inside

/-- A new stream that is equipped leaves all equipped. -/
theorem joined (equipped : machine.Equipped settings) {stream : Stream}
    (new : stream.Equipped settings) : (machine.joined stream).Equipped settings := by
  refine ⟨equipped.same, equipped.accepted, fun other member => ?_⟩
  obtain earlier | last := List.mem_append.mp member
  · exact equipped.streams other earlier
  · rw [List.mem_singleton.mp last]
    exact new

/-- A stream that is made under accepted settings is equipped. -/
theorem newStream (equipped : machine.Equipped settings) {direction : Direction}
    {devices : Devices} {request : FormatRequest} {stream : Stream}
    (made : machine.newStream direction devices request = .ok stream) :
    stream.Equipped settings := by
  have roomy : 128 ≤ settings.capturePeriod.toNat :=
    UInt32.le_iff_toNat_le.mp (Settings.leastPeriod_le equipped.accepted)
  unfold Machine.newStream at made
  rw [equipped.same] at made
  cases direction with
  | playback =>
      unfold Stream.newPlayback at made
      dsimp only at made
      split at made
      · cases made
      split at made
      · cases made
        exact ⟨⟨rfl, nofun⟩, nofun, nofun⟩
      · cases made
  | capture =>
      unfold Stream.newCapture at made
      dsimp only at made
      split at made
      · split at made
        · rename_i closest
          cases built : Pipeline.ofFormat request.resolved settings.capturePeriod.toNat with
          | error error =>
              rw [built] at made
              cases made
          | ok pipeline =>
              rw [built] at made
              cases made
              exact ⟨Pipeline.lively_ofFormat (Nat.le_trans (by decide) roomy) built,
                fun _ => StreamFormat.eq_closestCapture_iff.mp closest, fun _ => rfl⟩
        · cases made
      · cases made

end Machine.Equipped

namespace Act

variable {α β : Type} {settings : Settings}

/-- An action that leaves the settings and the equipment of all streams. -/
def Equips (action : Act α) : Prop :=
  ∀ (settings : Settings) (run : Run), run.machine.Equipped settings →
    (action run).2.machine.Equipped settings

theorem equips_pure (answer : α) : Equips (pure answer) :=
  fun _ _ equipped => equipped

/-- Equipping is handed on from one action to the next. -/
theorem Equips.bind {action : Act α} {next : α → Act β} (first : Equips action)
    (rest : ∀ answer, Equips (next answer)) : Equips (action >>= next) :=
  fun settings run equipped => rest _ settings _ (first settings run equipped)

/-- Reading the state leaves it equipped. -/
theorem equips_reads (read : Machine → α) : Equips fun run => (read run.machine, run) :=
  fun _ _ equipped => equipped

theorem composes_equips : Composes fun action => Equips action :=
  ⟨equips_pure, equips_reads, Equips.bind⟩

theorem equips_note (what : Happening) : Equips (note what) :=
  fun _ _ equipped => equipped

theorem equips_drive (effect : Drivers → α × Drivers) : Equips (drive effect) :=
  fun _ _ equipped => equipped.of_eq rfl rfl

theorem equips_bareCall (what : Happening) (effect : Drivers → α × Drivers) :
    Equips (bareCall what effect) :=
  (equips_note what).bind fun _ => equips_drive effect

theorem equips_changeHardware (f : Hardware → Hardware) : Equips (changeHardware f) :=
  fun _ _ equipped => equipped.of_eq rfl rfl

/-- A change that leaves the make of a stream and leaves or resets its filters leaves it equipped.
-/
theorem equips_changeStream (id : StreamId) {f : Stream → Stream}
    (make : ∀ stream, (f stream).make = stream.make)
    (filters : ∀ stream, (f stream).pipeline = stream.pipeline ∨
      (f stream).pipeline = stream.pipeline.reset) : Equips (changeStream id f) := by
  refine fun _ _ equipped => equipped.adjust fun held => ?_
  obtain same | reset := filters _
  · exact held.of_eq (make _) same
  · exact held.of_reset (make _) reset

theorem equips_changeStatus (id : StreamId) (f : StreamStatus → StreamStatus) :
    Equips (changeStatus id f) :=
  equips_changeStream id (fun _ => rfl) fun _ => .inl rfl

theorem equips_doze (id : StreamId) : Equips (doze id) := by
  have aged : Equips (age id) := (equips_note _).bind fun _ => equips_changeStatus id _
  have read : Equips (stream id) := composes_equips.stream id
  refine aged.bind fun _ => read.bind fun stream => ?_
  split
  · refine (equips_changeStatus id _).bind fun _ => Equips.bind (read.bind fun _ => ?_) fun _ => ?_
    · exact composes_equips.callWakeLock (equips_bareCall _ _)
    · exact read.bind fun _ => composes_equips.tell (equips_bareCall _ _)
  · exact equips_pure _

/-- Opening a stream equips it. -/
theorem equips_openStream (direction : Direction) (devices : Devices) (request : FormatRequest) :
    Equips (openStream direction devices request) := by
  intro settings run equipped
  cases made : run.machine.newStream direction devices request with
  | error error =>
      have same := (openStream_of_error made).2
      have settings := congrArg Machine.settings same
      have streams := congrArg Machine.streams same
      exact equipped.of_eq settings streams
  | ok stream =>
      rw [(openStream_of_ok made).2]
      exact (equipped.joined (equipped.newStream made)).of_eq rfl rfl

/-- The codec gives as many frames as it is asked for, if it does not fail. -/
theorem gives_captured (id : StreamId) (pcm : OpenPcm) (format : StreamFormat) :
    (captured id pcm).Gives 2 fun run =>
      run.machine.Equipped settings ∧ (run.machine.stream id).format = format where
  stays := by
    rintro wanted run ⟨equipped, same⟩
    obtain ⟨-, raw, turns⟩ := captured_eq id pcm wanted run
    have kept := Machine.view_adjust Stream.format run.machine id id
      (f := fun stream => { stream with activity := .idle, raw := raw }) fun _ => rfl
    have buffers : ∀ raw, Equips (keepRaw id raw) :=
      fun raw => equips_changeStream id (fun _ => rfl) fun _ => .inl rfl
    have noted : ∀ activity, Equips (setActivity activity (.stream id)) :=
      fun activity => equips_changeStream id (fun _ => rfl) fun _ => .inl rfl
    have called : Equips (call (.stream id) .readingPcm (.readPcm id (wanted * 2))
        (onPcm (·.read pcm (wanted * 2)))) :=
      (noted _).bind fun _ => (equips_bareCall _ _).bind fun _ => (noted _).bind fun _ =>
        equips_pure _
    have equips : (captured id pcm wanted run).2.machine.Equipped settings :=
      captured_keeps (·.machine.Equipped settings)
        (fun raw between => buffers raw settings between)
        (called settings) equipped
    refine ⟨equips, ?_⟩
    rw [Machine.stream_congr turns.streams, kept, same]
  some := by
    rintro frames run - asked
    rw [(captured_eq id pcm (frames * 2) run).1]
    cases read : (run.machine.drivers.pcm.read pcm (frames * 2 * 2)).1 with
    | error error => exact nofun
    | ok samples =>
        intro nothing
        have length := Bench.Pcm.length_read read
        have counted : samples.length / 2 = 0 := Except.ok.inj nothing
        omega

/-- The filters of a stream give something, and stay as large as they are. -/
theorem gives_filtered (id : StreamId) (pcm : OpenPcm) (format : StreamFormat) :
    (Pipeline.through (captured id pcm)).Gives format.channels.toNat fun state =>
      state.1.Lively format.channels.toNat ∧
        state.2.machine.Equipped settings ∧ (state.2.machine.stream id).format = format :=
  Pipeline.gives_through (gives_captured id pcm format)

/-- A read leaves a stream equipped, as its filters go on. -/
theorem equips_readOpen (id : StreamId) (frames : Nat) : Equips (readOpen id frames) := by
  intro settings run equipped
  cases opened : (run.machine.stream id).pcm with
  | none =>
      rw [readOpen_of_none opened]
      exact equipped
  | some pcm =>
      have lively := (equipped.stream (inside_of_pcm opened)).filters
      have kept := collect_keeps (gives_filtered id pcm (run.machine.stream id).format).stays
        (run.machine.stream id).format.channels.toNat frames frames
        (padded (frames * (run.machine.stream id).format.channels.toNat)
          (run.machine.stream id).samples)
        ((run.machine.stream id).pipeline, run) ⟨lively, equipped, rfl⟩
      change (collected id pcm frames run).2.1.Lively _ ∧
        (collected id pcm frames run).2.2.machine.Equipped settings ∧
          ((collected id pcm frames run).2.2.machine.stream id).format = _ at kept
      rcases ended : collected id pcm frames run with ⟨⟨outcome, samples⟩, pipeline, after⟩
      rw [ended] at kept
      obtain ⟨filters, settled, same⟩ := kept
      rw [readOpen_of_some opened frames ended]
      rw [← same] at filters
      exact settled.adjust fun held => ⟨filters, held.captures, held.buffer⟩

/-- Reading through filters that give something answers the failure that it meets. -/
theorem meets_readOpen_of_equipped {id : StreamId} {run : Run}
    (equipped : run.machine.Equipped settings)
    (there : (run.machine.stream id).pcm.isSome = true) (frames : Nat) :
    ∃ moments, run.Meets id (failures (readOpen id frames run).1) moments
      (readOpen id frames run).2 := by
  obtain ⟨pcm, opened⟩ := Option.isSome_iff_exists.mp there
  have meeting := meeting_hears id pcm
  have lively := (equipped.stream (inside_of_pcm opened)).filters
  obtain ⟨found, hears, answered⟩ := collect_reports_of_gives meeting.behind
    (Pipeline.through_reports meeting (captured_reports id pcm))
    (gives_filtered id pcm (run.machine.stream id).format) frames frames
    (padded (frames * (run.machine.stream id).format.channels.toNat)
      (run.machine.stream id).samples)
    ((run.machine.stream id).pipeline, run) ⟨lively, equipped, rfl⟩
  change Hears id pcm run found (collected id pcm frames run).2.2 at hears
  change failures (collected id pcm frames run).1.1 = _ at answered
  rcases ended : collected id pcm frames run with ⟨⟨outcome, samples⟩, pipeline, after⟩
  rw [ended] at hears answered
  obtain ⟨moments, met⟩ := meets_readOpen_of_hears opened ended hears
  rw [← answered] at met
  rw [readOpen_of_some opened frames ended] at met ⊢
  rw [failures_map]
  exact ⟨moments, met⟩

/-- What operations are made of leaves the settings and the equipment of all streams. -/
theorem Made.equips {action : Act α} (made : Made action) : Equips action := by
  induction made with
  | done answer => exact equips_pure answer
  | reads read => exact equips_reads read
  | next _ _ first later => exact first.bind later
  | notes calm => exact equips_note _
  | drives effect => exact equips_drive effect
  | changes f => exact equips_changeHardware f
  | retouches id make status filters => exact equips_changeStream id make filters
  | restates id generation awake => exact equips_changeStatus id _
  | dozes id => exact equips_doze id
  | opens direction devices request => exact equips_openStream direction devices request
  | pulls id frames => exact equips_readOpen id frames

end Act

/-- **Equipment.** No operation changes the settings or takes a stream's filters away. -/
theorem Operation.equips_perform (operation : Operation) : Act.Equips operation.perform :=
  operation.made_perform.equips

/-- Audio hardware that was just built has accepted settings and no streams. -/
theorem Run.Built.equipped {run : Run} (built : run.Built) :
    run.machine.Equipped run.machine.settings := by
  obtain ⟨settings, tables, shown⟩ := built.shows_vacant
  have streams : run.machine.streams.map Stream.core = [] := congrArg Machine.streams shown.core_eq
  rw [List.map_eq_nil_iff] at streams
  refine ⟨rfl, ?_, fun stream member => ?_⟩
  · obtain ⟨plan, drivers, -, done⟩ := built
    unfold Act.build at done
    cases fault : plan.fault? with
    | some error =>
        rw [fault] at done
        cases done
    | none =>
        rw [fault] at done
        have settings : run.machine.settings = plan.settings :=
          congrArg (fun ended => ended.2.machine.settings) done.symm
        unfold Plan.fault? at fault
        split at fault
        · cases fault
        split at fault
        · cases fault
        rw [settings]
        exact Option.map_eq_none_iff.mp fault
  · rw [streams] at member
    cases member

/-- In every session, the settings stay, and all streams have filters that always give something if
the codec does. -/
theorem Session.equipped {first last : Run} {operations : List Operation} (built : first.Built)
    (session : Session first operations last) : last.machine.Equipped first.machine.settings := by
  induction session with
  | start => exact built.equipped
  | @step _ run earlier conditions operation possible ih =>
      have under : (run.under conditions).machine.Equipped first.machine.settings :=
        ih.of_eq rfl rfl
      exact operation.equips_perform _ _ under

/-- An error that was met is that of a moment. -/
theorem Run.Meets.exists_failure {before after : Run} {id : StreamId} {error : AudioError}
    {moments : List Moment} (meets : before.Meets id [error] moments after) :
    ∃ moment ∈ moments, moment.failure? id = some error := by
  have member : error ∈ moments.filterMap (Moment.failure? id) := by
    rw [meets.failed]
    exact List.mem_singleton_self error
  exact List.mem_filterMap.mp member

/-- A read that ends with the error for no frames got it from its PCM. -/
theorem Session.noFrames_of_pcm {first last : Run} {operations : List Operation}
    (built : first.Built) (session : Session first operations last) (conditions : Conditions)
    {id : StreamId} {buffer filled : List UInt8} {after : Run}
    (possible : (Operation.read id buffer).Possible last.machine)
    (failed : Act.read id buffer (last.under conditions) =
      ((.error Act.noFrames, filled), after)) :
    ∃ moment ∈ after.history.drop last.history.length,
      moment.failure? id = some Act.noFrames := by
  obtain ⟨start, begun, sound, -⟩ := built.shows
  obtain ⟨state, shown, reached⟩ := session.advances begun sound
  have shows := shown.under conditions
  have inside : id < state.streams.length := shown.length ▸ possible.1
  have equipped : (last.under conditions).machine.Equipped first.machine.settings :=
    (session.equipped built).of_eq rfl rfl
  -- What happened up to the failure is followed by what ends the transfer.
  have ends : ∀ {between : Run} {early : List Moment},
      between.history = last.history ++ early →
      (∃ moment ∈ early, moment.failure? id = some Act.noFrames) →
      after = (Act.finishTransfer id
        (.error Act.noFrames : Except AudioError (List Int16)) between).2 →
      ∃ moment ∈ after.history.drop last.history.length,
        moment.failure? id = some Act.noFrames := by
    rintro between early history ⟨moment, member, failure⟩ rfl
    obtain ⟨late, ended, -⟩ := (Act.fixed_finishTransfer id
      (.error Act.noFrames : Except AudioError (List Int16)) between).moments
    rw [ended, history, List.append_assoc, List.drop_left]
    exact ⟨moment, List.mem_append_left _ member, failure⟩
  by_cases whole : 0 < buffer.length /
      ((last.under conditions).machine.stream id).format.frameBytes
  · obtain ⟨-, ⟨between, refused, ended⟩ | ⟨frames, between, middle, ready, heard, ended⟩⟩ :=
      Act.read_error_cases whole failed
    · by_cases isOpen : (last.under conditions).machine.isOpen id = true
      · obtain ⟨⟨early, met⟩, -⟩ :=
          Act.answered_beginTransfer_of_open shows reached.sound inside isOpen
        rw [refused] at met
        exact ends met.history met.exists_failure ended
      · have closed := Bool.eq_false_of_not_eq_true isOpen
        rw [Act.beginTransfer_of_closed shows reached.sound inside closed] at refused
        cases refused
    · have begins : Act.Made (Act.beginTransfer [] id) :=
        Act.made_beginTransfer (List.forall_mem_nil _) id
      have filters := begins.equips _ _ equipped
      obtain ⟨early, started, -⟩ := (Act.fixed_beginTransfer id (last.under conditions)).moments
      obtain ⟨-, -, there⟩ := Act.beginTransfer_begins shows reached.sound inside ready
      rw [ready] at filters started
      obtain ⟨late, met⟩ := Act.meets_readOpen_of_equipped filters there frames
      rw [heard] at met
      have history : middle.history = last.history ++ (early ++ late) := by
        rw [met.history, started, List.append_assoc]
        rfl
      obtain ⟨moment, member, failure⟩ := met.exists_failure
      exact ends history ⟨moment, List.mem_append_right _ member, failure⟩ ended
  · have short := Nat.eq_zero_of_not_pos whole
    unfold Act.read Act.readAmid at failed
    rw [Act.bind_apply, Act.stream_apply] at failed
    dsimp only at failed
    rw [if_pos short] at failed
    cases failed

/-- **Capture never stalls.** A decimator that takes in 20 frames at a time, however it was used,
ends every pull from any source: after a number of calls that depends on the frames that it wants,
each for one frame at least, and short only when the last call gave nothing. In every session, a
read fails for want of frames only if that is the failure of a call to its PCM. -/
theorem neverStalls :
    (∀ {rate : UInt32} {channels : UInt16} {capacity : Nat} {decimator : Decimator},
      Decimator.Reachable rate channels capacity decimator → 20 ≤ capacity →
      ∀ {σ : Type} (source : Source σ) (wanted : Nat) (state : σ),
        ∃ calls, Decimator.PullEnds source decimator state wanted calls) ∧
    ∀ {first last : Run} {operations : List Operation}, first.Built →
      Session first operations last →
      ∀ (conditions : Conditions) {id : StreamId} {buffer filled : List UInt8} {after : Run},
        (Operation.read id buffer).Possible last.machine →
        Act.read id buffer (last.under conditions) = ((.error Act.noFrames, filled), after) →
        ∃ moment ∈ after.history.drop last.history.length,
          moment.failure? id = some Act.noFrames := by
  refine ⟨fun reachable roomy => ?_, fun built session => session.noFrames_of_pcm built⟩
  intro σ source wanted state
  exact reachable.sound.pullEnds roomy source wanted state

/-- Audio hardware with the shortest capture periods, and a capture stream at the lowest rate. -/
def Run.listening : Run :=
  Run.brief.next (.openStream .capture ⟨0x40000⟩ (.pcm16 8000 1))

/-- The conditions under which a PCM fails the way a read does that brings no frames. -/
def Conditions.starving : Conditions where
  transferScript := [some (.transfer "capture chain produced no frames")]

/-- The smallest decimator ends a pull from a source without frames, and a read fails as its PCM
does. -/
theorem neverStalls_starving :
    (∃ decimator calls, Decimator.toRate 8000 1 20 = .ok decimator ∧
      Decimator.PullEnds Source.silent decimator () 7 calls) ∧
    (Act.read 0 [0, 0] (Run.listening.under .starving)).1 = (.error Act.noFrames, [0, 0]) ∧
      ∃ moment ∈ (Act.read 0 [0, 0] (Run.listening.under .starving)).2.history.drop
        Run.listening.history.length, moment.failure? 0 = some Act.noFrames := by
  constructor
  · obtain ⟨decimator, built⟩ :
        ∃ decimator, Decimator.toRate 8000 1 20 = .ok decimator := ⟨_, rfl⟩
    obtain ⟨calls, ends⟩ := neverStalls.1 (.built built) (Nat.le_refl 20) .silent 7 ()
    exact ⟨decimator, calls, built, ends⟩
  · have built : Run.brief.Built := Run.built_of_faultless (by decide) rfl
    have session : Session Run.brief [.openStream .capture ⟨0x40000⟩ (.pcm16 8000 1)]
        Run.listening := Session.start.next _ (by decide +kernel)
    have failed : (Act.read 0 [0, 0] (Run.listening.under .starving)).1 =
        (.error Act.noFrames, [0, 0]) := by decide +kernel
    have possible : (Operation.read 0 [0, 0]).Possible Run.listening.machine := by decide +kernel
    rcases heard : Act.read 0 [0, 0] (Run.listening.under .starving) with ⟨answer, after⟩
    rw [heard] at failed
    cases failed
    exact ⟨rfl, neverStalls.2 built session .starving possible heard⟩

end PhoneAudio
