import PhoneAudio.Proofs.Handset.CapturingAlone

/-!
# What is played and where

The route of ordinary playback is, after every operation, that of the devices of the playback stream
that is out of standby, and outside of that and in a call there is none
(`PhoneAudio.Session.routesPlayback`). It takes a closed playback stream to break this, which clears
the route of another one (`PhoneAudio.Operation.SparesClosed`).
-/

namespace PhoneAudio

namespace Operation

/-- An operation that neither writes to a closed playback stream, nor puts it to standby, nor sets
its parameters. -/
def SparesClosed (machine : Machine) : Operation → Prop
  | standby id | applyParameters id _ | write id _ =>
      (machine.stream id).direction = .playback → machine.isOpen id = true
  | _ => True

instance (machine : Machine) : (operation : Operation) → Decidable (operation.SparesClosed machine)
  | .standby id | .applyParameters id _ | .write id _ =>
    inferInstanceAs
      (Decidable ((machine.stream id).direction = .playback → machine.isOpen id = true))
  | .openStream .. | .close _ | .answerKeys .. | .read .. | .setMode _ | .setMuted _
  | .setCallVolume _ | .setMediaVolume _ | .setCallDevices _ | .ask _ | .dropHardware =>
    inferInstanceAs (Decidable True)

/-- Sparing closed streams is seen in what is shown. -/
theorem SparesClosed.core {operation : Operation} {run : Run} {state : Machine}
    (spares : operation.SparesClosed run.machine) (shows : run.Shows state) :
    operation.SparesClosed state := by
  cases operation <;> simp only [SparesClosed, shows.direction, shows.isOpen] at spares ⊢ <;>
    exact spares

/-- What an operation makes of the audio hardware and its router being there. -/
def onFrame : Operation → Bool × Bool → Bool × Bool
  | dropHardware, _ => (false, false)
  | _, frame => frame

end Operation

namespace Machine

/-- Where ordinary playback is to be heard: on the devices of the playback stream that is out of
standby, and nowhere in a call. -/
def playedRoute (machine : Machine) : EndpointSet :=
  if machine.hardware.mode = .inCall then .none
  else machine.activePlayback.elim .none fun id => (machine.stream id).devices.playbackRoute

/-- Whether the audio hardware and its router are there. -/
def frame (machine : Machine) : Bool × Bool :=
  (machine.hardware.present, machine.hardware.router.isSome)

/-- The frame is on the desk. -/
theorem frame_of_desk {first second : Machine} (same : first.desk = second.desk) :
    first.frame = second.frame := by
  have present := congrArg (fun desk => desk.1.present) same
  have router := congrArg (fun desk => desk.2.isSome) same
  have router : first.hardware.router.isSome = second.hardware.router.isSome := by
    simpa [desk] using router
  exact Prod.ext present router

variable {machine : Machine}

theorem frame_reroute (machine : Machine) (f : Router → Router × List RouteStep) :
    (machine.reroute f).frame = machine.frame :=
  Prod.ext rfl Option.isSome_map

theorem frame_joined (machine : Machine) (stream : Stream) :
    (machine.joined stream).frame = machine.frame :=
  congrArg (fun hardware => (hardware.present, hardware.router.isSome))
    (machine.hardware_joined stream)

theorem frame_sleptIf (machine : Machine) (id : Option StreamId) :
    (machine.sleptIf id).frame = machine.frame :=
  frame_of_desk (machine.desk_sleptIf id)

theorem frame_moded (machine : Machine) (mode : PhoneMode) :
    (machine.moded mode).frame = machine.frame := by
  have marked : ∀ (machine : Machine) (inCall : Bool), (machine.govern fun hardware =>
      { hardware with inCall := inCall }).frame = machine.frame := fun _ _ => rfl
  have entered : ∀ machine : Machine, machine.entered.frame = machine.frame := fun machine => by
    simp only [Machine.entered, frame_reroute]
  have left : ∀ machine : Machine, machine.left.frame = machine.frame := fun machine => by
    simp only [Machine.left, frame_reroute]
  unfold moded switched
  split
  · rfl
  split
  · rw [marked, entered, frame_sleptIf, frame_sleptIf]
    rfl
  · rw [marked, frame_sleptIf, frame_sleptIf, left]
    rfl

theorem frame_muted (machine : Machine) (muted : Bool) :
    (machine.muted muted).frame = machine.frame := by
  have silenced : (machine.withMute muted).frame = machine.frame := by
    change ((machine.reroute _).reroute _).frame = _
    rw [frame_reroute, frame_reroute]
  unfold Machine.muted
  split
  · rw [frame_sleptIf, silenced]
  · exact silenced

theorem frame_voiced (machine : Machine) (volume : Float32) :
    (machine.voiced volume).frame = machine.frame := by
  unfold voiced
  dsimp only
  split
  · rw [frame_reroute]
    rfl
  · rfl

/-- What is heard stays so when a call follows devices. -/
theorem Audible.followed (audible : machine.Audible) (devices : Devices) :
    (machine.followed devices).Audible := by
  unfold Machine.followed
  split
  · have downlink : Lane.downlink ≠ .playback := nofun
    have uplink : Lane.uplink ≠ .playback := nofun
    exact (audible.setRoute downlink _).setRoute uplink _
  · exact audible

/-- A stream that other devices are selected for is not heard on the old ones: in a call nothing is,
and otherwise it is put to standby. -/
theorem Audible.selected (audible : machine.Audible) (sound : machine.Sound [])
    {id : StreamId} (inside : id < machine.streams.length)
    (isOpen : (machine.stream id).direction = .playback → machine.isOpen id = true)
    (devices : Devices) : (machine.selected id devices).Audible := by
  unfold Machine.selected
  dsimp only
  split
  · exact audible
  split
  · rename_i follows
    refine audible_of_inCall ?_
    have same := (machine.adjust id (Stream.turned devices)).desk_followed devices
    exact (congrArg (fun desk => desk.1.mode) same).trans follows.2
  split
  · exact audible
  · unfold Machine.slept
    rw [adjust_adjust]
    exact audible.vacated (sound.own_of_isOpen isOpen) (fun _ => rfl) inside

/-- Parameters of an open stream leave what is heard in step. -/
theorem Audible.tuned (audible : machine.Audible) (sound : machine.Sound []) {id : StreamId}
    (inside : id < machine.streams.length)
    (isOpen : (machine.stream id).direction = .playback → machine.isOpen id = true)
    (text : String) : (machine.tuned id text).Audible := by
  unfold Machine.tuned
  split
  · split
    · exact audible
    · exact audible.selected sound inside isOpen _
  · exact audible

/-- A new stream has no PCM. -/
theorem Audible.joined (audible : machine.Audible) (sound : machine.Sound []) {stream : Stream}
    (empty : stream.pcm = none) : (machine.joined stream).Audible := by
  have hardware := machine.hardware_joined stream
  have router : (machine.joined stream).hardware.router = machine.hardware.router :=
    congrArg (fun hardware => hardware.router) hardware
  have mode : (machine.joined stream).hardware.mode = machine.hardware.mode :=
    congrArg (fun hardware => hardware.mode) hardware
  cases way : stream.direction with
  | playback =>
      refine audible_of_empty fun id output => ?_
      unfold Machine.joined at output
      simp only [way, Option.some.injEq] at output
      rw [← output, machine.stream_joined_self stream]
      exact empty
  | capture =>
      have output : (machine.joined stream).hardware.output = machine.hardware.output := by
        unfold Machine.joined
        rw [way]
      refine audible.of_eq (fun other there => ⟨other, router.symm.trans there, rfl⟩)
        (fun id filled => output.symm.trans filled) (fun outside => mode ▸ outside)
        fun id filled some => ?_
      have inside := (sound.output id (output.symm.trans filled)).1
      rw [machine.stream_joined stream inside] at some ⊢
      exact ⟨some, rfl⟩

/-- A stream that is closed is heard no more. -/
theorem Audible.retired (audible : machine.Audible) (sound : machine.Sound []) {id : StreamId}
    (isOpen : machine.isOpen id = true) : ((machine.removed id).retired id).Audible := by
  have removed : (machine.removed id).Audible := by
    refine audible.of_eq (fun other there => ⟨other, there, rfl⟩) (fun other filled => ?_)
      (fun outside => outside) fun _ _ some => ⟨some, rfl⟩
    exact (Option.filter_eq_some_iff.mp filled).1
  have inside : id < (machine.removed id).streams.length := sound.inside_of_isOpen isOpen
  have detached : ((machine.removed id).adjust id Stream.detached).Audible :=
    removed.adjust id (fun _ => rfl) fun _ => rfl
  refine detached.vacated ?_ (fun _ => rfl) ((length_adjust _ _ _).symm ▸ inside)
  -- the one playback stream there was is not open any more
  intro playback other filled
  rw [stream_adjust _ _ inside] at playback
  obtain ⟨output, -⟩ := Option.filter_eq_some_iff.mp filled
  exact sound.own_of_isOpen (fun _ => isOpen) playback other output

/-- An open stream that is put to standby is heard no more. -/
theorem Audible.sleptIf (audible : machine.Audible) (sound : machine.Sound [])
    {id : Option StreamId} (isOpen : ∀ other, id = some other → machine.isOpen other = true) :
    (machine.sleptIf id).Audible := by
  cases id with
  | none => exact audible
  | some id =>
      have isOpen := isOpen id rfl
      exact audible.slept sound (sound.inside_of_isOpen isOpen) fun _ => isOpen

/-- Muting does not matter to what is heard. -/
theorem Audible.muted (audible : machine.Audible) (sound : machine.Sound []) (muted : Bool) :
    (machine.muted muted).Audible := by
  have silenced : (machine.withMute muted).Audible :=
    ((audible.setDisabled .uplink muted).setDisabled .capture muted).of_eq
      (fun other there => ⟨other, there, rfl⟩) (fun _ filled => filled) (fun outside => outside)
      fun _ _ some => ⟨some, rfl⟩
  unfold Machine.muted
  split
  · refine silenced.sleptIf (sound.withMute muted) fun other chosen => ?_
    cases muted with
    | false => cases chosen
    | true =>
        have active : machine.active .capture = some other := chosen
        exact (sound.active_cases active).1
  · exact silenced

/-- The volume of calls does not matter to what is heard. -/
theorem Audible.voiced (audible : machine.Audible) (volume : Float32) :
    (machine.voiced volume).Audible := by
  have kept : (machine.govern fun hardware => { hardware with callVolume := volume }).Audible :=
    audible.of_eq (fun other there => ⟨other, there, rfl⟩) (fun _ filled => filled)
      (fun outside => outside) fun _ _ some => ⟨some, rfl⟩
  unfold Machine.voiced
  dsimp only
  split
  · exact kept.reroute fun _ => rfl
  · exact kept

/-- Standby gives no stream a PCM. -/
theorem pcm_sleptIf (machine : Machine) (id : Option StreamId) {other : StreamId}
    (empty : (machine.stream other).pcm = none) :
    ((machine.sleptIf id).stream other).pcm = none := by
  cases id with
  | none => exact empty
  | some id =>
      change ((machine.slept id).stream other).pcm = none
      rw [stream_congr (machine.streams_slept id)]
      obtain ⟨-, changed⟩ | same := machine.stream_adjust_cases id other Stream.asleep
      · rw [changed]
        rfl
      · rwa [same]

/-- Once the active playback stream is in standby, the open playback stream has no PCM. -/
theorem Sound.pcm_sleptIf (sound : machine.Sound []) {after : Machine}
    (streams : after.streams = machine.streams) {id : StreamId}
    (output : machine.hardware.output = some id) :
    ((after.sleptIf (machine.active .playback)).stream id).pcm = none := by
  have inside := (sound.output id output).1
  cases active : (machine.stream id).isActive with
  | true =>
      have playing : machine.active .playback = some id :=
        Option.filter_eq_some_iff.mpr ⟨output, active⟩
      rw [playing]
      change ((after.slept id).stream id).pcm = none
      rw [stream_congr (after.streams_slept id), stream_adjust _ _ (streams ▸ inside)]
      rfl
  | false =>
      refine after.pcm_sleptIf _ ?_
      have quiet := sound.quiet id inside List.not_mem_nil
      rw [Stream.isActive, Bool.not_eq_false'] at active
      rw [active] at quiet
      rw [stream_congr streams]
      exact Option.isNone_iff_eq_none.mp quiet.symm

/-- A call silences ordinary playback, and out of it nothing is played at first. -/
theorem Audible.moded (audible : machine.Audible) (sound : machine.Sound []) (mode : PhoneMode) :
    (machine.moded mode).Audible := by
  unfold Machine.moded switched
  split
  · rename_i same
    refine audible.of_eq (fun other there => ⟨other, there, rfl⟩) (fun _ filled => filled)
      (fun outside inCall => outside ?_) fun _ _ some => ⟨some, rfl⟩
    have called : decide (mode = .inCall) = machine.hardware.inCall := same
    rw [sound.called, decide_eq_true inCall] at called
    exact of_decide_eq_true called
  split
  · rename_i entering
    refine audible_of_inCall ?_
    have desk := (((machine.govern fun hardware => { hardware with mode := mode }).sleptIf
      (machine.active .playback)).desk_sleptIf (machine.active .capture)).trans
        (desk_sleptIf _ _)
    exact (congrArg (fun desk => desk.1.mode) desk).trans entering
  · refine audible_of_empty fun id filled => ?_
    have desk := (((machine.govern fun hardware => { hardware with mode := mode }).left.sleptIf
      (machine.active .playback)).desk_sleptIf (machine.active .capture)).trans
        (desk_sleptIf _ _)
    have output : machine.hardware.output = some id :=
      (congrArg (fun desk => desk.1.output) desk).symm.trans filled
    have streams : (machine.govern fun hardware => { hardware with mode := mode }).left.streams =
        machine.streams := rfl
    exact Machine.pcm_sleptIf _ (machine.active .capture) (sound.pcm_sleptIf streams output)

/-- Where it is known what is heard, the route is as it is to be. -/
theorem Sound.route_playback (sound : machine.Sound []) (audible : machine.Audible)
    (wired : machine.hardware.present = true → machine.hardware.router.isSome = true) :
    machine.route .playback = machine.playedRoute := by
  unfold route playedRoute
  by_cases inCall : machine.hardware.mode = .inCall
  · rw [if_pos inCall]
    cases there : machine.hardware.router with
    | none => rfl
    | some router =>
        refine (sound.proper router there).inside ?_
        rw [sound.called, decide_eq_true inCall]
  rw [if_neg inCall]
  cases playing : machine.activePlayback with
  | none =>
      cases there : machine.hardware.router with
      | none => rfl
      | some router =>
          -- a route without an active stream would contradict soundness
          refine Decidable.byContradiction fun audible => ?_
          obtain ⟨id, output, awake⟩ := sound.playing router there audible
          have active : machine.activePlayback = some id :=
            Option.filter_eq_some_iff.mpr ⟨output, awake.resolve_left List.not_mem_nil⟩
          rw [playing] at active
          cases active
  | some id =>
      obtain ⟨output, awake⟩ := Option.filter_eq_some_iff.mp playing
      have inside := (sound.output id output).1
      have present : machine.hardware.present = true := by
        refine (Bool.not_eq_false _).mp fun dropped => ?_
        rw [(sound.dropped dropped).1] at output
        cases output
      obtain ⟨router, there⟩ := Option.isSome_iff_exists.mp (wired present)
      have quiet := sound.quiet id inside List.not_mem_nil
      have standby : (machine.stream id).status.standby = false := by
        simpa [Stream.isActive] using awake
      rw [standby] at quiet
      have some : (machine.stream id).pcm.isSome = true := Option.isNone_eq_false_iff.mp quiet.symm
      rw [there]
      exact audible router id there output some inCall

/-- What an operation does about what is there and what is heard. -/
structure Steers (before : Machine) (operation : Operation) (after : Machine) : Prop where
  frame : after.frame = operation.onFrame before.frame
  audible : before.Audible → operation.SparesClosed before → after.Audible

end Machine

namespace Operation

variable {state : Machine}

/-- Every operation that spares closed playback streams leaves what is played on its devices. -/
theorem leads_perform_steers {operation : Operation} (sound : state.Sound [])
    (possible : operation.Possible state) :
    Act.Leads Run.Shows operation.perform state fun _ after => state.Steers operation after := by
  have still : (∀ frame, operation.onFrame frame = frame) → state.Steers operation state :=
    fun kept => ⟨(kept _).symm, fun audible _ => audible⟩
  cases operation with
  | openStream direction devices request =>
      refine (Act.leads_openStream direction devices request).bind ?_
      rintro opened _ (rfl | ⟨stream, -, empty, -, rfl⟩)
      · cases opened <;> exact Act.leads_pure _ (still fun _ => rfl)
      · have joined : state.Steers (.openStream direction devices request) (state.joined stream) :=
          ⟨state.frame_joined stream, fun audible _ => audible.joined sound empty⟩
        cases opened <;> exact Act.leads_pure _ joined
  | close id =>
      refine (Act.leads_close sound possible.1).bind ?_
      rintro closed _ rfl
      refine Act.leads_pure _ ?_
      split
      · rename_i isOpen
        refine ⟨?_, fun audible _ => audible.retired sound isOpen⟩
        change _ = (state.removed id).frame
        exact Machine.frame_of_desk ((state.removed id).desk_retired id)
      · exact still fun _ => rfl
  | standby id =>
      refine (Act.leads_standby id (sound.calm id possible)).bind ?_
      rintro answer _ rfl
      refine Act.leads_pure _ ?_
      split
      · exact ⟨Machine.frame_of_desk (state.desk_slept id),
          fun audible spares => audible.slept sound possible spares⟩
      · exact still fun _ => rfl
  | applyParameters id text =>
      refine (Act.leads_applyParameters (sound.calm id possible) text).bind ?_
      rintro answer _ rfl
      exact Act.leads_pure _ ⟨Machine.frame_of_desk (sound.follows_tuned id text).desk,
        fun audible spares => audible.tuned sound possible spares text⟩
  | answerKeys id keys =>
      exact (Act.leads_answerKeys id keys).then fun _ => Act.leads_pure _ (still fun _ => rfl)
  | write id bytes =>
      refine (Act.leads_write possible.1 sound bytes).bind fun answer after wakes => ?_
      have steers : state.Steers (.write id bytes) after :=
        ⟨Machine.frame_of_desk wakes.desk, wakes.audible⟩
      cases answer <;> exact Act.leads_pure _ steers
  | read id buffer =>
      refine (Act.leads_read possible.1 sound buffer).bind fun answer after wakes => ?_
      have steers : state.Steers (.read id buffer) after := by
        refine ⟨Machine.frame_of_desk wakes.desk, fun audible _ => wakes.audible audible ?_⟩
        intro playback
        rw [possible.2] at playback
        cases playback
      obtain ⟨outcome, filled⟩ := answer
      cases outcome <;> exact Act.leads_pure _ steers
  | setMode mode =>
      refine (Act.leads_setMode sound mode).bind ?_
      rintro answer _ rfl
      exact Act.leads_pure _ ⟨state.frame_moded mode, fun audible _ => audible.moded sound mode⟩
  | setMuted muted =>
      refine (Act.leads_setMuted sound muted).bind ?_
      rintro answer _ rfl
      exact Act.leads_pure _ ⟨state.frame_muted muted, fun audible _ => audible.muted sound muted⟩
  | setCallVolume volume =>
      refine (Act.leads_setCallVolume volume).bind ?_
      rintro answer _ rfl
      exact Act.leads_pure _ ⟨state.frame_voiced volume, fun audible _ => audible.voiced volume⟩
  | setMediaVolume volume =>
      refine (Act.leads_setMediaVolume volume).bind ?_
      rintro answer _ rfl
      exact Act.leads_pure _ ⟨state.frame_reroute _, fun audible _ => audible.reroute fun _ => rfl⟩
  | setCallDevices devices =>
      refine (Act.leads_setCallDevices devices).bind ?_
      rintro answer _ rfl
      exact Act.leads_pure _ ⟨Machine.frame_of_desk (state.desk_followed devices),
        fun audible _ => audible.followed devices⟩
  | ask query =>
      exact (Act.leads_find query).then fun _ => Act.leads_pure _ (still fun _ => rfl)
  | dropHardware =>
      refine (Act.leads_dropHardware sound possible).bind ?_
      rintro answer _ ⟨between, -, rfl⟩
      exact Act.leads_pure _ ⟨rfl, fun _ _ _ _ => nofun⟩

/-- What a run shows after an operation is sound again. -/
theorem steers {operation : Operation} {run : Run} (shown : run.Shows state)
    (sound : state.Sound []) (possible : operation.Possible state) :
    ∃ after, (operation.perform run).2.Shows after ∧ after.Sound [] ∧
      state.Steers operation after := by
  obtain ⟨after, reached, advanced, -⟩ := leads_perform sound possible run shown
  obtain ⟨same, again, steers⟩ := leads_perform_steers sound possible run shown
  obtain rfl : after = same := reached.core_eq.symm.trans again.core_eq
  exact ⟨after, reached, advanced.sound, steers⟩

end Operation

/-- A session in which closed playback streams are left alone. -/
abbrev Session.Sparing : Run → List Operation → Run → Prop :=
  Session.Through fun before operation _ => operation.SparesClosed before.machine

/-- A session that spares closed playback streams leaves what is played on its devices. -/
theorem Session.Sparing.steers {first last : Run} {operations : List Operation} {state : Machine}
    (session : Session.Sparing first operations last) (shown : first.Shows state)
    (sound : state.Sound []) (audible : state.Audible)
    (wired : state.hardware.present = true → state.hardware.router.isSome = true) :
    ∃ after, last.Shows after ∧ after.Sound [] ∧ after.Audible ∧
      (after.hardware.present = true → after.hardware.router.isSome = true) := by
  induction session with
  | start => exact ⟨state, shown, sound, audible, wired⟩
  | step earlier conditions possible spares ih =>
      rename_i operation
      obtain ⟨before, shows, settled, heard, plugged⟩ := ih
      have spares := spares.core shows
      obtain ⟨after, reached, sound, steers⟩ :=
        Operation.steers (shows.under conditions) settled (possible.core shows)
      refine ⟨after, reached, sound, steers.audible heard spares, fun present => ?_⟩
      obtain ⟨there, router⟩ := Prod.ext_iff.mp steers.frame
      change after.hardware.present = _ at there
      change after.hardware.router.isSome = _ at router
      cases operation with
      | dropHardware =>
          rw [present] at there
          cases there
      | _ => exact router.trans (plugged (there.symm.trans present))

/-- **Playback.** As long as closed playback streams are left alone, the route of ordinary playback
is, after every operation, the one for the devices of the open playback stream while that is out of
standby and there is no call, and otherwise none. -/
theorem Session.routesPlayback {first last : Run} {operations : List Operation}
    (built : first.Built) (wired : first.machine.hardware.router.isSome = true)
    (session : Session.Sparing first operations last) :
    last.machine.route .playback = last.machine.playedRoute := by
  obtain ⟨settings, tables, shown⟩ := built.shows_vacant
  have sound := Machine.sound_built settings tables
  obtain ⟨state, shows, reached, audible, plugged⟩ := session.steers shown sound
    (Machine.audible_of_empty nofun) fun _ => shown.router ▸ wired
  have route : last.machine.route .playback = state.route .playback := by
    unfold Machine.route
    rw [shows.router]
  have played : last.machine.playedRoute = state.playedRoute := by
    have active : last.machine.activePlayback = state.activePlayback := shows.active .playback
    have devices : ∀ id, (last.machine.stream id).devices = (state.stream id).devices := by
      intro id
      rw [← shows.stream id]
      rfl
    unfold Machine.playedRoute
    simp only [active, devices, shows.mode]
  rw [route, played]
  exact reached.route_playback audible plugged

/-- A stream that played on the speaker and, after a call in which other devices were selected for
it, plays on the headset. -/
def Run.playedAfterCall : Run :=
  (((((Run.stock.next (.openStream .playback ⟨2⟩ {})).next (.write 0 4)).next
    (.setMode .inCall)).next (.applyParameters 0 "routing=4")).next (.setMode .normal)).next
      (.write 0 4)

/-- Something is played again after a call. -/
theorem Session.playedAfterCall :
    Session.Sparing Run.stock
      [.openStream .playback ⟨2⟩ {}, .write 0 4, .setMode .inCall,
        .applyParameters 0 "routing=4", .setMode .normal, .write 0 4] Run.playedAfterCall := by
  have opened : Session.Sparing Run.stock [.openStream .playback ⟨2⟩ {}]
      (Run.stock.next (.openStream .playback ⟨2⟩ {})) :=
    Session.Through.start.next _ (by decide +kernel) (by decide +kernel)
  have played := opened.next (.write 0 4) (by decide +kernel) (by decide +kernel)
  have called := played.next (.setMode .inCall) (by decide +kernel) (by decide +kernel)
  have turned := called.next (.applyParameters 0 "routing=4") (by decide +kernel)
    (by decide +kernel)
  have ended := turned.next (.setMode .normal) (by decide +kernel) (by decide +kernel)
  exact ended.next (.write 0 4) (by decide +kernel) (by decide +kernel)

/-- The headset is the route afterwards. -/
theorem Session.routesPlayback_playedAfterCall :
    Run.playedAfterCall.machine.route .playback = Run.playedAfterCall.machine.playedRoute ∧
      Run.playedAfterCall.machine.playedRoute = .ofList [.amp, .headphone] := by
  have wired : Run.stock.machine.hardware.router.isSome = true := by decide +kernel
  exact ⟨Session.routesPlayback Run.built_stock wired Session.playedAfterCall, by decide +kernel⟩

end PhoneAudio
