import PhoneAudio.Handset.Control
import PhoneAudio.Proofs.Handset.Parameters

/-!
# Modes, mute and volumes and the core

What the operations of the controlling thread do to the core of the machine, and that they lead from
sound states to sound states, in steps. Entering and leaving a call exchange the routes in one go:
what happens in between is seen by nobody (`PhoneAudio.Machine.Sound.moded`).
-/

namespace PhoneAudio

namespace Router

/-- The router on the way into a call. -/
def inside (router : Router) (volume : Float32) : Router :=
  { router with
    disabled := (router.disabled.set .capture true).set .playback true
    callVolume := volume
    routes := (router.routes.set .uplink (.ofList [.mainMic])).set .downlink
      (.ofList [.earpiece]) }

/-- The router on the way out of a call. -/
def outside (router : Router) : Router :=
  { router with
    routes := (router.routes.set .uplink .none).set .downlink .none
    disabled := (router.disabled.set .playback false).set .capture false
    callVolume := 0 }

variable {router : Router}

/-- The routes of a call, set while nothing else is played. -/
theorem setRoutes_fst (silent : router.routes.playback = .none) (factor : router.playbackFactor = 1)
    (uplink downlink : EndpointSet) :
    ((router.setRoute .uplink uplink).1.setRoute .downlink downlink).1 =
      { router with routes := (router.routes.set .uplink uplink).set .downlink downlink } := by
  have first : (router.setRoute .uplink uplink).1 = router.store .uplink uplink :=
    setRoute_fst ⟨.inl silent, factor⟩
  rw [first]
  exact setRoute_fst ⟨.inl silent, factor⟩

/-- Two lanes turned off or on while nothing is played. -/
theorem setDisableds_fst (silent : router.routes.playback = .none)
    (factor : router.playbackFactor = 1) (first second : Lane) (off : Bool) :
    ((router.setDisabled first off).1.setDisabled second off).1 =
      { router with disabled := (router.disabled.set first off).set second off } := by
  rw [setDisabled_fst ⟨.inl silent, factor⟩ first off, setDisabled_fst]
  exact ⟨.inl silent, factor⟩

/-- Without a route of ordinary playback, going into a call shares no endpoint at any moment. -/
theorem inside_fst (silent : router.routes.playback = .none) (factor : router.playbackFactor = 1)
    (volume : Float32) :
    (((((router.setDisabled .capture true).1.setDisabled .playback true).1.setCallVolume
      volume).1.setRoute .uplink (.ofList [.mainMic])).1.setRoute .downlink
        (.ofList [.earpiece])).1 = router.inside volume := by
  rw [setDisableds_fst silent factor, setCallVolume_fst, setRoutes_fst]
  · rfl
  · exact silent
  · exact factor
  · exact ⟨.inl silent, factor⟩

/-- Leaving a call takes the routes of the call off, and gives the others back. -/
theorem outside_fst (silent : router.routes.playback = .none)
    (factor : router.playbackFactor = 1) :
    (((((router.setRoute .uplink .none).1.setRoute .downlink .none).1.setDisabled .playback
      false).1.setDisabled .capture false).1.setCallVolume 0).1 = router.outside := by
  rw [setRoutes_fst silent factor, setDisableds_fst, setCallVolume_fst]
  · rfl
  · exact ⟨.inl silent, factor⟩
  · exact silent
  · exact factor

end Router

namespace Machine

/-! ## Calls -/

/-- The state with a stream in standby, if one is named. -/
def sleptIf (machine : Machine) (id : Option StreamId) : Machine :=
  id.elim machine machine.slept

/-- The state with the routes of a call. -/
def entered (machine : Machine) : Machine :=
  ((((machine.reroute (·.setDisabled .capture true)).reroute
    (·.setDisabled .playback true)).reroute
      (·.setCallVolume machine.hardware.callVolume)).reroute
        (·.setRoute .uplink (.ofList [.mainMic]))).reroute
          (·.setRoute .downlink (.ofList [.earpiece]))

/-- The state with the routes of a call taken back. -/
def left (machine : Machine) : Machine :=
  ((((machine.reroute (·.setRoute .uplink .none)).reroute
    (·.setRoute .downlink .none)).reroute
      (·.setDisabled .playback false)).reroute
        (·.setDisabled .capture false)).reroute
          (·.setCallVolume 0)

/-- The state after a call was entered or left for a mode. -/
def switched (machine : Machine) (mode : PhoneMode) (output input : Option StreamId) : Machine :=
  if decide (mode = .inCall) = machine.hardware.inCall then machine
  else if mode = .inCall then
    ((machine.sleptIf output).sleptIf input).entered.govern fun hardware =>
      { hardware with inCall := true }
  else
    ((machine.left.sleptIf output).sleptIf input).govern fun hardware =>
      { hardware with inCall := false }

/-- The state in a mode. -/
def moded (machine : Machine) (mode : PhoneMode) : Machine :=
  (machine.govern fun hardware => { hardware with mode := mode }).switched mode
    (machine.active .playback) (machine.active .capture)

variable {machine : Machine} {exempt : List StreamId}

/-- Putting a stream to standby leaves a sound state, if there is one to put. -/
theorem Sound.sleptIf (sound : machine.Sound []) (id : Option StreamId) :
    (machine.sleptIf id).Sound [] := by
  cases id with
  | none => exact sound
  | some id =>
      have exempted : machine.Sound [id] := sound.weaken nofun
      exact exempted.slept

/-- A change of the audio hardware that leaves the open streams, with a router that fits it. -/
theorem Sound.regoverned {after : Machine} (sound : machine.Sound exempt)
    (streams : after.streams = machine.streams)
    (output : after.hardware.output = machine.hardware.output)
    (inputs : after.hardware.inputs = machine.hardware.inputs)
    (dropped : after.hardware.present = false →
      after.hardware.output = none ∧ after.hardware.inputs = [])
    (called : after.hardware.inCall = decide (after.hardware.mode = .inCall))
    (proper : ∀ router, after.hardware.router = some router → router.Proper after.hardware)
    (playing : ∀ router, after.hardware.router = some router → router.routes.playback ≠ .none →
      ∃ before, machine.hardware.router = some before ∧ before.routes.playback ≠ .none) :
    after.Sound exempt := by
  have same := stream_congr streams
  have isOpen : ∀ id, after.isOpen id = machine.isOpen id := by
    intro id
    unfold Machine.isOpen
    rw [output, inputs]
  refine ⟨?_, ?_, ?_, ?_, ?_, ?_, inputs ▸ sound.nodup, dropped, called, proper, ?_⟩
  · intro id within
    rw [same]
    exact sound.quiet id (streams ▸ within)
  · intro id within
    rw [same]
    exact sound.closed id (streams ▸ within)
  · intro id within
    rw [same]
    exact sound.calm id (streams ▸ within)
  · intro id within
    rw [same, isOpen]
    exact sound.attached id (streams ▸ within)
  · intro id filled
    rw [streams, same]
    exact sound.output id (output ▸ filled)
  · intro id member
    rw [streams, same]
    exact sound.inputs id (inputs ▸ member)
  · intro router there routed
    obtain ⟨before, present, audible⟩ := playing router there routed
    rw [output]
    obtain ⟨id, filled, awake⟩ := sound.playing before present audible
    refine ⟨id, filled, ?_⟩
    rw [same]
    exact awake

/-- The same when the router is another made from the one before, with no route of ordinary playback
that was not there. -/
theorem Sound.remade {after : Machine} {change : Router → Router} (sound : machine.Sound exempt)
    (router : after.hardware.router = machine.hardware.router.map change)
    (streams : after.streams = machine.streams)
    (output : after.hardware.output = machine.hardware.output)
    (inputs : after.hardware.inputs = machine.hardware.inputs)
    (present : after.hardware.present = machine.hardware.present)
    (called : after.hardware.inCall = decide (after.hardware.mode = .inCall))
    (proper : ∀ before, machine.hardware.router = some before →
      (change before).Proper after.hardware)
    (playing : ∀ before, machine.hardware.router = some before →
      (change before).routes.playback ≠ .none → before.routes.playback ≠ .none) :
    after.Sound exempt := by
  refine sound.regoverned streams output inputs ?_ called ?_ ?_
  · rw [present, output, inputs]
    exact sound.dropped
  · intro made there
    obtain ⟨before, known, rfl⟩ := Option.map_eq_some_iff.mp (router.symm.trans there)
    exact proper before known
  · intro made there audible
    obtain ⟨before, known, rfl⟩ := Option.map_eq_some_iff.mp (router.symm.trans there)
    exact ⟨before, known, playing before known audible⟩

/-- Rerouting commutes with changes that are apart from the router. -/
theorem reroute_govern (machine : Machine) {f : Hardware → Hardware}
    (g : Router → Router × List RouteStep)
    (apart : ∀ hardware router,
      f { hardware with router := router } = { f hardware with router := router }) :
    (machine.govern f).reroute g = (machine.reroute g).govern f := by
  have kept : (f machine.hardware).router = machine.hardware.router :=
    congrArg (fun h => h.router) (apart machine.hardware machine.hardware.router)
  unfold Machine.reroute govern
  dsimp only
  rw [kept]
  congr 1
  exact (apart _ _).symm

/-- Standby commutes with changes that are apart from the router. -/
theorem slept_govern (machine : Machine) (id : StreamId) {f : Hardware → Hardware}
    (apart : ∀ hardware router,
      f { hardware with router := router } = { f hardware with router := router }) :
    (machine.govern f).slept id = (machine.slept id).govern f := by
  unfold Machine.slept Machine.unrouted
  change adjust (if (machine.stream id).direction = .playback then _ else _) _ _ = _
  split
  · rw [reroute_govern _ _ apart]
    rfl
  · rfl

theorem sleptIf_govern (machine : Machine) (id : Option StreamId) {f : Hardware → Hardware}
    (apart : ∀ hardware router,
      f { hardware with router := router } = { f hardware with router := router }) :
    (machine.govern f).sleptIf id = (machine.sleptIf id).govern f := by
  cases id with
  | none => rfl
  | some id => exact machine.slept_govern id apart

/-- Putting a stream to standby wakes none. -/
theorem isActive_slept (machine : Machine) {id other : StreamId}
    (active : ((machine.slept id).stream other).isActive = true) :
    (machine.stream other).isActive = true := by
  rw [stream_congr (machine.streams_slept id)] at active
  obtain ⟨-, changed⟩ | same := machine.stream_adjust_cases id other Stream.asleep
  · rw [changed] at active
    cases active
  · rwa [same] at active

theorem isActive_sleptIf (machine : Machine) {id : Option StreamId} {other : StreamId}
    (active : ((machine.sleptIf id).stream other).isActive = true) :
    (machine.stream other).isActive = true := by
  cases id with
  | none => exact active
  | some id => exact machine.isActive_slept active

/-- Standby leaves the desk. -/
theorem desk_sleptIf (machine : Machine) (id : Option StreamId) :
    (machine.sleptIf id).desk = machine.desk := by
  cases id with
  | none => rfl
  | some id => exact machine.desk_slept id

theorem length_sleptIf (machine : Machine) (id : Option StreamId) :
    (machine.sleptIf id).streams.length = machine.streams.length := by
  cases id with
  | none => rfl
  | some id =>
      change (machine.slept id).streams.length = _
      rw [streams_slept, length_adjust]

/-- Once the active playback stream and another are in standby, nothing is played. -/
theorem Sound.silent (sound : machine.Sound []) (input : Option StreamId) {router : Router}
    (there : ((machine.sleptIf (machine.active .playback)).sleptIf input).hardware.router =
      some router) :
    router.routes.playback = .none := by
  refine Decidable.byContradiction fun audible => ?_
  obtain ⟨id, output, awake⟩ := ((sound.sleptIf _).sleptIf input).playing router there audible
  have still := isActive_sleptIf _ (awake.resolve_left List.not_mem_nil)
  have filled : machine.hardware.output = some id := by
    have same : ((machine.sleptIf (machine.active .playback)).sleptIf input).desk =
        machine.desk := by
      rw [desk_sleptIf, desk_sleptIf]
    have outputs := congrArg (fun desk : Hardware × Option (ByLane Bool) => desk.1.output) same
    exact outputs.symm.trans output
  have active : machine.active .playback = some id :=
    Option.filter_eq_some_iff.mpr ⟨filled, machine.isActive_sleptIf still⟩
  have asleep : (machine.slept id).stream id = Stream.asleep (machine.stream id) := by
    rw [stream_congr (machine.streams_slept id), stream_adjust _ _ (sound.output id filled).1]
  rw [active] at still
  change ((machine.slept id).stream id).isActive = true at still
  rw [asleep] at still
  cases still

/-- Entering a call, where nothing is played. -/
theorem entered_eq {machine : Machine}
    (silent : ∀ router, machine.hardware.router = some router →
      router.routes.playback = .none ∧ router.playbackFactor = 1) :
    machine.entered =
      machine.reroute fun router => (router.inside machine.hardware.callVolume, []) := by
  unfold entered
  simp only [reroute_reroute]
  refine reroute_congr fun router there => ?_
  obtain ⟨playback, factor⟩ := silent router there
  exact Router.inside_fst playback factor _

/-- Leaving a call, where nothing is played. -/
theorem left_eq {machine : Machine}
    (silent : ∀ router, machine.hardware.router = some router →
      router.routes.playback = .none ∧ router.playbackFactor = 1) :
    machine.left = machine.reroute fun router => (router.outside, []) := by
  unfold left
  simp only [reroute_reroute]
  refine reroute_congr fun router there => ?_
  obtain ⟨playback, factor⟩ := silent router there
  exact Router.outside_fst playback factor

/-- A silent state goes into a call. -/
theorem Sound.enters (sound : machine.Sound []) (silent : ∀ router,
    machine.hardware.router = some router → router.routes.playback = .none) :
    ((machine.govern fun hardware => { hardware with mode := .inCall }).entered.govern
      fun hardware => { hardware with inCall := true }).Sound [] := by
  rw [entered_eq]
  · refine sound.remade rfl rfl rfl rfl rfl rfl ?_ fun _ _ audible => audible
    intro before there
    have proper := sound.proper before there
    exact ⟨rfl, proper.uplink, proper.downlink, fun _ => silent before there, nofun,
      proper.factor, rfl⟩
  · exact fun router there => ⟨silent router there, (sound.proper router there).factor⟩

/-- A state in a call goes out of it. -/
theorem Sound.leaves (sound : machine.Sound []) (inCall : machine.hardware.inCall = true)
    {mode : PhoneMode} (other : mode ≠ .inCall) :
    ((machine.govern fun hardware => { hardware with mode := mode }).left.govern
      fun hardware => { hardware with inCall := false }).Sound [] := by
  rw [left_eq]
  · refine sound.remade rfl rfl rfl rfl rfl (decide_eq_false other).symm ?_
      fun _ _ audible => audible
    intro before there
    have proper := sound.proper before there
    exact ⟨rfl, proper.uplink, proper.downlink, nofun, fun _ => ⟨rfl, rfl⟩, proper.factor, rfl⟩
  · intro router there
    exact ⟨(sound.proper router there).inside inCall, (sound.proper router there).factor⟩

/-- **Modes.** Setting the mode leads from a sound state to a sound state. -/
theorem Sound.moded (sound : machine.Sound []) (mode : PhoneMode) :
    (machine.moded mode).Sound [] := by
  unfold Machine.moded switched
  split
  · rename_i same
    refine sound.regoverned rfl rfl rfl sound.dropped ?_ ?_ fun router there audible =>
      ⟨router, there, audible⟩
    · exact same.symm
    · exact fun router there => (sound.proper router there).of_eq rfl rfl rfl
  · rename_i crossing
    split
    · rename_i entering
      subst entering
      rw [sleptIf_govern _ _ fun _ _ => rfl, sleptIf_govern _ _ fun _ _ => rfl]
      exact ((sound.sleptIf _).sleptIf _).enters fun router there => sound.silent _ there
    · rename_i leaving
      have inCall : machine.hardware.inCall = true := by
        rw [decide_eq_false leaving] at crossing
        exact (Bool.not_eq_false _).mp fun out => crossing out.symm
      rw [← sleptIf_govern _ _ fun _ _ => rfl, ← sleptIf_govern _ _ fun _ _ => rfl]
      exact ((sound.leaves inCall leaving).sleptIf _).sleptIf _

/-! ## Mute and volumes -/

/-- The state with the mute set. -/
def withMute (machine : Machine) (muted : Bool) : Machine :=
  ((machine.reroute (·.setDisabled .uplink muted)).reroute
    (·.setDisabled .capture muted)).govern fun hardware => { hardware with muted := muted }

/-- The state after muting, when the active capture stream has gone to standby. -/
def muted (machine : Machine) (muted : Bool) : Machine :=
  if machine.hardware.present then
    (machine.withMute muted).sleptIf (if muted then machine.active .capture else none)
  else machine.withMute muted

/-- The state with a volume of calls. -/
def voiced (machine : Machine) (volume : Float32) : Machine :=
  let kept := machine.govern fun hardware => { hardware with callVolume := volume }
  if machine.hardware.inCall then kept.reroute (·.setCallVolume volume) else kept

/-- Muting leaves a sound state. -/
theorem Sound.withMute (sound : machine.Sound exempt) (muted : Bool) :
    (machine.withMute muted).Sound exempt := by
  have both : (machine.reroute (·.setDisabled .uplink muted)).reroute
      (·.setDisabled .capture muted) = machine.reroute fun router =>
        ({ router with
          disabled := (router.disabled.set .uplink muted).set .capture muted }, []) := by
    rw [reroute_reroute]
    refine reroute_congr fun router there => ?_
    have balanced := (sound.proper router there).balanced
    rw [Router.setDisabled_fst balanced, Router.setDisabled_fst]
    exact ⟨balanced.apart, balanced.factor⟩
  unfold Machine.withMute
  rw [both]
  refine sound.remade rfl rfl rfl rfl rfl sound.called ?_ fun _ _ audible => audible
  intro before there
  obtain ⟨playback, -, downlink, inside, outside, factor, volume⟩ := sound.proper before there
  exact ⟨playback, rfl, downlink, inside, outside, factor, volume⟩

/-- Muting and putting a stream to standby leaves a sound state. -/
theorem Sound.muted (sound : machine.Sound []) (muted : Bool) :
    (machine.muted muted).Sound [] := by
  unfold Machine.muted
  split
  · exact (sound.withMute muted).sleptIf _
  · exact sound.withMute muted

/-- Setting the volume of calls leaves a sound state. -/
theorem Sound.voiced (sound : machine.Sound exempt) (volume : Float32) :
    (machine.voiced volume).Sound exempt := by
  unfold Machine.voiced
  dsimp only
  split
  · rename_i inCall
    have set : ((machine.govern fun hardware =>
        { hardware with callVolume := volume }).reroute (·.setCallVolume volume)) =
          (machine.govern fun hardware => { hardware with callVolume := volume }).reroute
            fun router => ({ router with callVolume := volume }, []) :=
      reroute_congr fun router there =>
        Router.setCallVolume_fst (sound.proper router there).balanced volume
    rw [set]
    refine sound.remade rfl rfl rfl rfl rfl sound.called ?_ fun _ _ audible => audible
    intro before there
    obtain ⟨playback, uplink, downlink, inside, outside, factor, -⟩ := sound.proper before there
    exact ⟨playback, uplink, downlink, inside, outside, factor, (if_pos inCall).symm⟩
  · rename_i out
    refine sound.regoverned rfl rfl rfl sound.dropped sound.called ?_ fun router there audible =>
      ⟨router, there, audible⟩
    intro router there
    obtain ⟨playback, uplink, downlink, inside, outside, factor, quiet⟩ :=
      sound.proper router there
    rw [if_neg out] at quiet
    exact ⟨playback, uplink, downlink, inside, outside, factor, quiet.trans (if_neg out).symm⟩

/-- Setting the volume of media leads a sound state on. -/
theorem Sound.follows_mediaVolume (sound : machine.Sound exempt) (volume : Float32) :
    machine.Follows exempt (machine.reroute (·.setMediaVolume volume)) := by
  have set : machine.reroute (·.setMediaVolume volume) =
      machine.reroute fun router => ({ router with mediaVolume := volume }, []) :=
    reroute_congr fun router there =>
      Router.setMediaVolume_fst (sound.proper router there).balanced volume
  refine ⟨?_, machine.desk_reroute fun _ => rfl, rfl⟩
  rw [set]
  refine sound.remade rfl rfl rfl rfl rfl sound.called ?_ fun _ _ audible => audible
  intro before there
  obtain ⟨playback, uplink, downlink, inside, outside, factor, quiet⟩ := sound.proper before there
  exact ⟨playback, uplink, downlink, inside, outside, factor, quiet⟩

end Machine

namespace Act

variable {state : Machine} {alone : Prop} {origin : Run}

/-- A stream that was taken over is put to standby. -/
theorem leads_standbyTaken (taken : Option (Takeover.Taken StreamId Unit)) :
    Leads Run.Shows (standbyTaken taken) state fun _ after =>
      after = state.sleptIf (taken.map (·.occupant)) := by
  cases taken with
  | none => exact leads_pure _ rfl
  | some taken => exact leads_standbyLocked taken.occupant

theorem proceeds_standbyTaken (taken : Option (Takeover.Taken StreamId Unit)) :
    Proceeds alone (standbyTaken taken) := by
  cases taken with
  | none => exact proceeds_pure _
  | some taken => exact proceeds_standbyLocked taken.occupant

theorem leads_unlockTaken (taken : Option (Takeover.Taken StreamId Unit)) :
    Leads Run.Shows (unlockTaken taken) state fun _ after => after = state := by
  cases taken with
  | none => exact leads_pure _ rfl
  | some taken => exact leads_unlock _

theorem aside_unlockTaken (taken : Option (Takeover.Taken StreamId Unit)) :
    Aside (unlockTaken taken) := by
  cases taken with
  | none => exact stays_pure _
  | some taken => exact aside_unlock _

/-- A call on the router that silences a lane, or none. -/
theorem along_call (call : RouterCall) (silences : call.Silences) :
    Leads (Run.Along alone origin) call.perform state fun _ after =>
      after = state.reroute call.onRouter := by
  have leads : Leads Run.Shows call.perform state fun _ after =>
      after = state.reroute call.onRouter := call.perform_eq ▸ leads_reroute call.onRouter
  exact leads.proceedAlong (proceeds_call call silences)

/-- The downlink is routed while nothing else is played. -/
theorem along_setDownlink (endpoints : EndpointSet) (silent : ∀ router,
    state.hardware.router = some router → router.routes.playback = .none) :
    Leads (Run.Along alone origin) (setRoute .downlink endpoints) state fun _ after =>
      after = state.reroute (·.setRoute .downlink endpoints) := by
  refine (leads_reroute _).along fun run shown => .single ?_
  refine .routed (.setRoute .downlink endpoints) fun router there balanced => ?_
  exact RouterCall.balanced_setRoute balanced (.inl (silent router (shown.router.symm.trans there)))

/-- A call is entered in steps while nothing else is played. -/
theorem along_enterCall (silent : ∀ router,
    state.hardware.router = some router → router.routes.playback = .none) :
    Leads (Run.Along alone origin) enterCall state fun _ after => after = state.entered := by
  refine (along_call (.setDisabled .capture true) trivial).then fun _ => ?_
  refine (along_call (.setDisabled .playback true) trivial).then fun _ => ?_
  refine (leads_hardware.asideAlong stays_hardware).read fun read same => ?_
  have volume : read.callVolume = state.hardware.callVolume := congrArg (fun h => h.callVolume) same
  rw [volume]
  refine (along_call (.setCallVolume state.hardware.callVolume) trivial).then fun _ => ?_
  refine (along_call (.setRoute .uplink (.ofList [.mainMic])) trivial).then fun _ => ?_
  refine along_setDownlink _ fun router there => ?_
  -- none of the calls before routes ordinary playback
  simp only [Machine.reroute, Machine.govern, Option.map_map, Option.map_eq_some_iff] at there
  obtain ⟨before, known, rfl⟩ := there
  refine (congrArg (fun routes => routes.playback) (Router.routes_setRoute _ .uplink _)).trans ?_
  change ((before.setDisabled .capture true).1.setDisabled .playback true).1.routes.playback = .none
  rw [Router.routes_setDisabled, Router.routes_setDisabled]
  exact silent before known

/-- Leaving a call leads to what is left. -/
theorem leads_leaveCall :
    Leads Run.Shows leaveCall state fun _ after => after = state.left :=
  (leads_reroute _).then fun _ => (leads_reroute _).then fun _ => (leads_reroute _).then fun _ =>
    (leads_reroute _).then fun _ => leads_reroute _

theorem proceeds_leaveCall : Proceeds alone leaveCall :=
  (proceeds_call (.setRoute .uplink .none) trivial).bind fun _ =>
    (proceeds_call (.setRoute .downlink .none) rfl).bind fun _ =>
      (proceeds_call (.setDisabled .playback false) trivial).bind fun _ =>
        (proceeds_call (.setDisabled .capture false) trivial).bind fun _ =>
          proceeds_call (.setCallVolume 0) trivial

/-- Changing the mode changes the mode alone. -/
theorem leads_changeMode (mode : PhoneMode) :
    Leads Run.Shows (changeMode mode) state fun _ after =>
      after = state.govern fun hardware => { hardware with mode := mode } := by
  refine leads_hardware.read fun read _ => ?_
  refine (leads_govern ?_ ?_).then fun _ => ?_
  · exact fun _ => rfl
  · exact fun _ => rfl
  · split
    · exact leads_tell _ _
    · exact leads_pure _ rfl

theorem aside_changeMode (mode : PhoneMode) : Aside (changeMode mode) := by
  refine stays_hardware.bind fun hardware => Stays.bind (wires_changeHardware ?_ ?_) fun _ => ?_
  · exact fun _ => rfl
  · exact fun _ => rfl
  · split
    · exact aside_tell _ _
    · exact stays_pure _

/-- A call is entered once the streams that were taken over are silent. -/
theorem along_switchCall (mode : PhoneMode)
    (output input : Option (Takeover.Taken StreamId Unit))
    (silent : ∀ router, ((state.sleptIf (output.map (·.occupant))).sleptIf
      (input.map (·.occupant))).hardware.router = some router → router.routes.playback = .none) :
    Leads (Run.Along alone origin) (switchCall mode output input) state fun _ after =>
      after = state.switched mode (output.map (·.occupant)) (input.map (·.occupant)) := by
  refine Leads.read (leads_hardware.asideAlong stays_hardware) fun read same => ?_
  have inCall : read.inCall = state.hardware.inCall := congrArg (fun h => h.inCall) same
  have mark : ∀ {state : Machine} (entering : Bool), Leads (Run.Along alone origin)
      (changeHardware fun hardware => { hardware with inCall := entering }) state fun _ after =>
        after = state.govern fun hardware => { hardware with inCall := entering } :=
    fun _ => Leads.asideAlong (leads_govern (fun _ => rfl) fun _ => rfl)
      (wires_changeHardware (fun _ => rfl) fun _ => rfl)
  have asleep : ∀ {state : Machine} (taken : Option (Takeover.Taken StreamId Unit)),
      Leads (Run.Along alone origin) (standbyTaken taken) state fun _ after =>
        after = state.sleptIf (taken.map (·.occupant)) :=
    fun taken => (leads_standbyTaken taken).proceedAlong (proceeds_standbyTaken taken)
  unfold Machine.switched
  rw [inCall]
  dsimp only
  by_cases same : decide (mode = .inCall) = state.hardware.inCall
  · rw [if_neg (not_not_intro same), if_pos same]
    exact leads_pure _ rfl
  rw [if_pos same, if_neg same]
  by_cases entering : mode = .inCall
  · rw [decide_eq_true entering, if_pos rfl, if_pos entering]
    refine (asleep output).then fun _ => (asleep input).then fun _ => ?_
    exact (along_enterCall silent).then fun _ => mark true
  · rw [decide_eq_false entering, if_neg Bool.false_ne_true, if_neg entering]
    refine (leads_leaveCall.proceedAlong proceeds_leaveCall).then fun _ => ?_
    exact (asleep output).then fun _ => (asleep input).then fun _ => mark false

/-- **Modes.** Setting the mode enters or leaves a call when the mode asks for it, in steps. -/
theorem along_setMode (sound : state.Sound []) (mode : PhoneMode) :
    Leads (Run.Along alone origin) (setMode mode) state fun _ after =>
      after = state.moded mode := by
  refine (along_withHardware ?_).then fun _ => leads_pure _ rfl
  refine (along_takeOver .playback none sound).read fun output playing => ?_
  refine (along_takeOver .capture none sound).read fun input capturing => ?_
  refine ((leads_tellRetries _ _).asideAlong (aside_tellRetries _ _)).then fun _ => ?_
  refine ((leads_tellRetries _ _).asideAlong (aside_tellRetries _ _)).then fun _ => ?_
  have active : ∀ direction, ((state.active direction).map fun id =>
      (⟨id, (), 0⟩ : Takeover.Taken StreamId Unit)).map (·.occupant) = state.active direction :=
    fun direction => (Option.map_map ..).trans (Option.map_id' ..)
  have taken : output.map (·.occupant) = state.active .playback ∧
      input.map (·.occupant) = state.active .capture := by
    rw [playing, capturing]
    exact ⟨active .playback, active .capture⟩
  refine ((leads_changeMode mode).asideAlong (aside_changeMode mode)).then fun _ => ?_
  refine (along_switchCall mode output input fun router there => ?_).bind ?_
  · rw [taken.1, taken.2, Machine.sleptIf_govern _ _ fun _ _ => rfl,
      Machine.sleptIf_govern _ _ fun _ _ => rfl] at there
    exact sound.silent _ there
  rintro _ _ rfl
  refine ((leads_unlockTaken input).asideAlong (aside_unlockTaken input)).then fun _ => ?_
  refine ((leads_unlockTaken output).asideAlong (aside_unlockTaken output)).mono ?_
  rintro _ _ rfl
  rw [taken.1, taken.2]
  rfl

/-- Setting the mode leads a sound state to the mode. -/
theorem leads_setMode (sound : state.Sound []) (mode : PhoneMode) :
    Leads Run.Shows (setMode mode) state fun _ after => after = state.moded mode :=
  .of_along fun _ => along_setMode sound mode

/-- **Mute.** Muting sets the lanes of the microphones and puts the active capture stream to
standby. -/
theorem leads_setMuted (sound : state.Sound []) (muted : Bool) :
    Leads Run.Shows (setMuted muted) state fun _ after => after = state.muted muted := by
  have core : Leads Run.Shows
      (withHardware do
        setLaneDisabled .uplink muted
        setLaneDisabled .capture muted
        changeHardware fun hardware => { hardware with muted := muted }
        if muted then return (← machine).activeCapture else return none)
      state fun active after => after = state.withMute muted ∧
        active = if muted then state.active .capture else none := by
    refine leads_withHardware ((leads_reroute _).then fun _ => (leads_reroute _).then fun _ => ?_)
    refine (leads_govern ?_ ?_).then fun _ => ?_
    · exact fun _ => rfl
    · exact fun _ => rfl
    · cases muted with
      | false => exact leads_pure _ ⟨rfl, rfl⟩
      | true =>
          refine leads_machine.read fun read same => leads_pure _ ⟨rfl, ?_⟩
          rw [if_pos rfl]
          exact (read.active_core .capture).symm.trans (congrArg (·.active .capture) same)
  refine core.bind fun active after ⟨same, chosen⟩ => ?_
  rw [same]
  unfold Machine.muted
  rw [← chosen]
  cases active with
  | none =>
      refine leads_pure _ ?_
      split <;> rfl
  | some id =>
      have active : state.active .capture = some id := by
        cases muted with
        | false => cases chosen
        | true => exact chosen.symm
      have inside := sound.inside_of_isOpen (sound.active_cases active).1
      exact leads_standby id (sound.calm id inside)

/-- Muting proceeds in steps, whatever it finds. -/
theorem proceeds_setMuted (muted : Bool) : Proceeds alone (setMuted muted) := by
  refine Proceeds.bind (proceeds_withHardware ?_) fun active => ?_
  · refine (proceeds_call (.setDisabled .uplink muted) trivial).bind fun _ => ?_
    refine (proceeds_call (.setDisabled .capture muted) trivial).bind fun _ => ?_
    refine Aside.then (wires_changeHardware (fun _ => rfl) fun _ => rfl) fun _ => ?_
    split
    · exact Aside.then stays_machine fun _ => proceeds_pure _
    · exact proceeds_pure _
  · cases active with
    | none => exact proceeds_pure _
    | some id => exact proceeds_standby id

/-- Setting the volume of calls leads to that volume. -/
theorem leads_setCallVolume (volume : Float32) :
    Leads Run.Shows (setCallVolume volume) state fun _ after => after = state.voiced volume := by
  refine (leads_withHardware ?_).then fun _ => leads_pure _ rfl
  refine (leads_govern ?_ ?_).then fun _ => ?_
  · exact fun _ => rfl
  · exact fun _ => rfl
  · refine leads_hardware.read fun read same => ?_
    have inCall : read.inCall = state.hardware.inCall := congrArg (fun h => h.inCall) same
    unfold Machine.voiced
    rw [inCall]
    dsimp only
    split
    · exact leads_reroute _
    · exact leads_pure _ rfl

theorem proceeds_setCallVolume (volume : Float32) : Proceeds alone (setCallVolume volume) := by
  refine Proceeds.bind (proceeds_withHardware ?_) fun _ => proceeds_pure _
  refine Aside.then (wires_changeHardware ?_ ?_) fun _ => Aside.then stays_hardware fun _ => ?_
  · exact fun _ => rfl
  · exact fun _ => rfl
  · split
    · exact proceeds_call (.setCallVolume volume) trivial
    · exact proceeds_pure _

/-- Setting the volume of media reroutes for it. -/
theorem leads_setMediaVolume (volume : Float32) :
    Leads Run.Shows (setMediaVolume volume) state fun _ after =>
      after = state.reroute (·.setMediaVolume volume) :=
  (leads_withHardware (leads_reroute _)).then fun _ => leads_pure _ rfl

theorem proceeds_setMediaVolume (volume : Float32) : Proceeds alone (setMediaVolume volume) :=
  (proceeds_withHardware (proceeds_call (.setMediaVolume volume) trivial)).bind fun _ =>
    proceeds_pure _

/-- Setting the devices of a call leads to routes that follow them. -/
theorem leads_setCallDevices (devices : Devices) :
    Leads Run.Shows (setCallDevices devices) state fun _ after =>
      after = state.followed devices :=
  (leads_withHardware (leads_followDevices devices)).then fun _ => leads_pure _ rfl

theorem proceeds_setCallDevices {run : Run} (devices : Devices)
    (silent : run.machine.SilentInCall) :
    run.Proceeds alone (setCallDevices devices run).2 :=
  proceeds_withHardware_from (proceeds_followDevices devices silent)

end Act

end PhoneAudio
