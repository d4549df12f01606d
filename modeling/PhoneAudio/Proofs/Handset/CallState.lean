import PhoneAudio.Proofs.Handset.Session

/-!
# The state of calls

The audio hardware and its router both note whether there is a call, what is off and how loud calls
are. However operations went, the notes agree (`PhoneAudio.Session.agreesOnCalls`): the router has
the volume that was set last while there is a call, even if it was set ahead of the call, and none
at all outside a call.
-/

namespace PhoneAudio

/-- What an operation makes of the volume that calls are to have. -/
def Operation.onCallVolume : Operation → Float32 → Float32
  | setCallVolume volume, _ => volume
  | _, volume => volume

/-- The volume of calls that was set last, or zero when none was ever set. -/
def lastCallVolume (operations : List Operation) : Float32 :=
  operations.foldl (fun volume operation => operation.onCallVolume volume) 0

namespace Machine

/-- The router and the audio hardware agree about calls of some volume. -/
structure AgreesOnCalls (machine : Machine) (router : Router) (volume : Float32) : Prop where
  mode : machine.hardware.inCall = true ↔ machine.hardware.mode = .inCall
  playback : router.disabled.playback = true ↔ machine.hardware.inCall = true
  uplink : router.disabled.uplink = true ↔ machine.hardware.muted = true
  downlink : router.disabled.downlink = false
  outside : machine.hardware.inCall = false →
    router.routes.uplink = .none ∧ router.routes.downlink = .none
  volume : router.callVolume = if machine.hardware.inCall then volume else 0

/-- The volume that the audio hardware keeps for calls. -/
def callVolume (machine : Machine) : Float32 :=
  machine.hardware.callVolume

/-- The volume of calls is on the desk. -/
theorem callVolume_of_desk {first second : Machine} (same : first.desk = second.desk) :
    first.callVolume = second.callVolume :=
  congrArg (fun desk => desk.1.callVolume) same

variable (machine : Machine)

theorem callVolume_joined (stream : Stream) :
    (machine.joined stream).callVolume = machine.callVolume := by
  unfold joined callVolume
  cases stream.direction <;> rfl

theorem callVolume_sleptIf (id : Option StreamId) :
    (machine.sleptIf id).callVolume = machine.callVolume :=
  callVolume_of_desk (machine.desk_sleptIf id)

theorem callVolume_moded (mode : PhoneMode) :
    (machine.moded mode).callVolume = machine.callVolume := by
  have marked : ∀ (machine : Machine) (inCall : Bool), (machine.govern fun hardware =>
      { hardware with inCall := inCall }).callVolume = machine.callVolume := fun _ _ => rfl
  have entered : ∀ machine : Machine, machine.entered.callVolume = machine.callVolume :=
    fun _ => rfl
  unfold moded switched
  split
  · rfl
  split
  · rw [marked, entered, callVolume_sleptIf, callVolume_sleptIf]
    rfl
  · rw [marked, callVolume_sleptIf, callVolume_sleptIf]
    rfl

/-- Muting leaves the volume of calls. -/
theorem callVolume_muted (muted : Bool) :
    (machine.muted muted).callVolume = machine.callVolume := by
  unfold Machine.muted
  split
  · rw [callVolume_sleptIf]
    rfl
  · rfl

/-- The volume of calls is what it was set to. -/
theorem callVolume_voiced (volume : Float32) : (machine.voiced volume).callVolume = volume := by
  unfold voiced
  dsimp only
  split <;> rfl

/-- Between operations the router agrees with the audio hardware. -/
theorem Sound.agrees {machine : Machine} {exempt : List StreamId}
    (sound : machine.Sound exempt) {router : Router}
    (there : machine.hardware.router = some router) :
    machine.AgreesOnCalls router machine.callVolume := by
  have proper := sound.proper router there
  refine ⟨?_, ?_, ?_, proper.downlink, proper.outside, proper.volume⟩
  · rw [sound.called, decide_eq_true_eq]
  · rw [proper.playback]
  · rw [proper.uplink]

end Machine

namespace Operation

variable {state : Machine}

/-- Only setting the volume of calls changes the volume that is kept for them. -/
theorem leads_perform_callVolume {operation : Operation} (sound : state.Sound [])
    (possible : operation.Possible state) :
    Act.Leads Run.Shows operation.perform state fun _ after =>
      after.callVolume = operation.onCallVolume state.callVolume := by
  cases operation with
  | openStream direction devices request =>
      refine (Act.leads_openStream direction devices request).bind ?_
      rintro opened _ (rfl | ⟨stream, -, -, -, rfl⟩)
      · cases opened <;> exact Act.leads_pure _ rfl
      · cases opened <;> exact Act.leads_pure _ (state.callVolume_joined stream)
  | close id =>
      refine (Act.leads_close sound possible.1).bind ?_
      rintro closed _ rfl
      refine Act.leads_pure _ ?_
      split
      · change _ = (state.removed id).callVolume
        exact Machine.callVolume_of_desk ((state.removed id).desk_retired id)
      · rfl
  | standby id =>
      refine (Act.leads_standby id (sound.calm id possible)).bind ?_
      rintro answer _ rfl
      refine Act.leads_pure _ ?_
      split
      · exact Machine.callVolume_of_desk (state.desk_slept id)
      · rfl
  | applyParameters id text =>
      refine (Act.leads_applyParameters (sound.calm id possible) text).bind ?_
      rintro answer _ rfl
      exact Act.leads_pure _ (Machine.callVolume_of_desk (sound.follows_tuned id text).desk)
  | answerKeys id keys => exact (Act.leads_answerKeys id keys).then fun _ => Act.leads_pure _ rfl
  | write id bytes =>
      refine (Act.leads_write possible.1 sound bytes).bind fun answer after roused => ?_
      cases answer <;> exact Act.leads_pure _ (Machine.callVolume_of_desk roused.desk)
  | read id buffer =>
      refine (Act.leads_read possible.1 sound buffer).bind fun answer after roused => ?_
      obtain ⟨outcome, filled⟩ := answer
      cases outcome <;> exact Act.leads_pure _ (Machine.callVolume_of_desk roused.desk)
  | setMode mode =>
      refine (Act.leads_setMode sound mode).bind ?_
      rintro answer _ rfl
      exact Act.leads_pure _ (state.callVolume_moded mode)
  | setMuted muted =>
      refine (Act.leads_setMuted sound muted).bind ?_
      rintro answer _ rfl
      exact Act.leads_pure _ (state.callVolume_muted muted)
  | setCallVolume volume =>
      refine (Act.leads_setCallVolume volume).bind ?_
      rintro answer _ rfl
      exact Act.leads_pure _ (state.callVolume_voiced volume)
  | setMediaVolume volume =>
      refine (Act.leads_setMediaVolume volume).bind ?_
      rintro answer _ rfl
      exact Act.leads_pure _ rfl
  | setCallDevices devices =>
      refine (Act.leads_setCallDevices devices).bind ?_
      rintro answer _ rfl
      exact Act.leads_pure _ (Machine.callVolume_of_desk (state.desk_followed devices))
  | ask query => exact (Act.leads_find query).then fun _ => Act.leads_pure _ rfl
  | dropHardware =>
      refine (Act.leads_dropHardware sound possible).bind ?_
      rintro answer _ ⟨between, follows, rfl⟩
      have kept : between.callVolume = (state.offering none []).callVolume :=
        Machine.callVolume_of_desk follows.desk
      exact Act.leads_pure _ kept

end Operation

/-- What is shown has the volume of calls. -/
theorem Run.Shows.callVolume {run : Run} {state : Machine} (shows : run.Shows state) :
    run.machine.callVolume = state.callVolume := by
  rw [← shows.core_eq]
  rfl

/-- A session keeps the volume of calls that was set last. -/
theorem Session.callVolume {first last : Run} {operations : List Operation} {state : Machine}
    (session : Session first operations last) (shown : first.Shows state)
    (sound : state.Sound []) :
    last.machine.callVolume = operations.foldl
      (fun volume operation => operation.onCallVolume volume) state.callVolume := by
  induction session with
  | start => exact shown.callVolume
  | step earlier conditions possible ih =>
      obtain ⟨before, shows, advanced⟩ := earlier.advances shown sound
      obtain ⟨after, reached, kept⟩ := Operation.leads_perform_callVolume advanced.sound
        (possible.core shows) _ (shows.under conditions)
      rw [List.foldl_append, ← ih, reached.callVolume, kept, shows.callVolume]
      rfl

/-- **Calls.** Whatever was done with the audio hardware, and however the drivers did, there is a
call exactly in the mode of calls; ordinary playback is off exactly in a call, the uplink exactly
while the microphones are muted, and the downlink never; outside a call nothing is routed for one;
and the router has the volume of calls that was set last, but zero outside a call. -/
theorem Session.agreesOnCalls {first last : Run} {operations : List Operation}
    (built : first.Built) (session : Session first operations last) {router : Router}
    (there : last.machine.hardware.router = some router) :
    last.machine.AgreesOnCalls router (lastCallVolume operations) := by
  obtain ⟨settings, tables, shown⟩ := built.shows_vacant
  have sound := Machine.sound_built settings tables
  obtain ⟨state, shows, reached⟩ := session.advances shown sound
  have volume : last.machine.callVolume = lastCallVolume operations :=
    session.callVolume shown sound
  have agrees := reached.sound.agrees (shows.router.symm.trans there)
  rw [← shows.callVolume, volume] at agrees
  have hardware : last.machine.hardware.core = state.hardware :=
    congrArg Machine.hardware shows.core_eq
  obtain ⟨mode, playback, uplink, downlink, outside, loud⟩ := agrees
  rw [← hardware] at mode playback uplink outside loud
  exact ⟨mode, playback, uplink, downlink, outside, loud⟩

/-- A call whose volume was set ahead of it. -/
def Run.loudCall : Run :=
  (Run.stock.next (.setCallVolume 0.5)).next (.setMode .inCall)

/-- The volume is set before the call. -/
theorem Session.loudCall :
    Session Run.stock [.setCallVolume 0.5, .setMode .inCall] Run.loudCall := by
  have set : Session Run.stock [.setCallVolume 0.5] (Run.stock.next (.setCallVolume 0.5)) :=
    Session.start.next _ (by decide +kernel)
  exact set.next _ (by decide +kernel)

/-- The call has the volume. -/
theorem Session.agreesOnCalls_loudCall : ∃ router,
    Run.loudCall.machine.hardware.router = some router ∧
      Run.loudCall.machine.AgreesOnCalls router
        (lastCallVolume [.setCallVolume 0.5, .setMode .inCall]) ∧
      Run.loudCall.machine.hardware.inCall = true ∧ router.callVolume = 0.5 := by
  obtain ⟨router, there⟩ : ∃ router, Run.loudCall.machine.hardware.router = some router :=
    Option.isSome_iff_exists.mp (by decide +kernel)
  have agrees := Session.agreesOnCalls Run.built_stock Session.loudCall there
  have inCall : Run.loudCall.machine.hardware.inCall = true := by decide +kernel
  refine ⟨router, there, agrees, inCall, ?_⟩
  rw [agrees.volume, if_pos inCall]
  rfl

end PhoneAudio
