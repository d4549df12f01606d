import PhoneAudio.Handset.Operation
import PhoneAudio.Proofs.Handset.Lifecycle

/-!
# The microphones

Mute and calls both turn the capture lane off and on. What operations make of the lane depends on
little else than the two (`PhoneAudio.Mic`), and only three kinds of operation touch it
(`PhoneAudio.Operation.onMic`).
-/

namespace PhoneAudio

/-- What calls and mute are about: whether there is a call, whether the microphones are muted, and
whether the capture lane is off, if there is a router. -/
structure Mic where
  inCall : Bool := false
  muted : Bool := false
  captureOff : Option Bool := none

namespace Mic

/-- Entering or leaving a call. -/
def switched (mic : Mic) (entering : Bool) : Mic :=
  if entering = mic.inCall then mic
  else { mic with inCall := entering, captureOff := mic.captureOff.map fun _ => entering }

/-- Muting, or not. -/
def silenced (mic : Mic) (muted : Bool) : Mic :=
  { mic with muted := muted, captureOff := mic.captureOff.map fun _ => muted }

end Mic

/-- What an operation does about the microphones. -/
def Operation.onMic : Operation → Mic → Mic
  | setMode mode, mic => mic.switched (mode = .inCall)
  | setMuted muted, mic => mic.silenced muted
  | dropHardware, mic => { mic with captureOff := none }
  | _, mic => mic

namespace Machine

/-- What a state says about the microphones. -/
def mic (machine : Machine) : Mic where
  inCall := machine.hardware.inCall
  muted := machine.hardware.muted
  captureOff := machine.hardware.router.map fun router => router.disabled.capture

/-- The microphone is on the desk. -/
theorem mic_of_desk {first second : Machine} (same : first.desk = second.desk) :
    first.mic = second.mic := by
  have of : ∀ machine : Machine, machine.mic =
      ⟨machine.desk.1.inCall, machine.desk.1.muted, machine.desk.2.map ByLane.capture⟩ := by
    intro machine
    unfold mic desk
    rw [Option.map_map]
    rfl
  rw [of, of, same]

variable (machine : Machine)

theorem mic_sleptIf (id : Option StreamId) : (machine.sleptIf id).mic = machine.mic :=
  mic_of_desk (machine.desk_sleptIf id)

/-- Entering a call turns capture off. -/
theorem mic_entered : machine.entered.mic =
    { machine.mic with captureOff := machine.mic.captureOff.map fun _ => true } := by
  unfold entered mic Machine.reroute govern
  simp only [Option.map_map]
  congr 2
  funext router
  simp only [Function.comp_apply, Router.disabled_setRoute, Router.disabled_setCallVolume,
    Router.disabled_setDisabled]
  rfl

/-- Leaving a call turns capture on. -/
theorem mic_left : machine.left.mic =
    { machine.mic with captureOff := machine.mic.captureOff.map fun _ => false } := by
  unfold left mic Machine.reroute govern
  simp only [Option.map_map]
  congr 2
  funext router
  simp only [Function.comp_apply, Router.disabled_setRoute, Router.disabled_setCallVolume,
    Router.disabled_setDisabled]
  rfl

theorem mic_withMute (muted : Bool) :
    (machine.withMute muted).mic = machine.mic.silenced muted := by
  unfold withMute mic Machine.reroute govern Mic.silenced
  simp only [Option.map_map]
  congr 2
  funext router
  simp only [Function.comp_apply, Router.disabled_setDisabled]
  rfl

/-- Muting silences the microphone. -/
theorem mic_muted (muted : Bool) : (machine.muted muted).mic = machine.mic.silenced muted := by
  unfold Machine.muted
  split
  · rw [mic_sleptIf, mic_withMute]
  · exact machine.mic_withMute muted

/-- Changing the mode switches the microphone over if a call begins or ends. -/
theorem mic_moded (mode : PhoneMode) :
    (machine.moded mode).mic = machine.mic.switched (mode = .inCall) := by
  unfold moded switched Mic.switched
  have called : ∀ {machine : Machine} (inCall : Bool), (machine.govern fun hardware =>
      { hardware with inCall := inCall }).mic = { machine.mic with inCall := inCall } :=
    fun _ => rfl
  change (if decide (mode = .inCall) = machine.hardware.inCall then _ else _ : Machine).mic =
    if decide (mode = .inCall) = machine.hardware.inCall then _ else _
  split
  · rfl
  split
  · rename_i entering
    rw [called, mic_entered, mic_sleptIf, mic_sleptIf, entering]
    rfl
  · rename_i leaving
    rw [called, mic_sleptIf, mic_sleptIf, mic_left, decide_eq_false leaving]
    rfl

theorem mic_voiced (volume : Float32) : (machine.voiced volume).mic = machine.mic := by
  unfold voiced
  dsimp only
  split
  · unfold mic Machine.reroute govern
    rw [Option.map_map]
    rfl
  · rfl

theorem mic_joined (stream : Stream) : (machine.joined stream).mic = machine.mic := by
  unfold joined
  cases stream.direction <;> rfl

theorem mic_retired (id : StreamId) : (machine.retired id).mic = machine.mic :=
  mic_of_desk (machine.desk_retired id)

end Machine

end PhoneAudio
