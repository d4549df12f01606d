import PhoneAudio.Proofs.Handset.Session
import PhoneAudio.Proofs.Routing.Calls

/-!
# Capture in a call

When ordinary capture is off in a call (`PhoneAudio.Session.call_capture`). A call turns the capture
lane off as it begins, and so does muting; lifting the mute turns the lane on again, in a call as
well as outside one.
-/

namespace PhoneAudio

/-- What operations of the past say about mute in a call: whether there is a call, and whether the
mute was set or lifted since the last call began or ended. -/
structure MuteRecord where
  inCall : Bool := false
  touched : Bool := false

/-- The record when a call is on, or none: what was before the call is forgotten. -/
def MuteRecord.switched (record : MuteRecord) (inCall : Bool) : MuteRecord :=
  if inCall = record.inCall then record else { inCall := inCall }

/-- What an operation adds to the record of mute. -/
def Operation.onMuteRecord : Operation → MuteRecord → MuteRecord
  | setMode mode, record => record.switched (mode = .inCall)
  | setMuted _, record => { record with touched := true }
  | _, record => record

/-- The record of operations that were performed one after the other. -/
def MuteRecord.of (operations : List Operation) : MuteRecord :=
  operations.foldl (fun record operation => operation.onMuteRecord record) {}

namespace Mic

/-- In a call, the capture lane is off unless the mute was lifted in it. -/
structure Heeds (mic : Mic) (record : MuteRecord) : Prop where
  inCall : mic.inCall = record.inCall
  capture : record.inCall = true → ∀ off, mic.captureOff = some off →
    off = (!record.touched || mic.muted)

variable {mic : Mic} {record : MuteRecord}

/-- Entering and leaving calls is recorded. -/
theorem Heeds.switched (heeds : mic.Heeds record) (entering : Bool) :
    (mic.switched entering).Heeds (record.switched entering) := by
  unfold Mic.switched MuteRecord.switched
  rw [heeds.inCall]
  split
  · exact heeds
  · refine ⟨rfl, fun called off there => ?_⟩
    obtain ⟨-, -, rfl⟩ := Option.map_eq_some_iff.mp there
    exact called

/-- Muting and unmuting is recorded. -/
theorem Heeds.silenced (heeds : mic.Heeds record) (muted : Bool) :
    (mic.silenced muted).Heeds ((Operation.setMuted muted).onMuteRecord record) := by
  refine ⟨heeds.inCall, fun _ off there => ?_⟩
  obtain ⟨-, -, rfl⟩ := Option.map_eq_some_iff.mp there
  rfl

/-- What one operation does about the microphones agrees with what it adds to the record. -/
theorem Heeds.step (heeds : mic.Heeds record) (operation : Operation) :
    (operation.onMic mic).Heeds (operation.onMuteRecord record) := by
  cases operation with
  | setMode mode => exact heeds.switched (mode = .inCall)
  | setMuted muted => exact heeds.silenced muted
  | dropHardware => exact ⟨heeds.inCall, fun _ => nofun⟩
  | _ => exact heeds

/-- Operations are recorded one after the other. -/
theorem Heeds.foldl (heeds : mic.Heeds record) (operations : List Operation) :
    (operations.foldl (fun mic operation => operation.onMic mic) mic).Heeds
      (operations.foldl (fun record operation => operation.onMuteRecord record) record) := by
  induction operations generalizing mic record with
  | nil => exact heeds
  | cons operation rest ih => exact ih (heeds.step operation)

end Mic

/-- In a call, ordinary capture is off. -/
def Machine.CallOwnsCapture (machine : Machine) : Prop :=
  machine.hardware.inCall = true → machine.isOff .capture = true

/-- **Capture in a call.** In a call, the capture lane is off, and none of its wirings is in use,
unless the microphones are not muted and the mute was lifted since the call began. -/
theorem Session.call_capture {first last : Run} {operations : List Operation} {router : Router}
    (built : first.Built) (session : Session first operations last)
    (there : last.machine.hardware.router = some router)
    (called : last.machine.hardware.inCall = true) :
    (last.machine.isOff .capture = true ↔
      (MuteRecord.of operations).touched = false ∨ last.machine.hardware.muted = true) ∧
    (last.machine.isOff .capture = true → router.inUse .capture = []) := by
  obtain ⟨start, shown, sound, out, -⟩ := built.shows
  obtain ⟨state, shows, reached⟩ := session.advances shown sound
  have fresh : start.mic.Heeds {} := ⟨out, nofun⟩
  have heeds : state.mic.Heeds (MuteRecord.of operations) := by
    rw [reached.mic]
    exact fresh.foldl operations
  have off : last.machine.isOff .capture = router.disabled.capture := by
    unfold Machine.isOff
    rw [there]
    rfl
  have core : state.mic = last.machine.mic := by
    rw [← shows.core_eq]
    rfl
  have capture : last.machine.mic.captureOff = some router.disabled.capture := by
    unfold Machine.mic
    rw [there]
    rfl
  rw [core] at heeds
  have same := heeds.capture (heeds.inCall.symm.trans called) _ capture
  refine ⟨?_, fun silent => Router.inUse_of_off (off.symm.trans silent)⟩
  rw [off, same, Bool.or_eq_true, Bool.not_eq_true']
  rfl

/-- A call in which the microphones were muted for a while. -/
def Run.unmutedInCall : Run :=
  ((Run.stock.next (.setMode .inCall)).next (.setMuted true)).next (.setMuted false)

/-- The microphone was muted and unmuted in a call. -/
theorem Session.unmutedInCall : Session Run.stock
    [.setMode .inCall, .setMuted true, .setMuted false] Run.unmutedInCall := by
  have called : Session Run.stock [.setMode .inCall] (Run.stock.next (.setMode .inCall)) :=
    Session.start.next _ (by decide +kernel)
  have muted : Session Run.stock [.setMode .inCall, .setMuted true]
      ((Run.stock.next (.setMode .inCall)).next (.setMuted true)) :=
    called.next _ (by decide +kernel)
  exact muted.next _ (by decide +kernel)

/-- The capture lane is on in the call. -/
theorem Session.call_capture_unmutedInCall :
    Run.unmutedInCall.machine.hardware.inCall = true ∧
      (Run.unmutedInCall.machine.isOff .capture = true ↔
        (MuteRecord.of [.setMode .inCall, .setMuted true, .setMuted false]).touched = false ∨
          Run.unmutedInCall.machine.hardware.muted = true) := by
  have called : Run.unmutedInCall.machine.hardware.inCall = true := by decide +kernel
  have there : Run.unmutedInCall.machine.hardware.router.isSome = true := by decide +kernel
  obtain ⟨router, there⟩ := Option.isSome_iff_exists.mp there
  exact ⟨called, (Session.call_capture Run.built_stock Session.unmutedInCall there called).1⟩

/-- Lifting the mute in a call turns ordinary capture on. -/
theorem Session.not_callOwnsCapture : ¬ ∀ (first last : Run) (operations : List Operation),
    first.Built → Session first operations last →
      last.machine.hardware.router.isSome = true → last.machine.CallOwnsCapture := by
  intro holds
  have owns := holds _ _ _ Run.built_stock Session.unmutedInCall (by decide +kernel)
  have on : Run.unmutedInCall.machine.isOff .capture = false := by decide +kernel
  rw [owns (by decide +kernel)] at on
  cases on

end PhoneAudio
