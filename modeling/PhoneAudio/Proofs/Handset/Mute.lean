import PhoneAudio.Proofs.Handset.Session

/-!
# Mute

How long muted microphones stay off (`PhoneAudio.Session.muted_lanes`). The uplink is off exactly as
long as the microphones are muted. The capture lane is turned on again by the end of a call, even
while the microphones are muted: it is off in a call, and outside one as long as there has been no
call since the mute was set.
-/

namespace PhoneAudio

/-- What operations of the past say about calls: whether there is one, and whether there was one at
some time since the mute was last set. -/
structure CallRecord where
  inCall : Bool := false
  sinceMute : Bool := false

/-- The record when a call is on, or none. -/
def CallRecord.switched (record : CallRecord) (inCall : Bool) : CallRecord where
  inCall := inCall
  sinceMute := record.sinceMute || inCall

/-- What an operation adds to the record of calls. -/
def Operation.onRecord : Operation → CallRecord → CallRecord
  | setMode mode, record => record.switched (mode = .inCall)
  | setMuted _, record => { record with sinceMute := record.inCall }
  | _, record => record

/-- The record of operations that were performed one after the other. -/
def CallRecord.of (operations : List Operation) : CallRecord :=
  operations.foldl (fun record operation => operation.onRecord record) {}

namespace Mic

/-- The microphones are as the record of calls lets expect. -/
structure Follows (mic : Mic) (record : CallRecord) : Prop where
  inCall : mic.inCall = record.inCall
  since : record.inCall = true → record.sinceMute = true
  capture : mic.muted = true → ∀ off, mic.captureOff = some off →
    off = (record.inCall || !record.sinceMute)

variable {mic : Mic} {record : CallRecord}

/-- Entering and leaving calls is recorded. -/
theorem Follows.switched (follows : mic.Follows record) (entering : Bool) :
    (mic.switched entering).Follows (record.switched entering) := by
  obtain ⟨inCall, since, capture⟩ := follows
  unfold Mic.switched CallRecord.switched
  split
  · rename_i same
    rw [inCall] at same
    subst same
    refine ⟨inCall, fun called => ?_, fun muted off there => ?_⟩
    · rw [called, Bool.or_true]
    · rw [capture muted off there]
      cases record.inCall with
      | true => rfl
      | false => rw [Bool.or_false]
  · rename_i crossing
    refine ⟨rfl, fun called => Bool.or_eq_true_iff.mpr (.inr called), fun _ off there => ?_⟩
    · obtain ⟨-, -, rfl⟩ := Option.map_eq_some_iff.mp there
      cases entering with
      | true => rfl
      | false =>
          have called : record.inCall = true := by
            rw [← inCall]
            exact (Bool.not_eq_false _).mp fun out => crossing out.symm
          rw [since called]
          rfl

/-- Muting and unmuting is recorded. -/
theorem Follows.silenced (follows : mic.Follows record) (muted : Bool) :
    (mic.silenced muted).Follows ((Operation.setMuted muted).onRecord record) := by
  refine ⟨follows.inCall, fun called => called, fun silent off there => ?_⟩
  obtain ⟨-, -, rfl⟩ := Option.map_eq_some_iff.mp there
  rw [show muted = true from silent]
  exact (Bool.or_not_self _).symm

/-- What one operation does about the microphones agrees with what it adds to the record. -/
theorem Follows.step (follows : mic.Follows record) (operation : Operation) :
    (operation.onMic mic).Follows (operation.onRecord record) := by
  cases operation with
  | setMode mode => exact follows.switched (mode = .inCall)
  | setMuted muted => exact follows.silenced muted
  | dropHardware => exact ⟨follows.inCall, follows.since, nofun⟩
  | _ => exact follows

/-- Operations are recorded one after the other. -/
theorem Follows.foldl (follows : mic.Follows record) (operations : List Operation) :
    (operations.foldl (fun mic operation => operation.onMic mic) mic).Follows
      (operations.foldl (fun record operation => operation.onRecord record) record) := by
  induction operations generalizing mic record with
  | nil => exact follows
  | cons operation rest ih => exact ih (follows.step operation)

end Mic

/-- The microphones are off as long as they are muted. -/
def Machine.MuteHolds (machine : Machine) : Prop :=
  machine.hardware.muted = true → machine.isOff .uplink = true ∧ machine.isOff .capture = true

/-- **Mute.** While the microphones are muted, the uplink is off, and the capture lane is off unless
there was a call since the mute was set and there is none now. -/
theorem Session.muted_lanes {first last : Run} {operations : List Operation}
    (built : first.Built) (session : Session first operations last)
    (mixer : last.machine.hardware.router.isSome = true)
    (muted : last.machine.hardware.muted = true) :
    last.machine.isOff .uplink = true ∧
      (last.machine.isOff .capture = true ↔ (CallRecord.of operations).inCall = true ∨
        (CallRecord.of operations).sinceMute = false) := by
  obtain ⟨router, there⟩ := Option.isSome_iff_exists.mp mixer
  obtain ⟨start, shown, sound, out, loud⟩ := built.shows
  obtain ⟨state, shows, reached⟩ := session.advances shown sound
  have fresh : start.mic.Follows {} := by
    refine ⟨out, nofun, fun silent => ?_⟩
    rw [show start.mic.muted = false from loud] at silent
    cases silent
  have follows : state.mic.Follows (CallRecord.of operations) := by
    rw [reached.mic]
    exact fresh.foldl operations
  obtain ⟨same, silent⟩ : state.hardware.router = some router ∧ state.hardware.muted = true := by
    rw [← shows.core_eq]
    exact ⟨there, muted⟩
  have off : ∀ lane, last.machine.isOff lane = router.disabled.get lane := by
    intro lane
    unfold Machine.isOff
    rw [there]
    rfl
  have capture : state.mic.captureOff = some router.disabled.capture := by
    unfold Machine.mic
    rw [same]
    rfl
  rw [off, off]
  refine ⟨(reached.sound.proper router same).uplink.trans silent, ?_⟩
  change router.disabled.capture = true ↔ _
  rw [follows.capture silent _ capture, Bool.or_eq_true, Bool.not_eq_true']

/-- Microphones that were muted ahead of a call that is over. -/
def Run.mutedCall : Run :=
  ((Run.stock.next (.setMuted true)).next (.setMode .inCall)).next (.setMode .normal)

/-- The microphone was muted before a call. -/
theorem Session.mutedCall : Session Run.stock
    [.setMuted true, .setMode .inCall, .setMode .normal] Run.mutedCall := by
  have muted : Session Run.stock [.setMuted true] (Run.stock.next (.setMuted true)) :=
    Session.start.next _ (by decide +kernel)
  have called : Session Run.stock [.setMuted true, .setMode .inCall]
      ((Run.stock.next (.setMuted true)).next (.setMode .inCall)) :=
    muted.next _ (by decide +kernel)
  exact called.next _ (by decide +kernel)

/-- The capture lane is on again, and the uplink is still off. -/
theorem Session.muted_lanes_mutedCall :
    Run.mutedCall.machine.isOff .uplink = true ∧
      (Run.mutedCall.machine.isOff .capture = true ↔
        (CallRecord.of [.setMuted true, .setMode .inCall, .setMode .normal]).inCall = true ∨
        (CallRecord.of [.setMuted true, .setMode .inCall, .setMode .normal]).sinceMute = false) :=
  Session.muted_lanes Run.built_stock Session.mutedCall (by decide +kernel) (by decide +kernel)

/-- The end of a call turns muted microphones on. -/
theorem Session.not_muteHolds : ¬ ∀ (first last : Run) (operations : List Operation),
    first.Built → Session first operations last →
      last.machine.hardware.router.isSome = true → last.machine.MuteHolds := by
  intro holds
  have kept := holds _ _ _ Run.built_stock Session.mutedCall (by decide +kernel)
  have on : Run.mutedCall.machine.isOff .capture = false := by decide +kernel
  rw [(kept (by decide +kernel)).2] at on
  cases on

end PhoneAudio
