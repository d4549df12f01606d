import PhoneAudio.Handset.Operation
import PhoneAudio.Proofs.Handset.Lifecycle
import PhoneAudio.Proofs.Handset.Transfer

/-!
# Starting to capture

What the parts of operations do about capturing. Only waking a capture stream makes it capture, and
that puts no other capture stream to standby (`PhoneAudio.Machine.Admits`).
-/

namespace PhoneAudio

namespace Machine

/-- Whether a stream captures: it is open for capture and out of standby. -/
def Captures (machine : Machine) (id : StreamId) : Prop :=
  id ∈ machine.hardware.inputs ∧ (machine.stream id).isActive = true

variable {machine : Machine}

/-- No stream starts to capture. -/
def Restrains (before after : Machine) : Prop :=
  ∀ id, after.Captures id → before.Captures id

/-- Capture is restrained as long as no stream is added and none wakes. -/
theorem restrains_of_inputs {before after : Machine}
    (inputs : after.hardware.inputs = before.hardware.inputs)
    (active : ∀ id, (after.stream id).isActive = true → (before.stream id).isActive = true) :
    before.Restrains after :=
  fun id ⟨member, awake⟩ => ⟨inputs ▸ member, active id awake⟩

theorem inputs_of_desk {first second : Machine} (same : first.desk = second.desk) :
    first.hardware.inputs = second.hardware.inputs :=
  congrArg (fun desk => desk.1.inputs) same

/-- A new stream is in standby. -/
theorem Sound.restrains_joined (sound : machine.Sound []) {stream : Stream}
    (fresh : stream.status = {}) : machine.Restrains (machine.joined stream) := by
  intro id ⟨member, active⟩
  obtain ⟨inside, -⟩ := sound.inputs_joined member
  obtain ⟨before, same⟩ | ⟨-, same⟩ := machine.joined_cases stream inside
  · rw [same] at active
    refine ⟨?_, active⟩
    unfold Machine.joined at member
    cases way : stream.direction with
    | playback =>
        rw [way] at member
        exact member
    | capture =>
        rw [way] at member
        obtain old | new := List.mem_append.mp member
        · exact old
        · exact absurd (List.mem_singleton.mp new) (Nat.ne_of_lt before)
  · rw [same, Stream.isActive, fresh] at active
    cases active

/-- Putting a stream to standby restrains capture. -/
theorem restrains_slept (machine : Machine) (id : StreamId) :
    machine.Restrains (machine.slept id) :=
  restrains_of_inputs (inputs_of_desk (machine.desk_slept id)) fun _ => machine.isActive_slept

/-- A stream that is closed for good captures no more, and no other starts to. -/
theorem restrains_retired (machine : Machine) (id : StreamId) :
    machine.Restrains ((machine.removed id).retired id) := by
  intro other ⟨member, active⟩
  rw [inputs_of_desk ((machine.removed id).desk_retired id)] at member
  have awake := Machine.isActive_slept _ active
  have kept : (((machine.removed id).adjust id Stream.detached).stream other).isActive =
      ((machine.removed id).stream other).isActive :=
    view_adjust Stream.isActive _ id other fun _ => rfl
  exact ⟨List.mem_of_mem_erase member, kept.symm.trans awake⟩

theorem isActive_turned (machine : Machine) (id other : StreamId) (devices : Devices) :
    ((machine.adjust id (Stream.turned devices)).stream other).isActive =
      (machine.stream other).isActive :=
  view_adjust Stream.isActive machine id other fun _ => rfl

/-- Parameters wake no stream. -/
theorem isActive_tuned (machine : Machine) {id other : StreamId} {text : String}
    (active : ((machine.tuned id text).stream other).isActive = true) :
    (machine.stream other).isActive = true := by
  unfold tuned at active
  split at active
  · split at active
    · exact active
    · rename_i devices _
      unfold selected at active
      dsimp only at active
      split at active
      · exact active
      split at active
      · rw [stream_congr (streams_followed _ devices), isActive_turned] at active
        exact active
      split at active
      · exact active
      · rw [isActive_turned] at active
        exact machine.isActive_slept active
  · exact active

/-- Changing the mode wakes no stream. -/
theorem isActive_switched (machine : Machine) {mode : PhoneMode} {output input : Option StreamId}
    {id : StreamId} (active : ((machine.switched mode output input).stream id).isActive = true) :
    (machine.stream id).isActive = true := by
  have entered : ∀ machine : Machine, machine.entered.streams = machine.streams := fun _ => rfl
  have left : machine.left.streams = machine.streams := rfl
  have marked : ∀ (machine : Machine) (inCall : Bool), (machine.govern fun hardware =>
      { hardware with inCall := inCall }).streams = machine.streams := fun _ _ => rfl
  unfold switched at active
  split at active
  · exact active
  split at active
  · rw [stream_congr (marked _ true), stream_congr (entered _)] at active
    exact isActive_sleptIf _ (isActive_sleptIf _ active)
  · rw [stream_congr (marked _ false)] at active
    rw [← stream_congr left]
    exact isActive_sleptIf _ (isActive_sleptIf _ active)

/-- Muting wakes no stream. -/
theorem isActive_muted (machine : Machine) {muted : Bool} {id : StreamId}
    (active : ((machine.muted muted).stream id).isActive = true) :
    (machine.stream id).isActive = true := by
  have marked : (machine.withMute muted).streams = machine.streams := rfl
  rw [← stream_congr marked]
  unfold Machine.muted at active
  split at active
  · exact isActive_sleptIf _ active
  · exact active

theorem isActive_voiced (machine : Machine) (volume : Float32) (id : StreamId) :
    ((machine.voiced volume).stream id).isActive = (machine.stream id).isActive := by
  unfold voiced
  dsimp only
  split <;> rfl

/-- Waking a playback stream makes no stream capture. -/
theorem Rouses.restrains {before after : Machine} {id : StreamId} (sound : before.Sound [])
    (playback : (before.stream id).direction = .playback)
    (roused : before.Rouses id (before.active .capture) after) : before.Restrains after := by
  intro other ⟨member, active⟩
  rw [inputs_of_desk roused.desk] at member
  have capture := (sound.inputs other member).2
  refine ⟨member, ?_⟩
  by_cases sibling : before.active .capture = some other
  · exact (sound.active_cases sibling).2.2
  · rw [← roused.others other ?_ sibling]
    · exact active
    · rintro rfl
      rw [playback] at capture
      cases capture

/-- Waking a capture stream leaves the others capturing or not. -/
theorem Rouses.captures_iff {before after : Machine} {id other : StreamId} (sound : before.Sound [])
    (roused : before.Rouses id (before.active .playback) after) (ne : other ≠ id) :
    after.Captures other ↔ before.Captures other := by
  unfold Captures
  rw [inputs_of_desk roused.desk]
  refine and_congr_right fun member => ?_
  rw [roused.others other ne fun sibling => ?_]
  have capture := (sound.inputs other member).2
  rw [(sound.active_cases sibling).2.1] at capture
  cases capture

/-- What an operation does about capturing: it makes no stream capture but the one it reads from,
and a read leaves all other streams capturing. -/
structure Admits (before : Machine) (operation : Operation) (after : Machine) : Prop where
  starts : ∀ id, after.Captures id → before.Captures id ∨ ∃ buffer, operation = .read id buffer
  stays : ∀ id buffer, operation = .read id buffer → ∀ other ≠ id,
    before.Captures other → after.Captures other

/-- An operation that restrains capture is admitted, unless it is a read. -/
theorem Restrains.admits {before after : Machine} (restrains : before.Restrains after)
    {operation : Operation} (other : ∀ id buffer, operation ≠ .read id buffer) :
    before.Admits operation after :=
  ⟨fun id captures => .inl (restrains id captures),
    fun id buffer same => absurd same (other id buffer)⟩

/-- A read that wakes its stream is admitted as a read. -/
theorem Rouses.admits {before after : Machine} {id : StreamId} (sound : before.Sound [])
    (roused : before.Rouses id (before.active .playback) after) (buffer : List UInt8) :
    before.Admits (.read id buffer) after := by
  refine ⟨fun other captures => ?_, ?_⟩
  · by_cases same : other = id
    · exact .inr ⟨buffer, by rw [same]⟩
    · exact .inl ((roused.captures_iff sound same).mp captures)
  · rintro _ _ ⟨⟩ other ne captures
    exact (roused.captures_iff sound ne).mpr captures

end Machine

end PhoneAudio
