import PhoneAudio.Handset.Lifecycle
import PhoneAudio.Proofs.Handset.Control

/-!
# Building, opening, closing and dropping and the core

A new stream is open and in standby. A stream that is closed goes to standby and leaves the audio
hardware, and dropping the audio hardware closes one stream after the other
(`PhoneAudio.Act.leads_dropHardware`). All of this proceeds in steps, whatever it finds.
-/

namespace PhoneAudio

/-- The stream after it was closed for good. -/
def Stream.detached (stream : Stream) : Stream :=
  { stream with status := { stream.status with detached := true } }

namespace Machine

/-- The state with a new stream. -/
def joined (machine : Machine) (stream : Stream) : Machine :=
  let id := machine.streams.length
  { machine with
    streams := machine.streams ++ [stream]
    hardware :=
      match stream.direction with
      | .playback => { machine.hardware with output := some id }
      | .capture => { machine.hardware with inputs := machine.hardware.inputs ++ [id] } }

/-- A state that a fresh stream was added to. -/
def Joins (machine after : Machine) : Prop :=
  ∃ stream : Stream, stream.status = {} ∧ stream.pcm = none ∧
    (stream.direction = .playback → machine.hardware.output = none) ∧
      after = machine.joined stream

/-- The state with a stream taken out of the audio hardware. -/
def removed (machine : Machine) (id : StreamId) : Machine :=
  machine.govern fun hardware =>
    { hardware with
      output := hardware.output.filter (· ≠ id)
      inputs := hardware.inputs.erase id }

/-- The state with a stream closed for good. -/
def retired (machine : Machine) (id : StreamId) : Machine :=
  (machine.adjust id Stream.detached).slept id

/-- The state with other streams open. -/
def offering (machine : Machine) (output : Option StreamId) (inputs : List StreamId) : Machine :=
  machine.govern fun hardware => { hardware with output := output, inputs := inputs }

/-- The state without audio hardware. -/
def gone (machine : Machine) : Machine :=
  machine.govern fun hardware => { hardware with present := false, router := none }

variable {machine : Machine} {exempt : List StreamId}

/-- A stream that joins leaves those before it. -/
theorem stream_joined (machine : Machine) (stream : Stream) {id : StreamId}
    (inside : id < machine.streams.length) :
    (machine.joined stream).stream id = machine.stream id :=
  List.getD_append _ _ _ _ inside

theorem stream_joined_self (machine : Machine) (stream : Stream) :
    (machine.joined stream).stream machine.streams.length = stream := by
  unfold Machine.stream joined
  dsimp only
  rw [List.getD_append_right _ _ _ _ (Nat.le_refl _), Nat.sub_self, List.getD_cons_zero]

theorem length_joined (machine : Machine) (stream : Stream) :
    (machine.joined stream).streams.length = machine.streams.length + 1 :=
  List.length_append

/-- What is open once a stream has joined is what was open, and the new stream. -/
theorem isOpen_joined (machine : Machine) {stream : Stream} (id : StreamId)
    (vacant : stream.direction = .playback → machine.hardware.output = none) :
    (machine.joined stream).isOpen id =
      (machine.isOpen id || decide (id = machine.streams.length)) := by
  unfold isOpen joined
  cases direction : stream.direction with
  | playback =>
      rw [vacant direction]
      simp [eq_comm, Bool.or_comm]
  | capture => simp [Bool.or_assoc]

/-- A stream afterwards is one from before or the new one. -/
theorem joined_cases (machine : Machine) (stream : Stream) {id : StreamId}
    (inside : id < (machine.joined stream).streams.length) :
    id < machine.streams.length ∧ (machine.joined stream).stream id = machine.stream id ∨
      id = machine.streams.length ∧ (machine.joined stream).stream id = stream := by
  rw [length_joined] at inside
  by_cases before : id < machine.streams.length
  · exact .inl ⟨before, machine.stream_joined stream before⟩
  · have last := Nat.le_antisymm (Nat.lt_succ_iff.mp inside) (Nat.le_of_not_lt before)
    exact .inr ⟨last, last ▸ machine.stream_joined_self stream⟩

/-- Opening a stream changes the list of open streams only. -/
theorem hardware_joined (machine : Machine) (stream : Stream) :
    { (machine.joined stream).hardware with output := none, inputs := [] } =
      { machine.hardware with output := none, inputs := [] } := by
  unfold joined
  cases stream.direction <;> rfl

section Joined

variable {stream : Stream} (sound : machine.Sound exempt)
include sound

/-- The playback stream is there once a stream has joined. -/
theorem Sound.output_joined {id : StreamId}
    (output : (machine.joined stream).hardware.output = some id) :
    id < (machine.joined stream).streams.length ∧
      ((machine.joined stream).stream id).direction = .playback := by
  rw [length_joined]
  unfold Machine.joined at output
  cases way : stream.direction with
  | playback =>
      simp only [way, Option.some.injEq] at output
      rw [← output, machine.stream_joined_self stream]
      exact ⟨Nat.lt_succ_self _, way⟩
  | capture =>
      simp only [way] at output
      obtain ⟨inside, direction⟩ := sound.output id output
      rw [machine.stream_joined stream inside]
      exact ⟨Nat.lt_succ_of_lt inside, direction⟩

/-- The capture streams are there once a stream has joined. -/
theorem Sound.inputs_joined {id : StreamId}
    (member : id ∈ (machine.joined stream).hardware.inputs) :
    id < (machine.joined stream).streams.length ∧
      ((machine.joined stream).stream id).direction = .capture := by
  rw [length_joined]
  have old : id ∈ machine.hardware.inputs → id < machine.streams.length + 1 ∧
      ((machine.joined stream).stream id).direction = .capture := by
    intro member
    obtain ⟨inside, direction⟩ := sound.inputs id member
    rw [machine.stream_joined stream inside]
    exact ⟨Nat.lt_succ_of_lt inside, direction⟩
  unfold Machine.joined at member
  cases way : stream.direction with
  | playback =>
      simp only [way] at member
      exact old member
  | capture =>
      simp only [way, List.mem_append, List.mem_singleton] at member
      obtain before | last := member
      · exact old before
      · rw [last, machine.stream_joined_self stream]
        exact ⟨Nat.lt_succ_self _, way⟩

/-- No capture stream is listed twice. -/
theorem Sound.nodup_joined : (machine.joined stream).hardware.inputs.Nodup := by
  unfold Machine.joined
  cases stream.direction with
  | playback => exact sound.nodup
  | capture =>
      refine List.nodup_append.mpr ⟨sound.nodup, List.pairwise_singleton .., ?_⟩
      intro id member other last same
      rw [List.mem_singleton] at last
      rw [same, last] at member
      exact Nat.lt_irrefl _ (sound.inputs _ member).1

end Joined

/-- A new stream is open and in standby. -/
theorem Sound.joined {stream : Stream} (sound : machine.Sound [])
    (present : machine.hardware.present = true) (fresh : stream.status = {})
    (empty : stream.pcm = none)
    (vacant : stream.direction = .playback → machine.hardware.output = none) :
    (machine.joined stream).Sound [] := by
  have hardware := machine.hardware_joined stream
  have router : (machine.joined stream).hardware.router = machine.hardware.router :=
    congrArg (fun hardware => hardware.router) hardware
  have inCall : (machine.joined stream).hardware.inCall = machine.hardware.inCall :=
    congrArg (fun hardware => hardware.inCall) hardware
  refine ⟨?_, ?_, ?_, ?_, fun _ => sound.output_joined, fun _ => sound.inputs_joined,
    sound.nodup_joined, ?_, ?_, ?_, ?_⟩
  · intro id inside away
    obtain ⟨before, same⟩ | ⟨-, new⟩ := machine.joined_cases stream inside
    · rw [same]
      exact sound.quiet id before away
    · rw [new, fresh, empty]
      rfl
  · intro id inside
    obtain ⟨before, same⟩ | ⟨-, new⟩ := machine.joined_cases stream inside
    · rw [same]
      exact sound.closed id before
    · rw [new, fresh]
      exact fun _ => rfl
  · intro id inside
    obtain ⟨before, same⟩ | ⟨-, new⟩ := machine.joined_cases stream inside
    · rw [same]
      exact sound.calm id before
    · rw [new, fresh]
  · intro id inside
    rw [machine.isOpen_joined id vacant]
    obtain ⟨before, same⟩ | ⟨last, new⟩ := machine.joined_cases stream inside
    · rw [same, sound.attached id before, decide_eq_false (Nat.ne_of_lt before), Bool.or_false]
    · rw [new, fresh, decide_eq_true last, Bool.or_true]
      rfl
  · intro absent
    have kept : (machine.joined stream).hardware.present = machine.hardware.present :=
      congrArg (fun hardware => hardware.present) hardware
    rw [kept, present] at absent
    cases absent
  · have mode : (machine.joined stream).hardware.mode = machine.hardware.mode :=
      congrArg (fun hardware => hardware.mode) hardware
    rw [inCall, mode]
    exact sound.called
  · intro other there
    rw [router] at there
    exact (sound.proper other there).of_eq inCall
      (congrArg (fun hardware => hardware.muted) hardware)
      (congrArg (fun hardware => hardware.callVolume) hardware)
  · intro other there audible
    rw [router] at there
    obtain ⟨id, output, awake⟩ := sound.playing other there audible
    refine ⟨id, ?_, ?_⟩
    · unfold Machine.joined
      cases way : stream.direction with
      | playback =>
          rw [vacant way] at output
          cases output
      | capture => exact output
    · rw [machine.stream_joined stream (sound.output id output).1]
      exact awake

/-! ## Closing -/

/-- What is open once a stream was removed is what was open, but the stream. -/
theorem isOpen_removed (machine : Machine) (id other : StreamId)
    (nodup : machine.hardware.inputs.Nodup) :
    (machine.removed id).isOpen other = (machine.isOpen other && decide (other ≠ id)) := by
  unfold isOpen removed govern
  rw [Bool.eq_iff_iff]
  simp only [Bool.or_eq_true, Bool.and_eq_true, decide_eq_true_eq, List.contains_iff_mem,
    Option.filter_eq_some_iff, nodup.mem_erase_iff]
  rw [or_and_right, and_comm (a := other ≠ id)]

/-- Removing a stream that is closed changes nothing. -/
theorem removed_of_closed (machine : Machine) {id : StreamId} (closed : machine.isOpen id = false) :
    machine.removed id = machine := by
  unfold isOpen at closed
  rw [Bool.or_eq_false_iff, decide_eq_false_iff_not, ← Bool.not_eq_true,
    List.contains_iff_mem] at closed
  have output : machine.hardware.output.filter (· ≠ id) = machine.hardware.output := by
    cases filled : machine.hardware.output with
    | none => rfl
    | some other =>
        refine Option.filter_eq_some_iff.mpr ⟨rfl, decide_eq_true ?_⟩
        rintro rfl
        exact closed.1 filled
  have inputs : machine.hardware.inputs.erase id = machine.hardware.inputs :=
    List.erase_of_not_mem closed.2
  unfold removed govern
  dsimp only
  rw [output, inputs]

/-- A stream in standby leaves the audio hardware. -/
theorem Sound.withdrawn {id : StreamId} (sound : machine.Sound [])
    (inactive : (machine.stream id).isActive = false) :
    ((machine.removed id).adjust id Stream.detached).Sound [] := by
  have length : ((machine.removed id).adjust id Stream.detached).streams.length =
      machine.streams.length := length_adjust _ _ _
  have isOpen := fun other => machine.isOpen_removed id other sound.nodup
  have ties : ∀ other,
      (((machine.removed id).adjust id Stream.detached).stream other).direction =
          (machine.stream other).direction ∧
        (((machine.removed id).adjust id Stream.detached).stream other).pcm =
          (machine.stream other).pcm ∧
        (((machine.removed id).adjust id Stream.detached).stream other).status.standby =
          (machine.stream other).status.standby ∧
        (((machine.removed id).adjust id Stream.detached).stream other).status.lockWanted =
          (machine.stream other).status.lockWanted := by
    intro other
    obtain ⟨-, changed⟩ | same := (machine.removed id).stream_adjust_cases id other Stream.detached
    · rw [changed]
      exact ⟨rfl, rfl, rfl, rfl⟩
    · rw [same]
      exact ⟨rfl, rfl, rfl, rfl⟩
  refine ⟨?_, ?_, ?_, ?_, ?_, ?_, sound.nodup.erase id, ?_, sound.called, ?_, ?_⟩
  · intro other inside away
    rw [(ties other).2.1, (ties other).2.2.1]
    exact sound.quiet other (length ▸ inside) away
  · intro other inside detached
    rw [(ties other).2.2.1]
    by_cases same : other = id
    · rw [same]
      simpa [Stream.isActive] using inactive
    · rw [stream_adjust_of_ne _ _ same] at detached
      exact sound.closed other (length ▸ inside) detached
  · intro other inside
    rw [(ties other).2.2.2]
    exact sound.calm other (length ▸ inside)
  · intro other inside
    rw [isOpen_adjust, isOpen]
    by_cases same : other = id
    · subst same
      rw [stream_adjust _ _ (length ▸ inside)]
      simp [Stream.detached]
    · rw [stream_adjust_of_ne _ _ same, decide_eq_true same, Bool.and_true]
      exact sound.attached other (length ▸ inside)
  · intro other output
    rw [length, (ties other).1]
    exact sound.output other (Option.filter_eq_some_iff.mp output).1
  · intro other member
    rw [length, (ties other).1]
    exact sound.inputs other (List.mem_of_mem_erase member)
  · intro absent
    obtain ⟨output, inputs⟩ := sound.dropped absent
    change machine.hardware.output.filter (· ≠ id) = none ∧ machine.hardware.inputs.erase id = []
    rw [output, inputs]
    exact ⟨rfl, rfl⟩
  · exact fun router there => (sound.proper router there).of_eq rfl rfl rfl
  · intro router there audible
    obtain ⟨active, output, awake⟩ := sound.playing router there audible
    have playing := awake.resolve_left List.not_mem_nil
    have different : active ≠ id := by
      rintro rfl
      rw [inactive] at playing
      cases playing
    refine ⟨active, Option.filter_eq_some_iff.mpr ⟨output, decide_eq_true different⟩, .inr ?_⟩
    rw [stream_adjust_of_ne _ _ different]
    exact playing

/-- Closing a stream for good is the same as putting it to standby first. -/
theorem retired_removed (machine : Machine) (id : StreamId) :
    (machine.removed id).retired id =
      ((machine.slept id).removed id).adjust id Stream.detached := by
  have slept : (machine.removed id).slept id = (machine.slept id).removed id :=
    machine.slept_govern id fun _ _ => rfl
  rw [← slept]
  unfold retired Machine.slept
  rw [unrouted_adjust, adjust_adjust, adjust_adjust]
  · rfl
  · exact fun _ => rfl

/-- **Closing.** A stream that is closed for good leaves a sound state. -/
theorem Sound.retired {id : StreamId} (sound : machine.Sound [])
    (isOpen : machine.isOpen id = true) : ((machine.removed id).retired id).Sound [] := by
  have exempted : machine.Sound [id] := sound.weaken nofun
  rw [retired_removed]
  refine exempted.slept.withdrawn ?_
  rw [stream_congr (machine.streams_slept id),
    stream_adjust _ _ (sound.inside_of_isOpen isOpen)]
  rfl

/-! ## Dropping -/

/-- Retiring a stream leaves which streams are offered. -/
theorem retired_offering (machine : Machine) (id : StreamId) (output : Option StreamId)
    (inputs : List StreamId) :
    (machine.offering output inputs).retired id = (machine.retired id).offering output inputs := by
  change ((machine.adjust id Stream.detached).offering output inputs).slept id = _
  unfold offering
  rw [slept_govern _ _ fun _ _ => rfl]
  rfl

/-- A stream that is to be closed, as long as others still are to be. -/
theorem Sound.offering_retired {id : StreamId} {output : Option StreamId} {inputs : List StreamId}
    (sound : (machine.offering output inputs).Sound [])
    (isOpen : (machine.offering output inputs).isOpen id = true) :
    ((machine.retired id).offering (output.filter (· ≠ id)) (inputs.erase id)).Sound [] := by
  rw [← retired_offering]
  exact sound.retired isOpen

/-- Retiring a stream leaves the desk. -/
theorem desk_retired (machine : Machine) (id : StreamId) :
    (machine.retired id).desk = machine.desk :=
  desk_slept _ id

theorem length_retired (machine : Machine) (id : StreamId) :
    (machine.retired id).streams.length = machine.streams.length := by
  unfold retired
  rw [streams_slept, length_adjust, length_adjust]

/-- Where nothing is offered, there is nothing to take back. -/
theorem offering_of_vacant
    (vacant : machine.hardware.output = none ∧ machine.hardware.inputs = []) :
    machine.offering none [] = machine := by
  obtain ⟨settings, hardware, streams, drivers⟩ := machine
  obtain ⟨present, locked, router, links, activity, output, inputs, rest⟩ := hardware
  obtain ⟨output, inputs⟩ := vacant
  subst output inputs
  rfl

theorem vacant_retired (machine : Machine) (id : StreamId)
    (vacant : machine.hardware.output = none ∧ machine.hardware.inputs = []) :
    (machine.retired id).hardware.output = none ∧ (machine.retired id).hardware.inputs = [] := by
  have same := machine.desk_retired id
  exact ⟨(congrArg (fun desk => desk.1.output) same).trans vacant.1,
    (congrArg (fun desk => desk.1.inputs) same).trans vacant.2⟩

/-- The audio hardware goes once no stream is open. -/
theorem Sound.gone (sound : machine.Sound exempt) (output : machine.hardware.output = none)
    (inputs : machine.hardware.inputs = []) : machine.gone.Sound exempt :=
  sound.regoverned rfl rfl rfl (fun _ => ⟨output, inputs⟩) sound.called nofun nofun

end Machine

namespace Act

variable {state : Machine}

/-- A stream that is added comes last. -/
theorem leads_addStream {stream : Stream} (empty : stream.pcm = none) :
    Leads Run.Shows (addStream stream) state fun id after => id = state.streams.length ∧
      after = { state with streams := state.streams ++ [stream.core] } := by
  refine fun run shown => ⟨_, ⟨?_, ?_⟩, ?_, rfl⟩
  · rw [← shown.core_eq]
    exact congrArg (Machine.mk _ _ · _) (List.map_append ..)
  · have vacant : stream.core.pcm = none := empty
    exact shown.tallied.append vacant
  · rw [← shown.core_eq]
    exact (List.length_map ..).symm

/-- A playback stream that is made is fresh. -/
theorem newPlayback_fresh {settings : Settings} {devices : Devices} {request : FormatRequest}
    {stream : Stream} (made : Stream.newPlayback settings devices request = .ok stream) :
    stream.direction = .playback ∧ stream.status = {} ∧ stream.pcm = none := by
  unfold Stream.newPlayback at made
  split at made
  · cases made
    exact ⟨rfl, rfl, rfl⟩
  · cases made

/-- A new capture stream is in standby without a PCM. -/
theorem newCapture_fresh {settings : Settings} {devices : Devices} {request : FormatRequest}
    {stream : Stream} (made : Stream.newCapture settings devices request = .ok stream) :
    stream.direction = .capture ∧ stream.status = {} ∧ stream.pcm = none := by
  unfold Stream.newCapture at made
  dsimp only at made
  split at made
  · cases pipeline : Pipeline.ofFormat request.resolved settings.capturePeriod.toNat with
    | error error =>
        rw [pipeline] at made
        cases made
    | ok pipeline =>
        rw [pipeline] at made
        cases made
        exact ⟨rfl, rfl, rfl⟩
  · cases made

/-- Opening for playback leads to a stream that joins, or to nothing. -/
theorem leads_openPlayback (devices : Devices) (request : FormatRequest) :
    Leads Run.Shows (openPlayback devices request) state fun _ after =>
      after = state ∨ state.Joins after := by
  refine leads_withHardware (leads_hardware.read fun read same => ?_)
  have output : read.output = state.hardware.output := congrArg (fun h => h.output) same
  split
  · exact leads_pure _ (.inl rfl)
  rename_i vacant
  rw [output, Option.not_isSome_iff_eq_none] at vacant
  refine leads_machine.read fun machine _ => ?_
  cases made : Stream.newPlayback machine.settings devices request with
  | error error => exact leads_pure _ (.inl rfl)
  | ok stream =>
      obtain ⟨way, fresh, empty⟩ := newPlayback_fresh made
      have joined : state.joined stream.core = ({ state with
          streams := state.streams ++ [stream.core] }).govern fun hardware =>
            { hardware with output := some state.streams.length } := by
        have playback : stream.core.direction = .playback := way
        unfold Machine.joined
        rw [playback]
        rfl
      refine (leads_addStream empty).bind ?_
      rintro _ _ ⟨rfl, rfl⟩
      refine (leads_govern ?_ ?_).then fun _ => leads_pure _ (.inr ?_)
      · exact fun _ => rfl
      · exact fun _ => rfl
      · exact ⟨stream.core, fresh, empty, fun _ => vacant, joined.symm⟩

/-- Opening for capture leads to a stream that joins, or to nothing. -/
theorem leads_openCapture (devices : Devices) (request : FormatRequest) :
    Leads Run.Shows (openCapture devices request) state fun _ after =>
      after = state ∨ state.Joins after := by
  unfold openCapture
  split
  · refine leads_withHardware (leads_machine.read fun machine _ => ?_)
    cases made : Stream.newCapture machine.settings devices request with
    | error error => exact leads_pure _ (.inl rfl)
    | ok stream =>
        obtain ⟨way, fresh, empty⟩ := newCapture_fresh made
        have capture : stream.core.direction = .capture := way
        have joined : state.joined stream.core = ({ state with
            streams := state.streams ++ [stream.core] }).govern fun hardware =>
              { hardware with inputs := hardware.inputs ++ [state.streams.length] } := by
          unfold Machine.joined
          rw [capture]
          rfl
        refine (leads_addStream empty).bind ?_
        rintro _ _ ⟨rfl, rfl⟩
        refine (leads_govern ?_ ?_).then fun _ => leads_pure _ (.inr ?_)
        · exact fun _ => rfl
        · exact fun _ => rfl
        · refine ⟨stream.core, fresh, empty, ?_, joined.symm⟩
          rw [capture]
          exact nofun
  · exact leads_pure _ (.inl rfl)

/-- **Opening.** A stream that opens is a new one, and otherwise nothing changes. -/
theorem leads_openStream (direction : Direction) (devices : Devices) (request : FormatRequest) :
    Leads Run.Shows (openStream direction devices request) state fun _ after =>
      after = state ∨ state.Joins after := by
  cases direction with
  | playback => exact leads_openPlayback devices request
  | capture => exact leads_openCapture devices request

/-- Taking a stream out says whether it was open. -/
theorem leads_takeOut (id : StreamId) :
    Leads Run.Shows (takeOut id) state fun isThere after =>
      isThere = state.isOpen id ∧ after = state.removed id := by
  refine leads_withHardware (leads_machine.read fun read same => ?_)
  have isThere : read.isOpen id = state.isOpen id := by
    rw [← same]
    rfl
  refine (leads_govern ?_ ?_).then fun _ => leads_pure _ ⟨isThere, rfl⟩
  · exact fun _ => rfl
  · exact fun _ => rfl

/-- Retiring a stream asks for its lock and puts it to standby. -/
theorem leads_retire {id : StreamId} (present : state.hardware.present = true)
    (calm : (state.stream id).status.lockWanted = false) :
    Leads Run.Shows (retire id) state fun _ after => after = state.retired id := by
  refine (leads_changeStatus id _).then fun _ => ?_
  have still : ((state.adjust id Stream.detached).stream id).status.lockWanted = false := by
    rw [← calm]
    exact Machine.view_adjust (fun stream => stream.status.lockWanted) state id id fun _ => rfl
  refine (leads_standby id still).bind ?_
  rintro _ _ rfl
  exact leads_pure _ (if_pos present)

/-- **Closing.** A stream that is open is closed for good, and any other is refused. -/
theorem leads_close {id : StreamId} (sound : state.Sound [])
    (present : state.hardware.present = true) :
    Leads Run.Shows (close id) state fun _ after =>
      after = if state.isOpen id then (state.removed id).retired id else state := by
  refine (leads_takeOut id).bind ?_
  rintro _ _ ⟨rfl, rfl⟩
  cases isOpen : state.isOpen id with
  | true =>
      have there : (state.removed id).hardware.present = true := present
      have calm : ((state.removed id).stream id).status.lockWanted = false :=
        sound.calm id (sound.inside_of_isOpen isOpen)
      rw [if_pos rfl, if_pos rfl]
      exact (leads_retire there calm).then fun _ => leads_pure _ rfl
  | false =>
      rw [Machine.removed_of_closed _ isOpen]
      exact (leads_stream id).read fun _ _ => leads_pure _ rfl

/-- Closing a stream that is to be closed, and then the others. -/
theorem leads_retireAll_cons {output : Option StreamId} {inputs : List StreamId} {id : StreamId}
    {rest : List StreamId} (sound : (state.offering output inputs).Sound [])
    (isOpen : (state.offering output inputs).isOpen id = true)
    (present : state.hardware.present = true)
    (next : Leads Run.Shows (retireAll rest) (state.retired id) fun _ after =>
      (state.retired id).Follows [] after) :
    Leads Run.Shows (retireAll (id :: rest)) state fun _ after => state.Follows [] after := by
  have calm := sound.calm id (sound.inside_of_isOpen isOpen)
  refine (leads_retire present calm).then fun _ => next.mono fun _ after follows => ?_
  exact ⟨follows.sound, follows.desk.trans (state.desk_retired id),
    follows.length.trans (state.length_retired id)⟩

/-- Streams that are to be closed are closed one after the other. -/
theorem leads_retireAll {output : Option StreamId} {inputs : List StreamId}
    (sound : (state.offering output inputs).Sound []) (present : state.hardware.present = true)
    (vacant : state.hardware.output = none ∧ state.hardware.inputs = []) :
    Leads Run.Shows (retireAll (inputs ++ output.toList)) state fun _ after =>
      state.Follows [] after := by
  -- a stream that is closed is no longer to be closed, and the others still are
  induction inputs generalizing state with
  | nil =>
      cases output with
      | none =>
          rw [Machine.offering_of_vacant vacant] at sound
          exact leads_pure _ sound.follows
      | some id =>
          have isOpen : (state.offering (some id) []).isOpen id = true := by
            simp [Machine.isOpen, Machine.offering, Machine.govern]
          have settled := sound.offering_retired isOpen
          rw [List.erase_nil, Option.filter_some_neg (by simp),
            Machine.offering_of_vacant (state.vacant_retired id vacant)] at settled
          exact leads_retireAll_cons sound isOpen present (leads_pure _ settled.follows)
  | cons id rest ih =>
      have isOpen : (state.offering output (id :: rest)).isOpen id = true := by
        simp [Machine.isOpen, Machine.offering, Machine.govern]
      have kept : output.filter (· ≠ id) = output := by
        cases output with
        | none => rfl
        | some other =>
            refine Option.filter_some_pos (decide_eq_true ?_)
            rintro rfl
            have playback := (sound.output other rfl).2
            rw [(sound.inputs other (List.mem_cons_self ..)).2] at playback
            cases playback
      have settled := sound.offering_retired isOpen
      rw [kept, List.erase_cons_head] at settled
      have there : (state.retired id).hardware.present = true :=
        (congrArg (fun desk => desk.1.present) (state.desk_retired id)).trans present
      have next := ih settled there (state.vacant_retired id vacant)
      exact leads_retireAll_cons sound isOpen present next

/-- **Dropping.** All streams are closed, and the audio hardware goes. -/
theorem leads_dropHardware (sound : state.Sound []) (present : state.hardware.present = true) :
    Leads Run.Shows dropHardware state fun _ after => ∃ between : Machine,
      (state.offering none []).Follows [] between ∧ after = between.gone := by
  have take : Leads Run.Shows
      (withHardware do
        let hardware ← hardware
        changeHardware fun hardware => { hardware with output := none, inputs := [] }
        return hardware.inputs ++ hardware.output.toList)
      state fun streams after => after = state.offering none [] ∧
        streams = state.hardware.inputs ++ state.hardware.output.toList := by
    refine leads_withHardware (leads_hardware.read fun read same => ?_)
    refine (leads_govern ?_ ?_).then fun _ => leads_pure _ ⟨rfl, ?_⟩
    · exact fun _ => rfl
    · exact fun _ => rfl
    · rw [← same]
      rfl
  refine take.bind ?_
  rintro _ _ ⟨rfl, rfl⟩
  have offered : ((state.offering none []).offering state.hardware.output
      state.hardware.inputs).Sound [] := sound
  refine (leads_retireAll offered present ⟨rfl, rfl⟩).bind fun _ between follows => ?_
  refine (leads_govern ?_ ?_).then fun _ => (leads_govern ?_ ?_).then fun _ => ?_
  · exact fun _ => rfl
  · exact fun _ => rfl
  · exact fun _ => rfl
  · exact fun _ => rfl
  · refine (leads_closeLink .capture).then fun _ => (leads_closeLink .playback).mono ?_
    rintro _ _ rfl
    exact ⟨between, follows, rfl⟩

section Steps

variable {alone : Prop}

theorem aside_openPlayback (devices : Devices) (request : FormatRequest) :
    Aside (openPlayback devices request) := by
  refine aside_withHardware (stays_hardware.bind fun hardware => ?_)
  split
  · exact stays_pure _
  refine stays_machine.bind fun machine => ?_
  cases made : Stream.newPlayback machine.settings devices request with
  | error error => exact stays_pure _
  | ok stream =>
      refine (aside_addStream (newPlayback_fresh made).2.2).bind fun _ => ?_
      refine Stays.bind (wires_changeHardware ?_ ?_) fun _ => stays_pure _
      · exact fun _ => rfl
      · exact fun _ => rfl

theorem aside_openCapture (devices : Devices) (request : FormatRequest) :
    Aside (openCapture devices request) := by
  unfold openCapture
  split
  · refine aside_withHardware (stays_machine.bind fun machine => ?_)
    cases made : Stream.newCapture machine.settings devices request with
    | error error => exact stays_pure _
    | ok stream =>
        refine (aside_addStream (newCapture_fresh made).2.2).bind fun _ => ?_
        refine Stays.bind (wires_changeHardware ?_ ?_) fun _ => stays_pure _
        · exact fun _ => rfl
        · exact fun _ => rfl
  · exact stays_pure _

theorem aside_openStream (direction : Direction) (devices : Devices) (request : FormatRequest) :
    Aside (openStream direction devices request) := by
  cases direction with
  | playback => exact aside_openPlayback devices request
  | capture => exact aside_openCapture devices request

theorem aside_takeOut (id : StreamId) : Aside (takeOut id) := by
  refine aside_withHardware (stays_machine.bind fun _ => ?_)
  refine Stays.bind (wires_changeHardware ?_ ?_) fun _ => stays_pure _
  · exact fun _ => rfl
  · exact fun _ => rfl

theorem proceeds_retire (id : StreamId) : Proceeds alone (retire id) :=
  (aside_changeStatus id _).then fun _ => (proceeds_standby id).bind fun _ => proceeds_pure _

/-- Closing a stream proceeds. -/
theorem proceeds_close (id : StreamId) : Proceeds alone (close id) := by
  refine (aside_takeOut id).then fun isThere => ?_
  split
  · exact (proceeds_retire id).bind fun _ => proceeds_pure _
  · exact Aside.then (stays_stream id) fun _ => proceeds_pure _

theorem proceeds_retireAll (streams : List StreamId) : Proceeds alone (retireAll streams) := by
  induction streams with
  | nil => exact proceeds_pure _
  | cons id rest ih => exact (proceeds_retire id).bind fun _ => ih

/-- **Dropping** proceeds in steps: one stream after the other is closed, then the router goes. -/
theorem proceeds_dropHardware : Proceeds alone dropHardware := by
  refine Proceeds.bind (proceeds_withHardware ?_) fun streams => ?_
  · refine Aside.then stays_hardware fun _ => Aside.then (wires_changeHardware ?_ ?_) fun _ => ?_
    · exact fun _ => rfl
    · exact fun _ => rfl
    · exact proceeds_pure _
  · refine (proceeds_retireAll streams).bind fun _ => Aside.then (wires_changeHardware ?_ ?_) ?_
    · exact fun _ => rfl
    · exact fun _ => rfl
    · exact fun _ _ => .single .gone

end Steps

/-! ## Building -/

/-- Opening the router leads to a new one, or to none. -/
theorem leads_openRouter (tables : CodecTables) :
    Leads Run.Shows (openRouter tables) state fun _ after => after = state ∨
      after = state.govern fun hardware =>
        { hardware with router := some { tables := tables } } := by
  refine (leads_call _ _ _ fun _ => rfl).then fun opened => ?_
  cases opened with
  | error error => exact leads_pure _ (.inl rfl)
  | ok done =>
      refine (leads_govern ?_ ?_).then fun _ => (leads_takeSteps _).then fun _ => ?_
      · exact fun _ => rfl
      · exact fun _ => rfl
      · exact leads_pure _ (.inr rfl)

/-- **Building.** Audio hardware that is built has no streams, and its router, if it has one, is
fresh. -/
theorem leads_build (plan : Plan) :
    Leads Run.Shows (build plan) {} fun answer after => answer = .ok () →
      after = ⟨plan.settings, { present := true }, [], {}⟩ ∨
        after = ⟨plan.settings, { present := true, router := some { tables := plan.tables } }, [],
          {}⟩ := by
  unfold build
  cases plan.fault? with
  | some error => exact leads_pure _ nofun
  | none =>
      have settle : ∀ {state : Machine}, Leads Run.Shows
          (do
            change fun machine => { machine with settings := plan.settings }
            changeHardware fun hardware => { hardware with present := true }
            return .ok ())
          state fun (_ : Except AudioError Unit) after => after =
            { state with
              settings := plan.settings
              hardware := { state.hardware with present := true } } := by
        intro state run shown
        refine ⟨{ state with
          settings := plan.settings
          hardware := { state.hardware with present := true } }, ⟨?_, shown.tallied⟩, rfl⟩
        rw [← shown.core_eq]
        rfl
      refine (leads_openRouter plan.tables).bind ?_
      rintro _ _ (rfl | rfl)
      · exact settle.mono fun _ _ same _ => .inl same
      · exact settle.mono fun _ _ same _ => .inr same

end Act

/-- Audio hardware that was just built is in a sound state. -/
theorem Machine.sound_built (settings : Settings) (tables : Option CodecTables) :
    (Machine.mk settings
      { present := true, router := tables.map fun tables => { tables := tables } } [] {}).Sound
        [] := by
  refine ⟨nofun, nofun, nofun, nofun, nofun, nofun, .nil, nofun, rfl, ?_, ?_⟩
  · intro router there
    obtain ⟨tables, -, rfl⟩ := Option.map_eq_some_iff.mp there
    exact ⟨rfl, rfl, rfl, nofun, fun _ => ⟨rfl, rfl⟩, rfl, rfl⟩
  · intro router there audible
    obtain ⟨tables, -, rfl⟩ := Option.map_eq_some_iff.mp there
    exact absurd rfl audible

end PhoneAudio
