import PhoneAudio.Proofs.Handset.Standby
import PhoneAudio.Proofs.Routing.Proper

/-!
# Sound states

The states between operations (`PhoneAudio.Machine.Sound`): a stream is in standby exactly when it
has no PCM, closed streams are in standby, nobody waits for a stream, and the router follows the
mode and the streams. While an operation opens and closes streams, some are exempt: their standby
flag and their PCM may disagree. Closing a stream exempts it, and standby or leaving standby settles
it again.
-/

namespace PhoneAudio

namespace Machine

/-- What stream operations leave alone: the audio hardware but for its routes and volumes. -/
def desk (machine : Machine) : Hardware × Option (ByLane Bool) :=
  ({ machine.hardware with router := none }, machine.hardware.router.map Router.disabled)

/-- A state between operations, but for some streams that are being opened or closed. -/
structure Sound (exempt : List StreamId) (machine : Machine) : Prop where
  quiet : ∀ id < machine.streams.length, id ∉ exempt →
    (machine.stream id).status.standby = (machine.stream id).pcm.isNone
  closed : ∀ id < machine.streams.length, (machine.stream id).status.detached = true →
    (machine.stream id).status.standby = true
  calm : ∀ id < machine.streams.length, (machine.stream id).status.lockWanted = false
  attached : ∀ id < machine.streams.length,
    (machine.stream id).status.detached = !machine.isOpen id
  output : ∀ id, machine.hardware.output = some id →
    id < machine.streams.length ∧ (machine.stream id).direction = .playback
  inputs : ∀ id ∈ machine.hardware.inputs,
    id < machine.streams.length ∧ (machine.stream id).direction = .capture
  nodup : machine.hardware.inputs.Nodup
  dropped : machine.hardware.present = false →
    machine.hardware.output = none ∧ machine.hardware.inputs = []
  called : machine.hardware.inCall = decide (machine.hardware.mode = .inCall)
  proper : ∀ router, machine.hardware.router = some router → router.Proper machine.hardware
  playing : ∀ router, machine.hardware.router = some router → router.routes.playback ≠ .none →
    ∃ id, machine.hardware.output = some id ∧
      (id ∈ exempt ∨ (machine.stream id).isActive = true)

variable {machine : Machine} {exempt : List StreamId}

/-- What is open is the playback stream or one of the capture streams. -/
theorem Sound.isOpen_cases (sound : machine.Sound exempt) {id : StreamId}
    (isOpen : machine.isOpen id = true) :
    (machine.stream id).direction = .playback ∧ machine.hardware.output = some id ∨
      (machine.stream id).direction = .capture ∧ id ∈ machine.hardware.inputs := by
  unfold Machine.isOpen at isOpen
  rw [Bool.or_eq_true, decide_eq_true_eq, List.contains_iff_mem] at isOpen
  obtain output | input := isOpen
  · exact .inl ⟨(sound.output id output).2, output⟩
  · exact .inr ⟨(sound.inputs id input).2, input⟩

/-- What is open is there. -/
theorem Sound.inside_of_isOpen (sound : machine.Sound exempt) {id : StreamId}
    (isOpen : machine.isOpen id = true) : id < machine.streams.length := by
  obtain ⟨-, output⟩ | ⟨-, input⟩ := sound.isOpen_cases isOpen
  · exact (sound.output id output).1
  · exact (sound.inputs id input).1

/-- Without audio hardware no stream is open. -/
theorem Sound.isOpen_of_absent (sound : machine.Sound exempt)
    (absent : machine.hardware.present = false) (id : StreamId) : machine.isOpen id = false := by
  obtain ⟨output, inputs⟩ := sound.dropped absent
  unfold Machine.isOpen
  rw [output, inputs]
  rfl

/-- A change to a stream that keeps its direction and its ties, and settles it unless it is exempt
afterwards. -/
theorem Sound.adjust (sound : machine.Sound exempt) {id : StreamId} {f : Stream → Stream}
    {others : List StreamId} (kept : ∀ stream, (f stream).direction = stream.direction ∧
      (f stream).status.detached = stream.status.detached ∧
      (f stream).status.lockWanted = stream.status.lockWanted)
    (still : ∀ other, other ≠ id → other ∈ exempt → other ∈ others)
    (quiet : id ∉ others → (f (machine.stream id)).status.standby =
      (f (machine.stream id)).pcm.isNone)
    (closed : id < machine.streams.length → (machine.stream id).status.detached = true →
      (f (machine.stream id)).status.standby = true)
    (playing : ∀ router, machine.hardware.router = some router →
      router.routes.playback ≠ .none → machine.hardware.output = some id →
      id ∈ others ∨ (f (machine.stream id)).isActive = true) :
    (machine.adjust id f).Sound others := by
  have length := machine.length_adjust id f
  have ties : ∀ other, ((machine.adjust id f).stream other).direction =
        (machine.stream other).direction ∧
      ((machine.adjust id f).stream other).status.detached =
        (machine.stream other).status.detached ∧
      ((machine.adjust id f).stream other).status.lockWanted =
        (machine.stream other).status.lockWanted := by
    intro other
    obtain ⟨-, changed⟩ | same := machine.stream_adjust_cases id other f
    · rw [changed]
      exact kept _
    · rw [same]
      exact ⟨rfl, rfl, rfl⟩
  refine ⟨?_, ?_, ?_, ?_, ?_, ?_, sound.nodup, sound.dropped, sound.called, sound.proper, ?_⟩
  · intro other inside settled
    rw [length] at inside
    by_cases same : other = id
    · subst same
      rw [machine.stream_adjust f inside]
      exact quiet settled
    · rw [machine.stream_adjust_of_ne f same]
      exact sound.quiet other inside fun member => settled (still other same member)
  · intro other inside detached
    rw [length] at inside
    rw [(ties other).2.1] at detached
    by_cases same : other = id
    · subst same
      rw [machine.stream_adjust f inside]
      exact closed inside detached
    · rw [machine.stream_adjust_of_ne f same]
      exact sound.closed other inside detached
  · intro other inside
    rw [length] at inside
    rw [(ties other).2.2]
    exact sound.calm other inside
  · intro other inside
    rw [length] at inside
    rw [(ties other).2.1]
    exact sound.attached other inside
  · intro other output
    rw [length, (ties other).1]
    exact sound.output other output
  · intro other member
    rw [length, (ties other).1]
    exact sound.inputs other member
  · intro router there routed
    obtain ⟨active, output, awake⟩ := sound.playing router there routed
    refine ⟨active, output, ?_⟩
    by_cases same : active = id
    · subst same
      rw [machine.stream_adjust f (sound.output active output).1]
      exact playing router there routed output
    · rw [machine.stream_adjust_of_ne f same]
      exact awake.imp_left (still active same)

/-- Setting a route changes the router alone. -/
theorem router_setRoute (machine : Machine) (lane : Lane) (endpoints : EndpointSet) :
    (machine.reroute (·.setRoute lane endpoints)).hardware.router =
      machine.hardware.router.map fun router => (router.setRoute lane endpoints).1 :=
  rfl

/-- A route that the mode allows may be set, as long as playback is for a stream that may play. -/
theorem Sound.setRoute (sound : machine.Sound exempt) {lane : Lane} {endpoints : EndpointSet}
    (allows : Router.Allows machine.hardware lane endpoints)
    (playing : lane = .playback → endpoints ≠ .none →
      ∃ id, machine.hardware.output = some id ∧
        (id ∈ exempt ∨ (machine.stream id).isActive = true)) :
    (machine.reroute (·.setRoute lane endpoints)).Sound exempt := by
  have routers : ∀ router,
      (machine.reroute (·.setRoute lane endpoints)).hardware.router = some router →
      ∃ before, machine.hardware.router = some before ∧ router = before.store lane endpoints ∧
        router.Proper machine.hardware := by
    intro router there
    rw [router_setRoute, Option.map_eq_some_iff] at there
    obtain ⟨before, present, rfl⟩ := there
    obtain ⟨stored, proper⟩ := (sound.proper before present).setRoute allows
    exact ⟨before, present, stored, proper⟩
  refine ⟨sound.quiet, sound.closed, sound.calm, sound.attached, sound.output, sound.inputs,
    sound.nodup, sound.dropped, sound.called, ?_, ?_⟩
  · intro router there
    obtain ⟨-, -, -, proper⟩ := routers router there
    exact proper.of_eq rfl rfl rfl
  · intro router there routed
    obtain ⟨before, present, rfl, -⟩ := routers router there
    by_cases same : lane = .playback
    · subst same
      exact playing rfl routed
    · have kept : (before.store lane endpoints).routes.playback = before.routes.playback := by
        cases lane <;> first | rfl | exact absurd rfl same
      rw [kept] at routed
      exact sound.playing before present routed

/-- Taking the route off a stream leaves a sound state. -/
theorem Sound.unrouted (sound : machine.Sound exempt) (id : StreamId) :
    (machine.unrouted id).Sound exempt := by
  unfold Machine.unrouted
  split
  · exact sound.setRoute (fun _ => rfl) fun _ some => absurd rfl some
  · exact sound

/-- A playback stream whose route was cleared plays nowhere. -/
theorem Sound.routes_unrouted (sound : machine.Sound exempt) {id : StreamId}
    (playback : (machine.stream id).direction = .playback) {router : Router}
    (there : (machine.unrouted id).hardware.router = some router) :
    router.routes.playback = .none := by
  unfold Machine.unrouted at there
  rw [if_pos playback, router_setRoute, Option.map_eq_some_iff] at there
  obtain ⟨before, present, rfl⟩ := there
  have none : Router.Allows machine.hardware .playback .none := fun _ => rfl
  rw [((sound.proper before present).setRoute none).1]
  rfl

theorem output_unrouted (machine : Machine) (id : StreamId) :
    (machine.unrouted id).hardware.output = machine.hardware.output := by
  unfold Machine.unrouted
  split <;> rfl

/-- Closing a stream exempts it. -/
theorem Sound.shut (sound : machine.Sound exempt) (id : StreamId) :
    (machine.shut id).Sound (id :: exempt) :=
  (sound.unrouted id).adjust (fun _ => ⟨rfl, rfl, rfl⟩)
    (fun _ _ => List.mem_cons_of_mem id) (fun away => absurd (List.mem_cons_self ..) away)
    ((sound.unrouted id).closed id) fun _ _ _ _ => .inl (List.mem_cons_self ..)

/-- Standby settles a stream. -/
theorem Sound.slept {id : StreamId} (sound : machine.Sound (id :: exempt)) :
    (machine.slept id).Sound exempt := by
  refine (sound.unrouted id).adjust (fun _ => ⟨rfl, rfl, rfl⟩) ?_ (fun _ => rfl)
    (fun _ _ => rfl) ?_
  · intro other different member
    exact List.mem_of_ne_of_mem different member
  · intro router there routed output
    rw [output_unrouted] at output
    exact absurd (sound.routes_unrouted (sound.output id output).2 there) routed

/-- A stream that may be in between may be given a PCM. -/
theorem Sound.fitted {id : StreamId} (sound : machine.Sound (id :: exempt)) (pcm : OpenPcm) :
    (machine.adjust id (Stream.fitted pcm)).Sound (id :: exempt) :=
  sound.adjust (fun _ => ⟨rfl, rfl, rfl⟩) (fun _ _ member => member)
    (fun away => absurd (List.mem_cons_self ..) away) (sound.closed id)
    fun _ _ _ _ => .inl (List.mem_cons_self ..)

theorem isOpen_adjust (machine : Machine) (id other : StreamId) (f : Stream → Stream) :
    (machine.adjust id f).isOpen other = machine.isOpen other :=
  rfl

/-- Routing an open stream that is exempt. -/
theorem Sound.routed {id : StreamId} (sound : machine.Sound exempt) (member : id ∈ exempt)
    (isOpen : machine.isOpen id = true) : (machine.routed id).Sound exempt := by
  unfold Machine.routed
  dsimp only
  split
  · rename_i playback
    split
    · exact sound
    · rename_i outside
      obtain ⟨-, output⟩ | ⟨capture, -⟩ := sound.isOpen_cases isOpen
      · refine sound.setRoute ?_ fun _ _ => ⟨id, output, .inl member⟩
        intro inCall
        rw [sound.called, decide_eq_true_eq] at inCall
        exact absurd inCall outside
      · rw [playback] at capture
        cases capture
  · exact sound.setRoute trivial nofun

/-- Opening an exempt stream that is still open leaves it exempt. -/
theorem Sound.opened {id : StreamId} (sound : machine.Sound (id :: exempt))
    (isOpen : machine.isOpen id = true) (pcm : OpenPcm) :
    (machine.opened id pcm).Sound (id :: exempt) :=
  (sound.fitted pcm).routed (List.mem_cons_self ..) isOpen

/-- A stream that is out of standby and has a PCM need not be exempt. -/
theorem Sound.settled {id : StreamId} (sound : machine.Sound (id :: exempt))
    (active : (machine.stream id).isActive = true) (pcm : (machine.stream id).pcm.isSome = true) :
    machine.Sound exempt := by
  have off : (machine.stream id).status.standby = false := by
    simpa [Stream.isActive] using active
  refine ⟨?_, sound.closed, sound.calm, sound.attached, sound.output, sound.inputs, sound.nodup,
    sound.dropped, sound.called, sound.proper, ?_⟩
  · intro other inside away
    by_cases same : other = id
    · subst same
      rw [off, Option.isNone_eq_false_iff.mpr pcm]
    · refine sound.quiet other inside fun member => away (List.mem_of_ne_of_mem same member)
  · intro router there routed
    obtain ⟨playing, output, awake⟩ := sound.playing router there routed
    refine ⟨playing, output, ?_⟩
    by_cases same : playing = id
    · subst same
      exact .inr active
    · exact awake.imp_left (List.mem_of_ne_of_mem same)

/-- A stream that has a PCM leaves standby. -/
theorem Sound.roused {id : StreamId} (sound : machine.Sound (id :: exempt))
    (isOpen : machine.isOpen id = true) (pcm : (machine.stream id).pcm.isSome = true) :
    (machine.adjust id fun stream =>
      { stream with status := { stream.status with standby := false } }).Sound exempt := by
  have inside := sound.inside_of_isOpen isOpen
  have exempted : (machine.adjust id fun stream =>
      { stream with status := { stream.status with standby := false } }).Sound (id :: exempt) := by
    refine sound.adjust (fun _ => ⟨rfl, rfl, rfl⟩) (fun _ _ member => member)
      (fun away => absurd (List.mem_cons_self ..) away) ?_
      fun _ _ _ _ => .inl (List.mem_cons_self ..)
    intro _ detached
    rw [sound.attached id inside, isOpen] at detached
    cases detached
  refine exempted.settled ?_ ?_
  · rw [machine.stream_adjust _ inside]
    rfl
  · rw [machine.stream_adjust _ inside]
    exact pcm

/-- More streams may be in between. -/
theorem Sound.weaken {others : List StreamId} (sound : machine.Sound exempt)
    (more : ∀ id ∈ exempt, id ∈ others) : machine.Sound others := by
  refine ⟨fun id inside away => sound.quiet id inside fun member => away (more id member),
    sound.closed, sound.calm, sound.attached, sound.output, sound.inputs, sound.nodup,
    sound.dropped, sound.called, sound.proper, ?_⟩
  intro router there routed
  obtain ⟨id, output, awake⟩ := sound.playing router there routed
  exact ⟨id, output, awake.imp_left (more id)⟩

/-- The active stream of a direction is open, has that direction and a PCM. -/
theorem Sound.active_cases (sound : machine.Sound []) {direction : Direction} {id : StreamId}
    (active : machine.active direction = some id) :
    machine.isOpen id = true ∧ (machine.stream id).direction = direction ∧
      (machine.stream id).isActive = true := by
  cases direction with
  | playback =>
      obtain ⟨output, awake⟩ := Option.filter_eq_some_iff.mp active
      refine ⟨?_, (sound.output id output).2, awake⟩
      unfold Machine.isOpen
      rw [output, decide_eq_true rfl, Bool.true_or]
  | capture =>
      have found : machine.hardware.inputs.find? (fun id => (machine.stream id).isActive) =
          some id := active
      have member := List.mem_of_find?_eq_some found
      have awake := List.find?_some found
      refine ⟨?_, (sound.inputs id member).2, awake⟩
      unfold Machine.isOpen
      rw [List.contains_iff_mem.mpr member, Bool.or_true]

/-- Rerouting leaves the desk, as long as it leaves what is disabled. -/
theorem desk_reroute (machine : Machine) {f : Router → Router × List RouteStep}
    (disabled : ∀ router, (f router).1.disabled = router.disabled) :
    (machine.reroute f).desk = machine.desk := by
  unfold desk Machine.reroute Machine.govern
  dsimp only
  rw [Option.map_map]
  congr 2
  funext router
  exact disabled router

theorem desk_setRoute (machine : Machine) (lane : Lane) (endpoints : EndpointSet) :
    (machine.reroute (·.setRoute lane endpoints)).desk = machine.desk :=
  machine.desk_reroute fun router => router.disabled_setRoute lane endpoints

theorem desk_unrouted (machine : Machine) (id : StreamId) :
    (machine.unrouted id).desk = machine.desk := by
  unfold unrouted
  split
  · exact machine.desk_setRoute _ _
  · rfl

theorem desk_shut (machine : Machine) (id : StreamId) : (machine.shut id).desk = machine.desk :=
  machine.desk_unrouted id

theorem desk_slept (machine : Machine) (id : StreamId) :
    (machine.slept id).desk = machine.desk :=
  machine.desk_unrouted id

theorem desk_routed (machine : Machine) (id : StreamId) :
    (machine.routed id).desk = machine.desk := by
  unfold routed
  dsimp only
  split
  · split
    · rfl
    · exact machine.desk_setRoute _ _
  · exact machine.desk_setRoute _ _

theorem desk_opened (machine : Machine) (id : StreamId) (pcm : OpenPcm) :
    (machine.opened id pcm).desk = machine.desk :=
  desk_routed _ id

/-- What is open is on the desk. -/
theorem isOpen_of_desk {first second : Machine} (same : first.desk = second.desk)
    (id : StreamId) : first.isOpen id = second.isOpen id :=
  congrArg (fun desk : Hardware × Option (ByLane Bool) =>
    desk.1.output = some id || desk.1.inputs.contains id) same

theorem streams_routed (machine : Machine) (id : StreamId) :
    (machine.routed id).streams = machine.streams := by
  unfold routed
  dsimp only
  split
  · split <;> rfl
  · rfl

/-- Closing a stream for now empties it. -/
theorem streams_shut (machine : Machine) (id : StreamId) :
    (machine.shut id).streams = (machine.adjust id Stream.emptied).streams := by
  unfold shut adjust
  rw [streams_unrouted]

/-- Putting a stream to standby lets it sleep. -/
theorem streams_slept (machine : Machine) (id : StreamId) :
    (machine.slept id).streams = (machine.adjust id Stream.asleep).streams := by
  unfold slept adjust
  rw [streams_unrouted]

/-- Opening a stream fits it. -/
theorem streams_opened (machine : Machine) (id : StreamId) (pcm : OpenPcm) :
    (machine.opened id pcm).streams = (machine.adjust id (Stream.fitted pcm)).streams :=
  streams_routed _ id

theorem stream_congr {first second : Machine} (same : first.streams = second.streams)
    (id : StreamId) : first.stream id = second.stream id := by
  unfold stream
  rw [same]

/-- A sound state that stream operations can lead to. -/
structure Follows (before : Machine) (exempt : List StreamId) (after : Machine) : Prop where
  sound : after.Sound exempt
  desk : after.desk = before.desk
  length : after.streams.length = before.streams.length

theorem Follows.isOpen {before after : Machine} (follows : before.Follows exempt after)
    (id : StreamId) : after.isOpen id = before.isOpen id :=
  isOpen_of_desk follows.desk id

/-- Following is transitive. -/
theorem Follows.trans {first second third : Machine} {others : List StreamId}
    (start : first.Follows exempt second) (rest : second.Follows others third) :
    first.Follows others third :=
  ⟨rest.sound, rest.desk.trans start.desk, rest.length.trans start.length⟩

theorem Sound.follows (sound : machine.Sound exempt) : machine.Follows exempt machine :=
  ⟨sound, rfl, rfl⟩

/-- Closing a stream for now leads a sound state on, with the stream in between. -/
theorem Sound.follows_shut (sound : machine.Sound exempt) (id : StreamId) :
    machine.Follows (id :: exempt) (machine.shut id) := by
  refine ⟨sound.shut id, machine.desk_shut id, ?_⟩
  rw [streams_shut, length_adjust]

/-- A stream in between that is put to standby is so no more. -/
theorem Sound.follows_slept {id : StreamId} (sound : machine.Sound (id :: exempt)) :
    machine.Follows exempt (machine.slept id) := by
  refine ⟨sound.slept, machine.desk_slept id, ?_⟩
  rw [streams_slept, length_adjust]

/-- An open stream in between may be opened. -/
theorem Sound.follows_opened {id : StreamId} (sound : machine.Sound (id :: exempt))
    (isOpen : machine.isOpen id = true) (pcm : OpenPcm) :
    machine.Follows (id :: exempt) (machine.opened id pcm) := by
  refine ⟨sound.opened isOpen pcm, machine.desk_opened id pcm, ?_⟩
  rw [streams_opened, length_adjust]

end Machine

end PhoneAudio
