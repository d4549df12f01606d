import PhoneAudio.Handset.Standby
import PhoneAudio.Proofs.Machine.Routing

/-!
# Standby and the core

What closing, opening and putting a stream to standby do to the core of the machine. All but opening
have one outcome. Opening either leaves the core or puts a PCM into the stream and routes it
(`PhoneAudio.Act.leads_openLocked`).
-/

namespace PhoneAudio

namespace Stream

/-- The stream without a PCM. -/
def emptied (stream : Stream) : Stream :=
  { stream with pcm := none }

/-- The stream with a PCM. -/
def fitted (pcm : OpenPcm) (stream : Stream) : Stream :=
  { stream with pcm := some pcm }

/-- The stream after standby. -/
def asleep (stream : Stream) : Stream :=
  { stream with
    status := { stream.status with standby := true, generation := stream.status.generation + 1 }
    pcm := none }

end Stream

namespace Machine

/-- The state after the route of ordinary playback is cleared, if it is that of a stream. -/
def unrouted (machine : Machine) (id : StreamId) : Machine :=
  if (machine.stream id).direction = .playback then
    machine.reroute (·.setRoute .playback .none)
  else machine

/-- The state with a stream closed. -/
def shut (machine : Machine) (id : StreamId) : Machine :=
  (machine.unrouted id).adjust id Stream.emptied

/-- The state with a stream in standby. -/
def slept (machine : Machine) (id : StreamId) : Machine :=
  (machine.unrouted id).adjust id Stream.asleep

/-- The state with the route of a stream set. -/
def routed (machine : Machine) (id : StreamId) : Machine :=
  let stream := machine.stream id
  match stream.direction with
  | .playback =>
    if machine.hardware.mode = .inCall then machine
    else machine.reroute (·.setRoute .playback stream.devices.playbackRoute)
  | .capture => machine.reroute (·.setRoute .capture stream.devices.captureRoute)

/-- The state with a stream opened on a PCM. -/
def opened (machine : Machine) (id : StreamId) (pcm : OpenPcm) : Machine :=
  (machine.adjust id (Stream.fitted pcm)).routed id

/-- Changes of a stream that agree on it are the same. -/
theorem adjust_congr {machine : Machine} {id : StreamId} {f g : Stream → Stream}
    (same : f (machine.stream id) = g (machine.stream id)) :
    machine.adjust id f = machine.adjust id g := by
  unfold adjust
  congr 1
  by_cases inside : id < machine.streams.length
  · have here : machine.stream id = machine.streams[id] := List.getD_eq_getElem _ _ inside
    rw [List.modify_eq_take_cons_drop inside, List.modify_eq_take_cons_drop inside, ← here, same]
  · rw [List.modify_eq_self (Nat.le_of_not_lt inside),
      List.modify_eq_self (Nat.le_of_not_lt inside)]

/-- A change that leaves the stream leaves the state. -/
theorem adjust_of_fixed {machine : Machine} {id : StreamId} {f : Stream → Stream}
    (fixed : f (machine.stream id) = machine.stream id) : machine.adjust id f = machine :=
  (adjust_congr fixed).trans (machine.adjust_id id)

/-- A stream after a change to a stream: the changed one, or as it was. -/
theorem stream_adjust_cases (machine : Machine) (id other : StreamId) (f : Stream → Stream) :
    other = id ∧ (machine.adjust id f).stream other = f (machine.stream other) ∨
      (machine.adjust id f).stream other = machine.stream other := by
  by_cases same : other = id
  · rw [same]
    by_cases inside : id < machine.streams.length
    · exact .inl ⟨rfl, machine.stream_adjust f inside⟩
    · right
      unfold adjust
      rw [List.modify_eq_self (Nat.le_of_not_lt inside)]
  · exact .inr (machine.stream_adjust_of_ne f same)

/-- A change to a stream keeps of all streams what it keeps of every stream. -/
theorem view_adjust {β : Type} (view : Stream → β) (machine : Machine) (id other : StreamId)
    {f : Stream → Stream} (kept : ∀ stream, view (f stream) = view stream) :
    view ((machine.adjust id f).stream other) = view (machine.stream other) := by
  obtain ⟨-, changed⟩ | same := machine.stream_adjust_cases id other f
  · rw [changed, kept]
  · rw [same]

/-- Taking the route off commutes with changes that leave the direction. -/
theorem unrouted_adjust (machine : Machine) (id : StreamId) {f : Stream → Stream}
    (kept : ∀ stream, (f stream).direction = stream.direction) :
    (machine.adjust id f).unrouted id = (machine.unrouted id).adjust id f := by
  unfold unrouted
  rw [view_adjust Stream.direction machine id id kept]
  split <;> rfl

theorem streams_unrouted (machine : Machine) (id : StreamId) :
    (machine.unrouted id).streams = machine.streams := by
  unfold unrouted
  split <;> rfl

theorem stream_unrouted (machine : Machine) (id other : StreamId) :
    (machine.unrouted id).stream other = machine.stream other := by
  unfold stream
  rw [streams_unrouted]

end Machine

namespace Act

variable {state : Machine}

/-- Taking the PCM out of a stream and closing it. -/
theorem leads_release (id : StreamId) {pcm : OpenPcm} (holds : (state.stream id).pcm = some pcm)
    (activity : Activity) (what : Happening) :
    Leads Run.Shows
      (changeStream id (fun stream => { stream with pcm := none }) >>= fun _ =>
        call (.stream id) activity what (closing pcm))
      state fun _ after => after = state.adjust id Stream.emptied := by
  have inside : id < state.streams.length := by
    refine Nat.lt_of_not_le fun outside => ?_
    have absent : state.stream id = default := List.getD_eq_default _ _ outside
    rw [absent] at holds
    cases holds
  intro run shown
  obtain ⟨-, drivers, core, links⟩ := call_effect (.stream id) activity what (closing pcm)
    (changeStream id (fun stream => { stream with pcm := none }) run).2
  refine ⟨_, ⟨core.trans ?_, ?_⟩, rfl⟩
  · rw [← shown.core_eq]
    exact run.machine.core_adjust id fun _ => rfl
  · rw [bind_apply, drivers, links]
    exact shown.tallied.remove inside holds

/-- Closing the PCM of a stream empties it. -/
theorem leads_closeStreamPcm (id : StreamId) :
    Leads Run.Shows (closeStreamPcm id) state fun _ after =>
      after = state.adjust id Stream.emptied := by
  refine (leads_stream id).read fun read same => ?_
  have held : read.pcm = (state.stream id).pcm := by
    rw [← same]
    rfl
  cases pcm : read.pcm with
  | none =>
      refine leads_pure _ (Machine.adjust_of_fixed ?_).symm
      rw [Stream.emptied, ← pcm, held]
  | some pcm => exact leads_release id (held.symm.trans pcm) _ _

/-- Setting a route leads to the router with that route. -/
theorem leads_setRoute (lane : Lane) (endpoints : EndpointSet) :
    Leads Run.Shows (setRoute lane endpoints) state fun _ after =>
      after = state.reroute (·.setRoute lane endpoints) :=
  leads_reroute _

/-- Closing a stream for now leads to the stream shut. -/
theorem leads_closeLocked (id : StreamId) :
    Leads Run.Shows (closeLocked id) state fun _ after => after = state.shut id := by
  refine (leads_stream id).read fun read same => ?_
  have direction : read.direction = (state.stream id).direction := by
    rw [← same]
    rfl
  unfold Machine.shut Machine.unrouted
  rw [direction]
  dsimp only
  split
  · exact (leads_setRoute _ _).then fun _ => leads_closeStreamPcm id
  · exact leads_closeStreamPcm id

/-- A stream grows older when it is put to standby. -/
theorem leads_age (id : StreamId) :
    Leads Run.Shows (age id) state fun _ after => after = state.adjust id fun stream =>
      { stream with status := { stream.status with generation := stream.status.generation + 1 } } :=
  (leads_note _).then fun _ => leads_changeStatus id _

/-- Putting a stream to standby leads to the stream asleep. -/
theorem leads_standbyLocked (id : StreamId) :
    Leads Run.Shows (standbyLocked id) state fun _ after => after = state.slept id := by
  refine (leads_age id).then fun _ => ?_
  refine (leads_stream id).read fun read same => ?_
  dsimp only
  split
  · refine (leads_changeStatus id _).then fun _ => ?_
    refine (leads_releaseWake id).then fun _ => ?_
    refine (leads_stream id).read fun _ _ => ?_
    refine (leads_tell _ _).then fun _ => (leads_closeLocked id).mono fun _ after same => ?_
    rw [same, Machine.shut, Machine.unrouted_adjust, Machine.unrouted_adjust,
      Machine.adjust_adjust, Machine.adjust_adjust]
    · rfl
    · exact fun _ => rfl
    · exact fun _ => rfl
  · rename_i inactive
    refine (leads_closeLocked id).mono fun _ after ended => ?_
    rw [ended, Machine.shut, Machine.unrouted_adjust, Machine.adjust_adjust]
    · refine Machine.adjust_congr ?_
      have standby : (state.stream id).status.standby = true := by
        have kept : read.status.standby = (state.stream id).status.standby := by
          refine (congrArg (fun stream => stream.status.standby) same).trans ?_
          exact Machine.view_adjust (fun stream => stream.status.standby) state id id fun _ => rfl
        rw [← kept]
        simpa [Stream.isActive] using inactive
      rw [Machine.stream_unrouted]
      simp only [Function.comp_apply, Stream.emptied, Stream.asleep, standby]
    · exact fun _ => rfl

/-- A PCM that the driver has just opened, put into a stream that has none. -/
theorem shows_installPcm {run : Run} (core : run.machine.core = state) {id : StreamId}
    (inside : id < state.streams.length) (empty : (state.stream id).pcm = none) {pcm : OpenPcm}
    (bus : pcm.setup.bus = .codec) (way : pcm.setup.direction = (state.stream id).direction)
    {live : List (PcmBus × Direction)}
    (tallied : Tallied state.streams live run.machine.hardware.links)
    (opened : run.machine.drivers.pcm.live = (pcm.setup.bus, pcm.setup.direction) :: live) :
    (installPcm id pcm run).2.Shows (state.adjust id (Stream.fitted pcm)) := by
  have vacant : (run.machine.stream id).pcm = none := by
    rw [← empty, ← core, Machine.stream_core]
    rfl
  have done : (installPcm id pcm run).2 =
      (changeStream id (fun stream => { stream with pcm := some pcm }) run).2 := by
    unfold installPcm
    rw [bind_apply, stream_apply]
    dsimp only
    rw [vacant]
    rfl
  rw [done]
  refine ⟨?_, ?_⟩
  · rw [← core]
    exact run.machine.core_adjust id fun _ => rfl
  · change Tallied _ run.machine.drivers.pcm.live _
    rw [opened]
    exact tallied.install inside empty bus way

/-- A stream that was opened is routed. -/
theorem leads_routeOpened (id : StreamId) :
    Leads Run.Shows (routeOpened id) state fun _ after => after = state.routed id := by
  refine (leads_stream id).read fun read same => ?_
  unfold Machine.routed
  rw [← same]
  cases direction : read.direction with
  | playback =>
      simp only [Stream.core, direction]
      refine leads_hardware.read fun hardware shown => ?_
      have mode : hardware.mode = state.hardware.mode := congrArg (fun h => h.mode) shown
      rw [mode]
      by_cases inCall : state.hardware.mode = .inCall
      · rw [if_pos inCall, if_neg (not_not_intro inCall)]
        exact leads_pure _ rfl
      · rw [if_neg inCall, if_pos inCall]
        exact leads_setRoute _ _
  | capture =>
      simp only [Stream.core, direction]
      refine (leads_unseenStream id ?_).then fun _ => leads_setRoute _ _
      exact fun _ => rfl

/-- **Opening.** Opening a stream that has no PCM fails and leaves the core, or puts a PCM into the
stream and routes it. -/
theorem leads_openLocked {id : StreamId} (inside : id < state.streams.length)
    (empty : (state.stream id).pcm = none) :
    Leads Run.Shows (openLocked id) state fun answer after =>
      (∃ error, answer = .error error ∧ after = state) ∨
        ∃ pcm, answer = .ok () ∧ after = state.opened id pcm := by
  refine leads_machine.read fun machine _ => ?_
  refine (leads_stream id).read fun read same => ?_
  have direction : read.direction = (state.stream id).direction := by
    rw [← same]
    rfl
  have bus : (PcmSetup.codec machine.settings read.direction).bus = .codec := rfl
  have way : (PcmSetup.codec machine.settings read.direction).direction = read.direction := rfl
  generalize PcmSetup.codec machine.settings read.direction = setup at bus way
  intro run shown
  obtain ⟨answer, drivers, core, links⟩ := call_effect (.stream id) .openingPcm
    (.openPcm (.stream id) setup) (onPcm (·.openPcm setup)) run
  rw [bind_apply, answer]
  have tallied := shown.tallied
  rw [← links] at tallied
  have settled := core.trans shown.core_eq
  generalize (call (.stream id) .openingPcm (.openPcm (.stream id) setup)
    (onPcm (·.openPcm setup)) run).2 = next at drivers core links tallied settled
  obtain ⟨error, failed, live⟩ | ⟨pcm, opened, asked, live⟩ :=
    run.machine.drivers.pcm.openPcm_cases setup
  · have kept : next.machine.drivers.pcm.live = run.machine.drivers.pcm.live := by
      rw [drivers]
      exact live
    rw [show (onPcm (·.openPcm setup) run.machine.drivers).1 = .error error from failed]
    refine ⟨state, ⟨settled, ?_⟩, .inl ⟨_, rfl, rfl⟩⟩
    change Tallied _ next.machine.drivers.pcm.live _
    rw [kept]
    exact tallied
  · have grown : next.machine.drivers.pcm.live =
        (setup.bus, setup.direction) :: run.machine.drivers.pcm.live := by
      rw [drivers]
      exact live
    rw [show (onPcm (·.openPcm setup) run.machine.drivers).1 = .ok pcm from opened]
    dsimp only
    by_cases ready : pcm.ready = true
    · rw [if_pos ready]
      have fitted := shows_installPcm settled inside empty (asked ▸ bus)
        (by rw [asked, way, direction]) tallied (by rw [grown, asked])
      obtain ⟨after, routed, rfl⟩ := leads_routeOpened id _ fitted
      exact ⟨_, routed, .inr ⟨pcm, rfl, rfl⟩⟩
    · rw [if_neg ready]
      obtain ⟨-, closed, kept, linked⟩ := call_effect (.stream id) .closingPcm
        (.closePcm (.stream id) setup) (closing pcm) next
      refine ⟨state, ⟨kept.trans settled, ?_⟩, .inl ⟨_, rfl, rfl⟩⟩
      rw [bind_apply, pure_apply, closed, linked]
      change Tallied _ (next.machine.drivers.pcm.live.erase _) _
      rw [grown, asked, List.erase_cons_head]
      exact tallied

end Act

end PhoneAudio
