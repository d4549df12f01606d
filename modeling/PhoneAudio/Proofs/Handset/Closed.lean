import PhoneAudio.Proofs.Handset.Parameters
import PhoneAudio.Proofs.Handset.Transfer
import PhoneAudio.Proofs.Machine.Apart

/-!
# Calls on closed streams

What transfers, standby and parameters do to everything apart from a stream that was closed: they
set routes, and which ones depends on the call and on the devices of the stream
(`PhoneAudio.Machine.clearing`, `PhoneAudio.Machine.turning`).
-/

namespace PhoneAudio

namespace Machine

/-- The routes that standby of a stream sets, whatever else it does: outside calls, a playback
stream clears the route of ordinary playback. -/
def clearing (machine : Machine) (id : StreamId) : List (Lane × EndpointSet) :=
  if machine.hardware.router.isSome = true ∧ (machine.stream id).direction = .playback ∧
      machine.hardware.inCall = false then [(.playback, .none)]
  else []

/-- The routes that selecting devices for a stream in standby sets. -/
def turning (machine : Machine) (id : StreamId) (devices : Devices) : List (Lane × EndpointSet) :=
  let stream := machine.stream id
  if devices.isEmpty then []
  else if stream.direction = .playback ∧ machine.hardware.mode = .inCall then
    if machine.hardware.router.isSome then
      [(.downlink, devices.downlinkRoute), (.uplink, devices.uplinkRoute)]
    else []
  else if stream.devices = devices then []
  else machine.clearing id

/-- The routes that parameters of a stream in standby set. -/
def tuning (machine : Machine) (id : StreamId) (text : String) : List (Lane × EndpointSet) :=
  if machine.hardware.present then
    match selectedDevices? (KeyValues.ofText text) with
    | none => []
    | some devices => machine.turning id devices
  else []

/-- A sound state in which a stream was closed. -/
structure Closed (machine : Machine) (id : StreamId) : Prop where
  sound : machine.Sound []
  inside : id < machine.streams.length
  detached : (machine.stream id).status.detached = true

section Closed

variable {machine : Machine} {id : StreamId} (closed : machine.Closed id)
include closed

/-- A closed stream is not active. -/
theorem Closed.isActive : (machine.stream id).isActive = false := by
  rw [Stream.isActive, closed.sound.closed id closed.inside closed.detached]
  rfl

/-- A closed stream has no PCM. -/
theorem Closed.pcm : (machine.stream id).pcm = none := by
  have quiet := closed.sound.quiet id closed.inside List.not_mem_nil
  rw [closed.sound.closed id closed.inside closed.detached] at quiet
  exact Option.isNone_iff_eq_none.mp quiet.symm

/-- Nobody asks for the lock of a closed stream. -/
theorem Closed.calm : (machine.stream id).status.lockWanted = false :=
  closed.sound.calm id closed.inside

end Closed

/-- A change of the stream leaves what its standby clears. -/
theorem clearing_adjust (machine : Machine) (id : StreamId) {f : Stream → Stream}
    (kept : ∀ stream, (f stream).direction = stream.direction) :
    (machine.adjust id f).clearing id = machine.clearing id := by
  unfold clearing
  rw [view_adjust Stream.direction machine id id kept]
  rfl

end Machine

namespace Act

variable {id : StreamId} {state : Machine} {rest : Machine × List Happening} {α : Type}

/-- Setting a route leaves the streams. -/
theorem stream_setRoute (lane : Lane) (endpoints : EndpointSet) (run : Run) (id : StreamId) :
    (setRoute lane endpoints run).2.machine.stream id = run.machine.stream id := by
  have streams := congrArg Machine.streams (still_reroute (·.setRoute lane endpoints) run)
  exact Machine.stream_congr streams id

/-- In a call, ordinary playback is off and has no route that could be cleared. -/
theorem setRoute_playback_eq_self {run : Run}
    (proper : ∀ router, run.machine.hardware.router = some router →
      router.disabled.playback = true ∧ router.routes.playback = .none) :
    (setRoute .playback .none run).2 = run := by
  refine reroute_eq_self fun router there => ?_
  obtain ⟨off, silent⟩ := proper router there
  have disabled : router.disabled.get .playback = true := off
  have kept : router.store .playback .none = router := by
    unfold Router.store ByLane.set
    rw [← silent]
  unfold Router.setRoute
  rw [if_pos disabled, kept]

/-- Closing a stream without a PCM only sets routes. -/
theorem closeLocked_eq {run : Run} (shown : run.Shows state)
    (proper : ∀ router, state.hardware.router = some router → router.Proper state.hardware)
    (empty : (state.stream id).pcm = none) :
    (closeLocked id run).2 = (setRoutes (state.clearing id) run).2 := by
  have vacant : ∀ after : Run, after.machine.stream id = run.machine.stream id →
      (closeStreamPcm id after).2 = after := by
    intro after same
    have gone : (after.machine.stream id).pcm = none := by
      rw [same, ← empty, ← shown.stream id]
      rfl
    have read : stream id after = (after.machine.stream id, after) := rfl
    unfold closeStreamPcm
    rw [bind_apply, read]
    dsimp only
    rw [gone]
    rfl
  have direction := shown.direction id
  unfold closeLocked Machine.clearing
  rw [bind_apply, stream_apply]
  dsimp only
  rw [direction]
  by_cases playback : (state.stream id).direction = .playback
  · rw [if_pos playback, bind_apply, vacant _ (stream_setRoute _ _ _ _)]
    split
    · rfl
    · rename_i settled
      refine setRoute_playback_eq_self fun router there => ?_
      rw [shown.router] at there
      have inCall : state.hardware.inCall = true := by
        refine (Bool.not_eq_false _).mp fun out => settled ⟨?_, playback, out⟩
        rw [there]
        rfl
      exact ⟨(proper router there).playback.trans inCall, (proper router there).inside inCall⟩
  · rw [if_neg playback, if_neg fun clears => playback clears.2.1]
    exact vacant run rfl

/-- Following devices in a call only sets routes. -/
theorem followDevices_eq {run : Run} (shown : run.Shows state) (devices : Devices)
    (mode : state.hardware.mode = .inCall) :
    (followDevices devices run).2 = (setRoutes (if state.hardware.router.isSome = true then
      [(.downlink, devices.downlinkRoute), (.uplink, devices.uplinkRoute)] else []) run).2 := by
  have same : run.machine.hardware.mode = .inCall := shown.mode.trans mode
  unfold followDevices
  rw [bind_apply, hardware_apply]
  dsimp only
  rw [if_pos same]
  split
  · rfl
  · rename_i absent
    rw [← shown.router, Option.not_isSome_iff_eq_none] at absent
    have first : (setRoute .downlink devices.downlinkRoute run).2 = run :=
      reroute_eq_self fun router there => absurd there (by rw [absent]; nofun)
    have second : (setRoute .uplink devices.uplinkRoute run).2 = run :=
      reroute_eq_self fun router there => absurd there (by rw [absent]; nofun)
    rw [bind_apply, first, second]
    rfl

/-- An action that only sets routes. -/
theorem leads_routed {action : Act α} {post : α → Machine → Prop}
    {routes : List (Lane × EndpointSet)} (leads : Leads Run.Shows action state post)
    (same : ∀ run, run.Shows state → (action run).2 = (setRoutes routes run).2) :
    Leads (Run.Beside id) action (state, rest) fun _ after =>
      Run.Routed id routes rest after.2 := by
  intro run ⟨shown, seen⟩
  obtain ⟨after, shows, -⟩ := leads run shown
  refine ⟨(after, (action run).2.apart id), ⟨shows, rfl⟩, run, state, shown, seen, ?_⟩
  rw [same run shown]

/-- An action that leaves what is apart from a stream sets no routes. -/
theorem leads_unrouted {action : Act α} {next : Machine}
    (leads : Leads (Run.Beside id) action (state, rest) fun _ after => after = (next, rest)) :
    Leads (Run.Beside id) action (state, rest) fun _ after => Run.Routed id [] rest after.2 := by
  intro run seen
  obtain ⟨after, shows, same⟩ := leads run seen
  rw [same] at shows
  exact ⟨_, shows, run, state, seen.1, seen.2, seen.2⟩

/-- What an action leads to beside a stream does not depend on the hardware lock. -/
theorem leads_withHardware_beside {action : Act α}
    {post : α → Machine × Machine × List Happening → Prop}
    (leads : Leads (Run.Beside id) action (state, rest) post) :
    Leads (Run.Beside id) (withHardware action) (state, rest) post := by
  refine ((leads_lock _).beside (apart_lock (.inl rfl))).then fun _ => ?_
  refine leads.bind fun answer after holds => ?_
  exact ((leads_unlock _).beside (apart_unlock (.inl rfl))).then fun _ => leads_pure _ holds

theorem leads_askForLock_beside (id : StreamId) :
    Leads (Run.Beside id) (askForLock id) (state, rest) fun _ after =>
      after = (state.adjust id fun stream =>
        { stream with status := { stream.status with lockWanted := true } }, rest) :=
  (leads_askForLock id).beside (apart_changeStream _)

/-- A lock that was asked for is taken, and not asked for any more. -/
theorem leads_lockFor_beside (calm : (state.stream id).status.lockWanted = false) :
    Leads (Run.Beside id) (lockFor id)
      (state.adjust id fun stream =>
        { stream with status := { stream.status with lockWanted := true } }, rest)
      fun _ after => after = (state, rest) :=
  (leads_lockFor id calm).beside fun run =>
    (apart_changeStream _ _).trans (apart_lock (.inr rfl) run)

/-- Closing a closed stream sets the routes that its standby clears, and does nothing else. -/
theorem leads_closeLocked_closed
    (proper : ∀ router, state.hardware.router = some router → router.Proper state.hardware)
    (empty : (state.stream id).pcm = none) :
    Leads (Run.Beside id) (closeLocked id) (state, rest) fun _ after =>
      Run.Routed id (state.clearing id) rest after.2 :=
  leads_routed (leads_closeLocked id) fun _ shown => closeLocked_eq shown proper empty

/-- Putting a closed stream to standby does no more than that. -/
theorem leads_standbyLocked_closed (closed : state.Closed id) :
    Leads (Run.Beside id) (standbyLocked id) (state, rest) fun _ after =>
      Run.Routed id (state.clearing id) rest after.2 := by
  refine ((leads_age id).beside apart_age).then fun _ => ?_
  refine ((leads_stream id).besideRead fun _ => rfl).read fun read same => ?_
  have inactive : read.isActive = false := by
    rw [← closed.isActive]
    refine (congrArg Stream.isActive same).trans ?_
    exact Machine.view_adjust Stream.isActive state id id fun _ => rfl
  dsimp only
  rw [if_neg (ne_true_of_eq_false inactive)]
  refine (leads_closeLocked_closed ?_ ?_).mono fun _ after routed => ?_
  · exact closed.sound.proper
  · rw [← closed.pcm]
    exact Machine.view_adjust Stream.pcm state id id fun _ => rfl
  · rw [Machine.clearing_adjust] at routed
    · exact routed
    · exact fun _ => rfl

/-- **Standby** of a closed stream sets routes all the same. -/
theorem leads_standby_closed (closed : state.Closed id) :
    Leads (Run.Beside id) (standby id) (state, rest) fun _ after =>
      Run.Routed id (if state.hardware.present then state.clearing id else []) rest after.2 := by
  refine (leads_hardware.besideRead fun _ => rfl).read fun read same => ?_
  have present : read.present = state.hardware.present := congrArg (fun h => h.present) same
  rw [present]
  split
  · refine (leads_askForLock_beside id).then fun _ => ?_
    refine (leads_lockFor_beside closed.calm).then fun _ => ?_
    refine (leads_withHardware_beside (leads_standbyLocked_closed closed)).bind ?_
    rintro _ ⟨after, left⟩ routed
    refine ((leads_unlock _).beside (apart_unlock (.inr rfl))).then fun _ => ?_
    exact leads_pure _ routed
  · exact leads_unrouted (leads_pure _ rfl)

/-- A closed stream is not taken out of standby. -/
theorem leads_beginTransfer_closed (closed : state.Closed id) :
    Leads (Run.Beside id) (beginTransfer [] id) (state, rest) fun begun after =>
      after = (state, rest) ∧ begun = .error .notInitialized := by
  refine ((leads_lock _).beside (apart_lock (.inr rfl))).then fun _ => ?_
  refine ((leads_stream id).besideRead fun _ => rfl).read fun read same => ?_
  have inactive : read.isActive = false := (congrArg Stream.isActive same).trans closed.isActive
  have detached : read.status.detached = true :=
    (congrArg (fun stream => stream.status.detached) same).trans closed.detached
  rw [if_neg (ne_true_of_eq_false inactive), if_pos detached]
  exact leads_pure _ ⟨rfl, rfl⟩

/-- Ending a transfer that failed puts the stream to standby once more. -/
theorem leads_finishTransfer_closed (closed : state.Closed id) (error : AudioError) :
    Leads (Run.Beside id) (finishTransfer id (.error error : Except AudioError α)) (state, rest)
      fun _ after =>
        Run.Routed id (if state.hardware.present then state.clearing id else []) rest after.2 := by
  refine ((leads_unlock _).beside (apart_unlock (.inr rfl))).then fun _ => ?_
  refine ((leads_stream id).besideRead fun _ => rfl).read fun _ _ => ?_
  refine ((leads_tell _ _).beside (apart_tell _ _)).then fun _ => ?_
  exact (leads_standby_closed closed).bind fun _ _ routed => leads_pure _ routed

/-- **Writing** to a closed stream does what standby does. -/
theorem leads_write_closed (closed : state.Closed id) (bytes : Nat) :
    Leads (Run.Beside id) (write id bytes) (state, rest) fun _ after =>
      Run.Routed id (if state.hardware.present then state.clearing id else []) rest after.2 := by
  refine (leads_beginTransfer_closed closed).read ?_
  rintro _ rfl
  exact leads_finishTransfer_closed closed _

/-- The standby of a capture stream clears no route. -/
theorem clearing_of_capture (capture : (state.stream id).direction = .capture) :
    state.clearing id = [] := by
  refine if_neg fun clears => ?_
  rw [capture] at clears
  cases clears.2.1

/-- **Reading** from a closed stream sets no routes. -/
theorem leads_read_closed (closed : state.Closed id)
    (capture : (state.stream id).direction = .capture) (buffer : List UInt8) :
    Leads (Run.Beside id) (read id buffer) (state, rest) fun _ after =>
      Run.Routed id [] rest after.2 := by
  refine ((leads_stream id).besideRead fun _ => rfl).read fun _ _ => ?_
  dsimp only
  split
  · exact leads_unrouted (leads_pure _ rfl)
  refine (leads_beginTransfer_closed closed).read ?_
  rintro _ rfl
  refine ((leads_stream id).besideRead fun _ => rfl).read fun _ _ => ?_
  refine Leads.after_pure ((leads_finishTransfer_closed closed _).bind ?_)
  intro ended after routed
  rw [clearing_of_capture capture, ite_self] at routed
  cases ended <;> exact leads_pure _ routed

theorem leads_turn_beside (devices : Devices) :
    Leads (Run.Beside id) (changeStream id fun stream => { stream with devices := devices })
      (state, rest) fun _ after => after = (state.adjust id (Stream.turned devices), rest) := by
  refine Leads.beside ?_ (apart_changeStream _)
  exact leads_changeStream id (fun _ => rfl) (fun _ => rfl) fun _ => rfl

/-- Turning a closed stream sets the routes that its devices ask for, and does nothing else. -/
theorem leads_selectDevices_closed (closed : state.Closed id) (devices : Devices) :
    Leads (Run.Beside id) (selectDevices id devices) (state, rest) fun _ after =>
      Run.Routed id (state.turning id devices) rest after.2 := by
  unfold selectDevices Machine.turning
  dsimp only
  by_cases empty : devices.isEmpty = true
  · rw [if_pos empty, if_pos empty]
    exact leads_unrouted (leads_pure _ rfl)
  rw [if_neg empty, if_neg empty]
  refine leads_withHardware_beside ?_
  refine ((leads_stream id).besideRead fun _ => rfl).read fun read same => ?_
  refine (leads_hardware.besideRead fun _ => rfl).read fun hardware shown => ?_
  have direction : read.direction = (state.stream id).direction := by
    rw [← same]
    rfl
  have selected : read.devices = (state.stream id).devices := by
    rw [← same]
    rfl
  have mode : hardware.mode = state.hardware.mode := congrArg (fun h => h.mode) shown
  rw [direction, selected, mode]
  by_cases follows : (state.stream id).direction = .playback ∧ state.hardware.mode = .inCall
  · rw [if_neg fun sleeps => sleeps.2 follows, if_pos follows, if_pos follows]
    refine (leads_turn_beside devices).then fun _ => ?_
    refine leads_routed (leads_followDevices devices) fun run shown => ?_
    exact followDevices_eq shown devices follows.2
  rw [if_neg follows, if_neg follows]
  by_cases kept : (state.stream id).devices = devices
  · rw [if_neg fun sleeps => sleeps.1 kept, if_pos kept]
    refine (leads_turn_beside devices).then fun _ => ?_
    exact leads_unrouted (leads_pure _ rfl)
  · rw [if_pos ⟨kept, follows⟩, if_neg kept]
    refine (leads_standbyLocked_closed closed).bind ?_
    rintro _ ⟨after, left⟩ routed
    exact (leads_turn_beside devices).then fun _ => leads_pure _ routed

/-- **Parameters** of a closed stream set routes all the same. -/
theorem leads_applyParameters_closed (closed : state.Closed id) (text : String) :
    Leads (Run.Beside id) (applyParameters id text) (state, rest) fun _ after =>
      Run.Routed id (state.tuning id text) rest after.2 := by
  refine (leads_hardware.besideRead fun _ => rfl).read fun read same => ?_
  have present : read.present = state.hardware.present := congrArg (fun h => h.present) same
  unfold Machine.tuning
  rw [present]
  split
  · refine (leads_askForLock_beside id).then fun _ => ?_
    refine (leads_lockFor_beside closed.calm).then fun _ => ?_
    have finish : ∀ {after : Machine × Machine × List Happening} {routes} (pairs : KeyValues),
        Run.Routed id routes rest after.2 → Leads (Run.Beside id)
          (do
            unlock (.stream id)
            if pairs.isEmpty then return .ok ()
            else
              let word := (← stream id).direction.word
              return .error (.badValue s!"unsupported {word} parameters: {pairs.toText}"))
          after fun (_ : Except AudioError Unit) after => Run.Routed id routes rest after.2 := by
      intro ⟨after, left⟩ routes pairs routed
      refine ((leads_unlock _).beside (apart_unlock (.inr rfl))).then fun _ => ?_
      split
      · exact leads_pure _ routed
      · refine ((leads_stream id).besideRead fun _ => rfl).read fun _ _ => ?_
        exact leads_pure _ routed
    cases selectedDevices? (KeyValues.ofText text) with
    | none => exact (leads_unrouted (leads_pure () rfl)).bind fun _ _ routed => finish _ routed
    | some devices =>
        exact (leads_selectDevices_closed closed devices).bind fun _ _ routed => finish _ routed
  · exact leads_unrouted (leads_pure _ rfl)

theorem leads_answerKeys_beside (keys : String) :
    Leads (Run.Beside id) (answerKeys id keys) (state, rest) fun _ after =>
      after = (state, rest) := by
  unfold answerKeys
  dsimp only
  split
  · refine ((leads_lock _).beside (apart_lock (.inr rfl))).then fun _ => ?_
    refine ((leads_stream id).besideRead fun _ => rfl).read fun _ _ => ?_
    exact ((leads_unlock _).beside (apart_unlock (.inr rfl))).then fun _ => leads_pure _ rfl
  · exact leads_pure _ rfl

end Act

end PhoneAudio
