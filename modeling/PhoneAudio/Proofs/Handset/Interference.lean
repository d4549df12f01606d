import PhoneAudio.Proofs.Handset.Closed
import PhoneAudio.Proofs.Handset.Coherence

/-!
# Interference by closed streams

What can be asked of a stream that was closed does nothing to its PCM, but it may set routes
(`PhoneAudio.Session.closed_call`): standby, and with it every write, clears the route of ordinary
playback, and selecting devices in a call sets the route of the call. All that is apart from the
stream is left alone exactly if no routes are set.
-/

namespace PhoneAudio

/-- Something that can be asked of a stream. -/
inductive StreamCall
  | write (bytes : Nat)
  | read (buffer : List UInt8)
  | standby
  | applyParameters (text : String)
  | answerKeys (keys : String)
  | devices
  | dump

namespace StreamCall

/-- Performs a call on a stream. -/
def perform (id : StreamId) : StreamCall → Act Answer
  | write bytes => (Operation.write id bytes).perform
  | read buffer => (Operation.read id buffer).perform
  | standby => (Operation.standby id).perform
  | applyParameters text => (Operation.applyParameters id text).perform
  | answerKeys keys => (Operation.answerKeys id keys).perform
  | devices => (Operation.ask (.devices id)).perform
  | dump => (Operation.ask (.dumpStream id)).perform

/-- Whether streams of a direction have a call. -/
def Fits (direction : Direction) : StreamCall → Prop
  | write _ => direction = .playback
  | read _ => direction = .capture
  | standby | applyParameters _ | answerKeys _ | devices | dump => True

/-- The routes that a call on a closed stream sets. -/
def reroutes (machine : Machine) (id : StreamId) : StreamCall → List (Lane × EndpointSet)
  | write _ | standby => if machine.hardware.present then machine.clearing id else []
  | applyParameters text => machine.tuning id text
  | read _ | answerKeys _ | devices | dump => []

end StreamCall

namespace Run

/-- Nothing apart from a stream was touched. -/
structure Spared (before : Run) (id : StreamId) (after : Run) : Prop where
  routes : ∀ lane, after.machine.route lane = before.machine.route lane
  disabled : ∀ lane, after.machine.isOff lane = before.machine.isOff lane
  mixer : after.mixerCalls = before.mixerCalls
  pcms : after.machine.drivers.pcm.live = before.machine.drivers.pcm.live
  wakeLock : after.machine.drivers.wakeCalls = before.machine.drivers.wakeCalls
  others : ∀ other, other ≠ id → after.machine.stream other = before.machine.stream other

/-- Of all that is apart from a stream, only routes were set. -/
structure Rerouted (before : Run) (id : StreamId) (routes : List (Lane × EndpointSet))
    (after : Run) : Prop where
  routes : after.machine.hardware.router.map Router.routes =
    before.machine.hardware.router.map fun router =>
      routes.foldl (fun stored route => stored.set route.1 route.2) router.routes
  disabled : ∀ lane, after.machine.isOff lane = before.machine.isOff lane
  pcms : ∀ direction, after.machine.drivers.pcm.liveOn .codec direction =
    before.machine.drivers.pcm.liveOn .codec direction
  wakeLock : after.machine.drivers.wakeCalls = before.machine.drivers.wakeCalls
  others : ∀ other, other ≠ id → after.machine.stream other = before.machine.stream other

variable {id : StreamId} {routes : List (Lane × EndpointSet)} {before after : Run}

/-- Streams other than the one left out. -/
theorem stream_of_apart (same : (after.apart id).1.streams = (before.apart id).1.streams)
    {other : StreamId} (different : other ≠ id) :
    after.machine.stream other = before.machine.stream other := by
  have apart : ∀ run : Run, (run.apart id).1.stream other = run.machine.stream other :=
    fun run => run.machine.stream_adjust_of_ne (fun _ => .blank) different
  rw [← apart, ← apart]
  exact Machine.stream_congr same other

/-- What is routed beside a stream is rerouted. -/
theorem Routed.rerouted (routed : Routed id routes (before.apart id) (after.apart id)) :
    before.Rerouted id routes after := by
  have router : after.machine.hardware.router =
      before.machine.hardware.router.map (·.withRoutes routes) := routed.router
  refine ⟨?_, fun lane => ?_, routed.liveOn_codec, routed.wakeCalls,
    fun other => stream_of_apart routed.streams⟩
  · rw [router, Option.map_map]
    congr 1
    funext router
    exact router.routes_withRoutes routes
  · unfold Machine.isOff
    rw [router]
    cases before.machine.hardware.router with
    | none => rfl
    | some router => exact congrArg (·.get lane) (router.disabled_withRoutes routes)

/-- Without routes to set, all the rest is spared. -/
theorem Routed.spared (routed : Routed id [] (before.apart id) (after.apart id)) :
    before.Spared id after := by
  have same := routed.eq_of_nil
  have router : after.machine.hardware.router = before.machine.hardware.router :=
    congrArg (fun seen => seen.1.hardware.router) same
  refine ⟨fun lane => ?_, fun lane => ?_, congrArg Prod.snd same,
    congrArg (fun seen => seen.1.drivers.pcm.live) same,
    congrArg (fun seen => seen.1.drivers.wakeCalls) same,
    fun other => stream_of_apart (congrArg (fun seen => seen.1.streams) same)⟩
  · unfold Machine.route
    rw [router]
  · unfold Machine.isOff
    rw [router]

end Run

namespace Machine

/-- Setting routes begins with an audible lane that is on. -/
def Hears (machine : Machine) (routes : List (Lane × EndpointSet)) : Prop :=
  ∀ lane endpoints more, routes = (lane, endpoints) :: more →
    ∃ router, machine.hardware.router = some router ∧ router.disabled.get lane = false ∧
      lane.isAudible = true ∧ (router.store lane endpoints).Balanced

variable {machine : Machine} (sound : machine.Sound []) (id : StreamId)
include sound

/-- The routes that standby clears are heard by the stream. -/
theorem Sound.hears_clearing : machine.Hears (machine.clearing id) := by
  intro lane endpoints more same
  unfold clearing at same
  split at same
  · rename_i clears
    obtain ⟨there, -, out⟩ := clears
    obtain ⟨router, there⟩ := Option.isSome_iff_exists.mp there
    have proper := sound.proper router there
    cases same
    refine ⟨router, there, proper.playback.trans out, rfl, ?_⟩
    have allows : Router.Allows machine.hardware .playback .none := fun _ => rfl
    exact (proper.store allows).balanced
  · cases same

/-- The routes that turning sets are heard by the stream. -/
theorem Sound.hears_turning (devices : Devices) :
    machine.Hears (machine.turning id devices) := by
  intro lane endpoints more same
  unfold turning at same
  dsimp only at same
  split at same
  · cases same
  split at same
  · rename_i follows
    have inCall : machine.hardware.inCall = true := by
      rw [sound.called, decide_eq_true follows.2]
    split at same
    · rename_i there
      obtain ⟨router, there⟩ := Option.isSome_iff_exists.mp there
      have proper := sound.proper router there
      cases same
      refine ⟨router, there, proper.downlink, rfl, ?_⟩
      have allows : Router.Allows machine.hardware .downlink devices.downlinkRoute :=
        fun out => absurd out (ne_false_of_eq_true inCall)
      exact (proper.store allows).balanced
    · cases same
  split at same
  · cases same
  · exact sound.hears_clearing id lane endpoints more same

/-- The routes that a call sets are heard by the stream that it is for. -/
theorem Sound.hears_reroutes (call : StreamCall) :
    machine.Hears (call.reroutes machine id) := by
  have silent : machine.Hears [] := fun _ _ _ => nofun
  have standby : machine.Hears (if machine.hardware.present then machine.clearing id else []) := by
    split
    · exact sound.hears_clearing id
    · exact silent
  cases call with
  | write bytes => exact standby
  | standby => exact standby
  | applyParameters text =>
      change machine.Hears (machine.tuning id text)
      unfold tuning
      split
      · split
        · exact silent
        · exact sound.hears_turning id _
      · exact silent
  | read buffer => exact silent
  | answerKeys keys => exact silent
  | devices => exact silent
  | dump => exact silent

end Machine

namespace StreamCall

variable {state : Machine} {id : StreamId} {rest : Machine × List Happening}

/-- **Calls** on a closed stream set routes and do nothing else to what is apart from it. -/
theorem leads_perform (closed : state.Closed id) {call : StreamCall}
    (fits : call.Fits (state.stream id).direction) :
    Act.Leads (Run.Beside id) (call.perform id) (state, rest) fun _ after =>
      Run.Routed id (call.reroutes state id) rest after.2 := by
  cases call with
  | write bytes =>
      refine (Act.leads_write_closed closed bytes).bind fun answer _ routed => ?_
      cases answer <;> exact Act.leads_pure _ routed
  | read buffer =>
      refine (Act.leads_read_closed closed fits buffer).bind fun answer _ routed => ?_
      obtain ⟨outcome, filled⟩ := answer
      cases outcome <;> exact Act.leads_pure _ routed
  | standby =>
      exact (Act.leads_standby_closed closed).bind fun _ _ routed => Act.leads_pure _ routed
  | applyParameters text =>
      refine (Act.leads_applyParameters_closed closed text).bind fun _ _ routed => ?_
      exact Act.leads_pure _ routed
  | answerKeys keys =>
      have kept : Act.Leads (Run.Beside id) (perform id (.answerKeys keys)) (state, rest)
          fun _ after => after = (state, rest) :=
        (Act.leads_answerKeys_beside keys).then fun _ => Act.leads_pure _ rfl
      exact Act.leads_unrouted kept
  | devices =>
      have kept : Act.Leads (Run.Beside id) (perform id .devices) (state, rest)
          fun _ after => after = (state, rest) :=
        ((Act.leads_find (.devices id)).beside Act.apart_findDevices).then fun _ =>
          Act.leads_pure _ rfl
      exact Act.leads_unrouted kept
  | dump =>
      have kept : Act.Leads (Run.Beside id) (perform id .dump) (state, rest)
          fun _ after => after = (state, rest) :=
        ((Act.leads_find (.dumpStream id)).beside Act.apart_findDump).then fun _ =>
          Act.leads_pure _ rfl
      exact Act.leads_unrouted kept

/-- The routes that a call sets depend on the core. -/
theorem reroutes_core (call : StreamCall) (machine : Machine) (id : StreamId) :
    call.reroutes machine.core id = call.reroutes machine id := by
  have clearing : machine.core.clearing id = machine.clearing id := by
    unfold Machine.clearing
    rw [machine.stream_core]
    rfl
  have turning : ∀ devices, machine.core.turning id devices = machine.turning id devices := by
    intro devices
    unfold Machine.turning
    rw [machine.stream_core, clearing]
    rfl
  cases call with
  | applyParameters text =>
      change machine.core.tuning id text = machine.tuning id text
      unfold Machine.tuning
      simp only [turning]
      rfl
  | write bytes =>
      unfold reroutes
      rw [clearing]
      rfl
  | standby =>
      unfold reroutes
      rw [clearing]
      rfl
  | _ => rfl

end StreamCall

/-- **Interference.** In every session, a call on a stream that was closed sets the routes that
`StreamCall.reroutes` says and leaves all else that is apart from the stream. On a codec with a gain
for ordinary playback, what is apart from the stream is left alone only if there are none. -/
theorem Session.closed_call {first last : Run} {operations : List Operation} {id : StreamId}
    (built : first.Built) (session : Session first operations last)
    (inside : id < last.machine.streams.length)
    (detached : (last.machine.stream id).status.detached = true) (call : StreamCall)
    (fits : call.Fits (last.machine.stream id).direction) (conditions : Conditions) :
    (last.under conditions).Rerouted id (call.reroutes last.machine id)
        (call.perform id (last.under conditions)).2 ∧
      (call.reroutes last.machine id = [] →
        (last.under conditions).Spared id (call.perform id (last.under conditions)).2) ∧
      ((∀ router, last.machine.hardware.router = some router →
          (router.tables.laneGain? .playback).isSome = true) →
        (last.under conditions).Spared id (call.perform id (last.under conditions)).2 →
          call.reroutes last.machine id = []) := by
  obtain ⟨start, shown, sound, -⟩ := built.shows
  obtain ⟨state, shows, reached⟩ := session.advances shown sound
  have reroutes : call.reroutes state id = call.reroutes last.machine id := by
    rw [← shows.core_eq, call.reroutes_core]
  have core : (last.machine.stream id).core = state.stream id := shows.stream id
  have closed : state.Closed id := by
    refine ⟨reached.sound, shows.length ▸ inside, ?_⟩
    rw [← core]
    exact detached
  have direction : (last.machine.stream id).direction = (state.stream id).direction := by
    rw [← core]
    rfl
  rw [direction] at fits
  obtain ⟨⟨after, left⟩, ⟨-, seen⟩, routed⟩ := StreamCall.leads_perform closed fits
    (last.under conditions) ⟨shows.under conditions, rfl⟩
  rw [reroutes, ← seen] at routed
  refine ⟨routed.rerouted, fun silent => ?_, fun controlled spared => ?_⟩
  · rw [silent] at routed
    exact routed.spared
  · cases same : call.reroutes last.machine id with
    | nil => rfl
    | cons route more =>
        obtain ⟨lane, endpoints⟩ := route
        obtain ⟨router, there, on, audible, balanced⟩ := reached.sound.hears_reroutes id call lane
          endpoints more (reroutes.trans same)
        rw [← shows.router] at there
        obtain ⟨gain, gained⟩ := Option.isSome_iff_exists.mp (controlled router there)
        rw [same] at routed
        have called := routed.mixerCalls there on audible balanced gained
        exact absurd (congrArg List.length spared.mixer) (Nat.ne_of_gt called)

/-- Standby of a closed stream clears the route of the stream that plays. -/
theorem Session.closed_call_playingOn :
    (Run.playingOn.under {}).Rerouted (0 : Nat) [(.playback, .none)]
      (StreamCall.standby.perform (0 : Nat) (Run.playingOn.under {})).2 := by
  have session := Session.played.append Session.playingOn
  have reroutes : StreamCall.standby.reroutes Run.playingOn.machine (0 : Nat) =
      [(.playback, .none)] := by
    decide +kernel
  have inside : 0 < Run.playingOn.machine.streams.length := by decide +kernel
  have detached : (Run.playingOn.machine.stream (0 : Nat)).status.detached = true := by
    decide +kernel
  have called := Session.closed_call Run.built_stock session inside detached .standby trivial {}
  rw [reroutes] at called
  exact called.1

/-- Closed streams are not left out of what happens to others. -/
theorem Session.not_spared : ¬ ∀ (first last : Run) (operations : List Operation) (id : StreamId)
    (call : StreamCall) (conditions : Conditions), first.Built → Session first operations last →
      id < last.machine.streams.length → (last.machine.stream id).status.detached = true →
        call.Fits (last.machine.stream id).direction →
          (last.under conditions).Spared id (call.perform id (last.under conditions)).2 := by
  intro holds
  have session := Session.played.append Session.playingOn
  have spared := holds _ _ _ (0 : Nat) .standby {} Run.built_stock session (by decide +kernel)
    (by decide +kernel) trivial
  have routed : (Run.playingOn.under {}).machine.route .playback ≠ .none := by decide +kernel
  have cleared : (StreamCall.standby.perform (0 : Nat) (Run.playingOn.under {})).2.machine.route
      .playback = .none := by
    decide +kernel
  exact routed ((spared.routes .playback).symm.trans cleared)

end PhoneAudio
