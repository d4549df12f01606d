import Mathlib.Logic.Relation
import PhoneAudio.Handset.Waking
import PhoneAudio.Proofs.Handset.Audible
import PhoneAudio.Proofs.Handset.Takeover
import PhoneAudio.Proofs.Machine.Instants

/-!
# Operations at every instant

What operations do to the router, the Bluetooth links and the PCMs comes in steps of few kinds
(`PhoneAudio.Run.Instant`): a stream is closed, or opened while it has no PCM, or the router is
called in such a way that ordinary playback and a call stay apart. An action that proceeds by such
steps whatever it finds is described by `PhoneAudio.Act.Proceeds`, and one that does so from the
states it is used in by what a run shows along the way (`PhoneAudio.Run.Along`).
-/

namespace PhoneAudio

namespace RouterCall

variable {router : Router}

/-- A call that gives neither ordinary playback nor the downlink any endpoints. -/
def Silences : RouterCall → Prop
  | setRoute .playback endpoints | setRoute .downlink endpoints => endpoints = .none
  | _ => True

/-- Setting a route keeps a balanced router balanced when ordinary playback or the downlink has no
endpoints afterwards. -/
theorem balanced_setRoute (balanced : router.Balanced) {lane : Lane} {endpoints : EndpointSet}
    (apart : (router.store lane endpoints).routes.playback = .none ∨
      (router.store lane endpoints).routes.downlink = .none) :
    ((setRoute lane endpoints).onRouter router).1.Balanced := by
  have stored : (router.store lane endpoints).Balanced := ⟨apart, balanced.factor⟩
  have same : ((setRoute lane endpoints).onRouter router).1 = router.store lane endpoints :=
    Router.setRoute_fst stored
  rw [same]
  exact stored

/-- Silencing keeps a balanced router balanced. -/
theorem balanced_of_silences {call : RouterCall} (silences : call.Silences)
    (balanced : router.Balanced) : (call.onRouter router).1.Balanced := by
  cases call with
  | setRoute lane endpoints =>
      refine balanced_setRoute balanced ?_
      cases lane with
      | playback => exact .inl silences
      | downlink => exact .inr silences
      | capture => exact balanced.apart
      | uplink => exact balanced.apart
  | setDisabled lane off =>
      have same : ((setDisabled lane off).onRouter router).1 =
          { router with disabled := router.disabled.set lane off } :=
        Router.setDisabled_fst balanced lane off
      rw [same]
      exact ⟨balanced.apart, balanced.factor⟩
  | setCallVolume volume =>
      have same : ((setCallVolume volume).onRouter router).1 =
          { router with callVolume := volume } := Router.setCallVolume_fst balanced volume
      rw [same]
      exact ⟨balanced.apart, balanced.factor⟩
  | setMediaVolume volume =>
      have same : ((setMediaVolume volume).onRouter router).1 =
          { router with mediaVolume := volume } := Router.setMediaVolume_fst balanced volume
      rw [same]
      exact ⟨balanced.apart, balanced.factor⟩

end RouterCall

namespace Act

/-- Opens the PCM of a stream without routing it. -/
def engage (id : StreamId) : Act (Except AudioError Unit) := do
  let setup := PcmSetup.codec (← machine).settings (← stream id).direction
  let opened ← call (.stream id) .openingPcm (.openPcm (.stream id) setup) (onPcm (·.openPcm setup))
  match opened with
  | .error error => return .error (.pcm error)
  | .ok pcm =>
    if pcm.ready then
      installPcm id pcm
      return .ok ()
    else
      call (.stream id) .closingPcm (.closePcm (.stream id) setup) (closing pcm)
      return .error (.pcm .notReady)

/-- Opening a stream is opening its PCM and then routing it. -/
theorem openLocked_eq (id : StreamId) : openLocked id = engage id >>= fun opened =>
    match opened with
    | .error error => return .error error
    | .ok () => do
      routeOpened id
      return .ok () := by
  funext run
  unfold openLocked engage
  simp only [bind_apply]
  generalize call (.stream id) .openingPcm _ _ _ = answered
  obtain ⟨error | pcm, after⟩ := answered
  · rfl
  · dsimp only
    split <;> rfl

end Act

/-- No PCM of the codec is open that would have to be opened after one of a direction. -/
def Machine.FreeFor (machine : Machine) (direction : Direction) : Prop :=
  machine.drivers.pcm.liveOn .codec .capture = 0 ∧
    (direction = .playback → machine.drivers.pcm.liveOn .codec .playback = 0)

/-- A step of an operation. If capture streams are alone, every PCM of the codec is opened while it
is free for it. -/
inductive Run.Instant (alone : Prop) : Run → Run → Prop
  | aside {run after : Run} (stays : run.Stays Machine.wires Happening.isAside after) :
      Instant alone run after
  | shut {run : Run} (id : StreamId) : Instant alone run (Act.closeStreamPcm id run).2
  | engaged {run : Run} (id : StreamId) (empty : (run.machine.stream id).pcm = none)
      (free : alone → run.machine.FreeFor (run.machine.stream id).direction) :
      Instant alone run (Act.engage id run).2
  | routed {run : Run} (call : RouterCall)
      (balanced : ∀ router, run.machine.hardware.router = some router → router.Balanced →
        (call.onRouter router).1.Balanced) : Instant alone run (call.perform run).2
  | gone {run : Run} : Instant alone run (Act.closeRouter run).2

/-- A run that leads to another in steps. -/
def Run.Proceeds (alone : Prop) : Run → Run → Prop :=
  Relation.ReflTransGen (Run.Instant alone)

namespace Act

variable {α β : Type} {alone : Prop}

/-- An action that proceeds in steps from every run. -/
def Proceeds (alone : Prop) (action : Act α) : Prop :=
  ∀ run : Run, Run.Proceeds alone run (action run).2

/-- What is aside proceeds. -/
theorem Aside.proceeds {action : Act α} (aside : Aside action) : Proceeds alone action :=
  fun run => .single (.aside (aside run))

theorem proceeds_pure (answer : α) : Proceeds alone (pure answer : Act α) :=
  fun _ => .refl

/-- Proceeding is handed on from one action to the next. -/
theorem Proceeds.bind {action : Act α} {next : α → Act β} (first : Proceeds alone action)
    (rest : ∀ answer, Proceeds alone (next answer)) : Proceeds alone (action >>= next) :=
  fun run => (first run).trans (rest _ _)

/-- An action aside, followed by another. -/
theorem Aside.then {action : Act α} {next : α → Act β} (first : Aside action)
    (rest : ∀ answer, Proceeds alone (next answer)) : Proceeds alone (action >>= next) :=
  first.proceeds.bind rest

theorem proceeds_withHardware {action : Act α} (proceeds : Proceeds alone action) :
    Proceeds alone (withHardware action) :=
  (aside_lock _).then fun _ => proceeds.bind fun _ => (aside_unlock _).then fun _ =>
    proceeds_pure _

theorem proceeds_withHardware_from {action : Act α} {run : Run}
    (proceeds : (lock .hardware run).2.Proceeds alone (action (lock .hardware run).2).2) :
    run.Proceeds alone (withHardware action run).2 :=
  .head (.aside (aside_lock .hardware run))
    (proceeds.tail (.aside (aside_unlock .hardware _)))

/-- A call on the router that silences a lane, or none. -/
theorem proceeds_call (call : RouterCall) (silences : call.Silences) :
    Proceeds alone call.perform :=
  fun _ => .single (.routed call fun _ _ => RouterCall.balanced_of_silences silences)

theorem aside_askForLock (id : StreamId) : Aside (askForLock id) :=
  aside_changeStatus id _

theorem aside_lockFor (id : StreamId) : Aside (lockFor id) :=
  (aside_lock _).bind fun _ => aside_changeStatus id _

theorem aside_waitFor (own : Option StreamId) (id : StreamId) :
    Aside (waitFor own (pure ()) id) := by
  refine (aside_unlock _).bind fun _ => ?_
  cases own with
  | none =>
      refine (stays_pure ()).bind fun _ => ?_
      exact (aside_lockFor id).bind fun _ => aside_lock _
  | some own =>
      refine (aside_unlock _).bind fun _ => (stays_pure ()).bind fun _ => ?_
      exact (aside_lockFor id).bind fun _ => (aside_lock _).bind fun _ => aside_lock _

/-- Taking over undisturbed is aside. -/
theorem aside_takeOver (direction : Direction) (own : Option StreamId) :
    Aside (takeOver direction own []) := by
  intro run
  obtain ⟨-, ended⟩ | ⟨id, -, ended⟩ := takeOver_undisturbed direction own run
  · rw [ended]
    exact .refl run
  · rw [ended]
    exact (aside_askForLock id run).trans (aside_waitFor own id _)

theorem aside_tellRetries (direction : Direction)
    (taken : Option (Takeover.Taken StreamId Unit)) : Aside (tellRetries direction taken) := by
  cases taken with
  | none => exact stays_pure _
  | some taken =>
      unfold tellRetries
      dsimp only
      split
      · exact aside_tell _ _
      · exact stays_pure _

theorem proceeds_closeStreamPcm (id : StreamId) : Proceeds alone (closeStreamPcm id) :=
  fun _ => .single (.shut id)

/-- Closing a stream proceeds: it clears the route and closes the PCM. -/
theorem proceeds_closeLocked (id : StreamId) : Proceeds alone (closeLocked id) := by
  have silence : Proceeds alone (setRoute .playback .none) :=
    proceeds_call (.setRoute .playback .none) rfl
  refine Aside.then (stays_stream id) fun stream => ?_
  dsimp only
  split
  · exact silence.bind fun _ => proceeds_closeStreamPcm id
  · exact proceeds_closeStreamPcm id

theorem aside_age (id : StreamId) : Aside (age id) :=
  (stays_note rfl).bind fun _ => aside_changeStatus id _

/-- Putting a stream to standby proceeds. -/
theorem proceeds_standbyLocked (id : StreamId) : Proceeds alone (standbyLocked id) := by
  refine (aside_age id).then fun _ => Aside.then (stays_stream id) fun stream => ?_
  dsimp only
  split
  · refine (aside_changeStatus id _).then fun _ => (aside_releaseWake id).then fun _ => ?_
    refine Aside.then (stays_stream id) fun stream => (aside_tell _ _).then fun _ => ?_
    exact proceeds_closeLocked id
  · exact proceeds_closeLocked id

theorem proceeds_standby (id : StreamId) : Proceeds alone (standby id) := by
  refine Aside.then stays_hardware fun hardware => ?_
  split
  · refine (aside_askForLock id).then fun _ => (aside_lockFor id).then fun _ => ?_
    refine (proceeds_withHardware (proceeds_standbyLocked id)).bind fun _ => ?_
    exact (aside_unlock _).then fun _ => proceeds_pure _
  · exact proceeds_pure _

theorem aside_settleWaking (id : StreamId) (opened : Except AudioError Unit) :
    Aside (settleWaking id opened) := by
  cases opened with
  | error error => exact (aside_releaseWake id).bind fun _ => stays_pure _
  | ok =>
      refine (aside_changeStatus id _).bind fun _ => (stays_stream id).bind fun stream => ?_
      exact (aside_tell _ _).bind fun _ => stays_pure _

end Act

/-- A run that shows a state, to which another one has proceeded. -/
structure Run.Along (alone : Prop) (origin run : Run) (state : Machine) : Prop where
  shows : run.Shows state
  proceeds : origin.Proceeds alone run

namespace Act

variable {α : Type} {alone : Prop} {origin : Run} {state : Machine} {post : α → Machine → Prop}

/-- An action that proceeds from the runs that show a state. -/
theorem Leads.along {action : Act α} (leads : Leads Run.Shows action state post)
    (proceeds : ∀ run, run.Shows state → Run.Proceeds alone run (action run).2) :
    Leads (Run.Along alone origin) action state post := by
  intro run ⟨shown, behind⟩
  obtain ⟨after, shows, described⟩ := leads run shown
  exact ⟨after, ⟨shows, behind.trans (proceeds run shown)⟩, described⟩

/-- What is aside leads along the way that it leads. -/
theorem Leads.asideAlong {action : Act α} (leads : Leads Run.Shows action state post)
    (aside : Aside action) : Leads (Run.Along alone origin) action state post :=
  leads.along fun run _ => aside.proceeds run

/-- An action that proceeds whatever it finds. -/
theorem Leads.proceedAlong {action : Act α} (leads : Leads Run.Shows action state post)
    (proceeds : Proceeds alone action) : Leads (Run.Along alone origin) action state post :=
  leads.along fun run _ => proceeds run

theorem along_withHardware {action : Act α}
    (leads : Leads (Run.Along alone origin) action state post) :
    Leads (Run.Along alone origin) (withHardware action) state post :=
  ((leads_lock _).asideAlong (aside_lock _)).then fun _ => leads.bind fun _ _ holds =>
    ((leads_unlock _).asideAlong (aside_unlock _)).then fun _ => leads_pure _ holds

/-- What holds along the way from any run holds of where the action leads. -/
theorem Leads.of_along {action : Act α}
    (leads : ∀ origin, Leads (Run.Along False origin) action state post) :
    Leads Run.Shows action state post := by
  intro run shown
  obtain ⟨after, ⟨shows, -⟩, described⟩ := leads run run ⟨shown, .refl⟩
  exact ⟨after, shows, described⟩

end Act

namespace Machine

/-- In a call nothing else is played. -/
def SilentInCall (machine : Machine) : Prop :=
  machine.hardware.mode = .inCall → ∀ router, machine.hardware.router = some router →
    router.routes.playback = .none

/-- No stream of a direction has a PCM. -/
def Vacant (machine : Machine) (direction : Direction) : Prop :=
  ∀ stream ∈ machine.streams, stream.direction = direction → stream.pcm = none

/-- In a sound state only open streams have PCMs. -/
theorem Sound.vacant {machine : Machine} {exempt : List StreamId} {direction : Direction}
    (sound : machine.Sound exempt) (exempted : ∀ id ∈ exempt, machine.isOpen id = true)
    (empty : ∀ id, machine.isOpen id = true → (machine.stream id).direction = direction →
      (machine.stream id).pcm = none) : machine.Vacant direction := by
  intro stream member way
  obtain ⟨id, inside, rfl⟩ := List.mem_iff_getElem.mp member
  have here : machine.streams[id] = machine.stream id := (List.getD_eq_getElem _ _ inside).symm
  rw [here] at way ⊢
  cases isOpen : machine.isOpen id with
  | true => exact empty id isOpen way
  | false =>
      have away : id ∉ exempt := by
        intro member
        rw [exempted id member] at isOpen
        cases isOpen
      have detached := sound.attached id inside
      rw [isOpen] at detached
      have quiet := sound.quiet id inside away
      rw [sound.closed id inside detached] at quiet
      exact Option.isNone_iff_eq_none.mp quiet.symm

end Machine

/-- In a call no sound state plays anything else. -/
theorem Run.Shows.silentInCall {run : Run} {state : Machine} {exempt : List StreamId}
    (shows : run.Shows state) (sound : state.Sound exempt) : run.machine.SilentInCall := by
  intro inCall router there
  have mode := shows.mode
  refine (sound.proper router (shows.router.symm.trans there)).inside ?_
  rw [sound.called, ← mode, decide_eq_true inCall]

/-- Where the codec is vacant, none of its PCMs is open. -/
theorem Run.Shows.liveOn_eq_zero {run : Run} {state : Machine} {direction : Direction}
    (shows : run.Shows state) (vacant : state.Vacant direction) :
    run.machine.drivers.pcm.liveOn .codec direction = 0 := by
  refine (shows.tallied.live_eq direction).trans (List.countP_eq_zero.mpr fun stream member => ?_)
  by_cases way : stream.direction = direction
  · rw [vacant stream member way]
    simp
  · simp [way]

namespace Act

variable {alone : Prop} {origin run : Run} {state : Machine}

/-- Opening the PCM of a stream leaves the audio hardware. -/
theorem keeps_hardware_engage (id : StreamId) :
    Keeps (fun run => run.machine.hardware) (engage id) := by
  intro run
  unfold engage installPcm
  simp only [bind_apply]
  generalize answered : call (.stream id) .openingPcm _ _ _ = called
  have same : called.2.machine.hardware = run.machine.hardware := by
    rw [← answered]
    rfl
  obtain ⟨error | pcm, after⟩ := called
  · exact same
  · dsimp only
    split
    · rw [bind_apply, bind_apply, stream_apply, bind_apply]
      dsimp only
      cases (after.machine.stream id).pcm <;> exact same
    · exact same

/-- Routing a stream that was opened. Outside a call, the downlink has to have no endpoints. -/
theorem proceeds_routeOpened (id : StreamId)
    (outside : run.machine.hardware.mode ≠ .inCall →
      ∀ router, run.machine.hardware.router = some router → router.routes.downlink = .none) :
    run.Proceeds alone (routeOpened id run).2 := by
  unfold routeOpened
  rw [bind_apply, stream_apply]
  dsimp only
  cases (run.machine.stream id).direction with
  | playback =>
      dsimp only
      rw [bind_apply, hardware_apply]
      dsimp only
      split
      · rename_i outOfCall
        refine .single (.routed (.setRoute .playback _) fun router there balanced => ?_)
        exact RouterCall.balanced_setRoute balanced (.inr (outside outOfCall router there))
      · exact .refl
  | capture =>
      have reset : Aside (changeStream id fun stream =>
          { stream with pipeline := stream.pipeline.reset }) := by
        refine wires_changeStream id ?_
        exact fun _ => rfl
      exact reset.then (fun _ => proceeds_call (.setRoute .capture _) trivial) run

/-- **Opening** proceeds in steps from a sound state in which the stream has no PCM. -/
theorem along_openLocked {id : StreamId} {exempt : List StreamId} (sound : state.Sound exempt)
    (inside : id < state.streams.length) (empty : (state.stream id).pcm = none)
    (free : alone → state.Vacant .capture ∧
      ((state.stream id).direction = .playback → state.Vacant .playback)) :
    Leads (Run.Along alone origin) (openLocked id) state fun answer after =>
      (∃ error, answer = .error error ∧ after = state) ∨
        ∃ pcm, answer = .ok () ∧ after = state.opened id pcm := by
  refine (leads_openLocked inside empty).along fun run shown => ?_
  have direction := shown.direction id
  have vacant : (run.machine.stream id).pcm = none := by
    rw [← empty, ← shown.stream id]
    rfl
  have engaged : run.Proceeds alone (engage id run).2 := by
    refine .single (.engaged id vacant fun unaccompanied => ?_)
    obtain ⟨capture, playback⟩ := free unaccompanied
    rw [direction]
    exact ⟨shown.liveOn_eq_zero capture, fun way => shown.liveOn_eq_zero (playback way)⟩
  have outside : (engage id run).2.machine.hardware.mode ≠ .inCall →
      ∀ router, (engage id run).2.machine.hardware.router = some router →
        router.routes.downlink = .none := by
    have same : (engage id run).2.machine.hardware = run.machine.hardware :=
      keeps_hardware_engage id run
    have mode := shown.mode
    rw [same, mode]
    intro outOfCall router there
    refine ((sound.proper router (shown.router.symm.trans there)).outside ?_).2
    rw [sound.called, decide_eq_false outOfCall]
  rw [openLocked_eq, bind_apply]
  refine engaged.trans ?_
  generalize engage id run = answered at outside
  obtain ⟨error | done, after⟩ := answered
  · exact .refl
  · exact proceeds_routeOpened id outside

end Act

end PhoneAudio
