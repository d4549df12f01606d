import PhoneAudio.Proofs.Handset.Supplies

/-!
# What operations do not move

Whether there is a listener never changes, and nothing but setting parameters moves a stream to
other devices (`PhoneAudio.Operation.fixed_perform`). Most parts of an operation are silent besides
(`PhoneAudio.Act.Silent`): they tell the listener nothing, open no PCM for a stream and transfer
nothing.
-/

namespace PhoneAudio

/-- The direction of a stream, and its devices. -/
def Stream.posting (stream : Stream) : Direction × Devices :=
  (stream.direction, stream.devices)

/-- The directions of all streams, and their devices. -/
def Machine.postings (machine : Machine) : List (Direction × Devices) :=
  machine.streams.map Stream.posting

/-- Whether there is a listener, and the directions and devices of all streams. -/
def Machine.fixtures (machine : Machine) : Bool × List (Direction × Devices) :=
  (machine.drivers.hasListener, machine.postings)

/-- Whether something that happens is no event, and no call that opens a PCM for a stream or
transfers. -/
def Happening.isSilent : Happening → Bool
  | openPcm (.stream _) _ | writePcm .. | readPcm .. | event .. => false
  | _ => true

namespace Machine

variable {machine after : Machine}

theorem length_postings (machine : Machine) : machine.postings.length = machine.streams.length :=
  List.length_map _

/-- The posting of a stream is listed at its place. -/
theorem posting_eq (machine : Machine) (id : StreamId) :
    (machine.stream id).posting = machine.postings.getD id (default : Stream).posting :=
  (List.getD_map machine.streams default Stream.posting).symm

/-- What is posted depends on what is fixed. -/
theorem posting_of_fixtures (same : after.fixtures = machine.fixtures) (id : StreamId) :
    (after.stream id).posting = (machine.stream id).posting := by
  have postings : after.postings = machine.postings := congrArg Prod.snd same
  rw [posting_eq, posting_eq, postings]

theorem postings_adjust_of_unseen (machine : Machine) (id : StreamId) {f : Stream → Stream}
    (unseen : ∀ stream, (f stream).posting = stream.posting) :
    (machine.adjust id f).postings = machine.postings :=
  map_modify_of_unseen unseen machine.streams id

end Machine

namespace Act

variable {α β : Type} {kind : Happening → Bool}

/-- An action that leaves the fixtures. -/
def Fixed (action : Act α) : Prop :=
  Stays Machine.fixtures Happening.isAny action

/-- An action that leaves the fixtures and is silent. -/
def Silent (action : Act α) : Prop :=
  Stays Machine.fixtures Happening.isSilent action

/-- What is silent is fixed. -/
theorem Silent.fixed {action : Act α} (silent : Silent action) : Fixed action :=
  fun run => (silent run).mono fun _ _ => rfl

/-- A silent action, followed by another. -/
theorem Silent.then {action : Act α} {next : α → Act β} (first : Silent action)
    (rest : ∀ answer, Fixed (next answer)) : Fixed (action >>= next) :=
  first.fixed.bind rest

/-- Changing a stream leaves what is fixed, as long as it leaves its posting. -/
theorem fixtures_changeStream (id : StreamId) {f : Stream → Stream}
    (unseen : ∀ stream, (f stream).posting = stream.posting) :
    Stays Machine.fixtures kind (changeStream id f) :=
  stays_change fun machine =>
    congrArg (Prod.mk machine.drivers.hasListener) (machine.postings_adjust_of_unseen id unseen)

theorem fixtures_changeHardware (f : Hardware → Hardware) :
    Stays Machine.fixtures kind (changeHardware f) :=
  stays_change fun _ => rfl

theorem fixtures_setActivity (activity : Activity) (component : Component) :
    Stays Machine.fixtures kind (setActivity activity component) := by
  cases component with
  | router => exact fixtures_changeHardware _
  | stream id => exact fixtures_changeStream id fun _ => rfl

/-- Drivers do not find out whether there is a listener. -/
theorem fixtures_bareCall {what : Happening} (sort : kind what = true)
    {effect : Drivers → α × Drivers}
    (listener : ∀ drivers, (effect drivers).2.hasListener = drivers.hasListener) :
    Stays Machine.fixtures kind (bareCall what effect) :=
  stays_bareCall sort fun machine =>
    congrArg (fun listener => (listener, machine.postings)) (listener machine.drivers)

/-- A call leaves what is fixed, as long as it leaves whether there is a listener. -/
theorem fixtures_call (caller : Component) (activity : Activity) {what : Happening}
    (sort : kind what = true) {effect : Drivers → α × Drivers}
    (listener : ∀ drivers, (effect drivers).2.hasListener = drivers.hasListener) :
    Stays Machine.fixtures kind (call caller activity what effect) :=
  (fixtures_setActivity _ _).bind fun _ => (fixtures_bareCall sort listener).bind fun _ =>
    (fixtures_setActivity _ _).bind fun _ => stays_pure _

theorem silent_changeStatus (id : StreamId) (f : StreamStatus → StreamStatus) :
    Silent (changeStatus id f) :=
  fixtures_changeStream id fun _ => rfl

theorem silent_age (id : StreamId) : Silent (age id) :=
  (stays_note rfl).bind fun _ => silent_changeStatus id _

theorem silent_setLocked (locked : Bool) (target : Lock) : Silent (setLocked locked target) := by
  cases target with
  | hardware => exact fixtures_changeHardware _
  | stream id => exact fixtures_changeStream id fun _ => rfl

theorem silent_lock (target : Lock) : Silent (lock target) :=
  (stays_note rfl).bind fun _ => silent_setLocked true target

theorem silent_unlock (target : Lock) : Silent (unlock target) :=
  (stays_note rfl).bind fun _ => silent_setLocked false target

theorem silent_withHardware {action : Act α} (silent : Silent action) :
    Silent (withHardware action) :=
  (silent_lock _).bind fun _ => silent.bind fun _ => (silent_unlock _).bind fun _ => stays_pure _

theorem fixed_withHardware {action : Act α} (fixed : Fixed action) : Fixed (withHardware action) :=
  (silent_lock _).then fun _ => fixed.bind fun _ => (silent_unlock _).then fun _ => stays_pure _

theorem silent_askForLock (id : StreamId) : Silent (askForLock id) :=
  silent_changeStatus id _

theorem silent_lockFor (id : StreamId) : Silent (lockFor id) :=
  (silent_lock _).bind fun _ => silent_changeStatus id _

theorem silent_waitFor (own : Option StreamId) (id : StreamId) :
    Silent (waitFor own (pure ()) id) := by
  refine (silent_unlock _).bind fun _ => ?_
  cases own with
  | none =>
      exact (stays_pure ()).bind fun _ => (silent_lockFor id).bind fun _ => silent_lock _
  | some own =>
      refine (silent_unlock _).bind fun _ => (stays_pure ()).bind fun _ => ?_
      exact (silent_lockFor id).bind fun _ => (silent_lock _).bind fun _ => silent_lock _

/-- Taking over undisturbed is silent. -/
theorem silent_takeOver (direction : Direction) (own : Option StreamId) :
    Silent (takeOver direction own []) := by
  intro run
  obtain ⟨-, ended⟩ | ⟨id, -, ended⟩ := takeOver_undisturbed direction own run
  · rw [ended]
    exact .refl run
  · rw [ended]
    exact (silent_askForLock id run).trans (silent_waitFor own id _)

theorem silent_unlockTaken (taken : Option (Takeover.Taken StreamId Unit)) :
    Silent (unlockTaken taken) := by
  cases taken with
  | none => exact stays_pure _
  | some taken => exact silent_unlock _

theorem silent_callWakeLock {what : Happening} (sort : what.isSilent = true)
    (wakeCall : Bench.WakeCall) : Silent (callWakeLock what wakeCall) :=
  composes_stays.callWakeLock (fixtures_bareCall sort fun _ => rfl)

theorem silent_acquireWake (id : StreamId) : Silent (acquireWake id) :=
  (stays_stream id).bind fun _ => silent_callWakeLock rfl _

theorem silent_releaseWake (id : StreamId) : Silent (releaseWake id) :=
  (stays_stream id).bind fun _ => silent_callWakeLock rfl _

theorem fixtures_tell {id : Option StreamId} {event : Event}
    (sort : kind (.event id event) = true) : Stays Machine.fixtures kind (tell id event) :=
  composes_stays.tell (fixtures_bareCall sort fun _ => rfl)

/-- Telling an event leaves what is fixed. -/
theorem fixed_tell (id : Option StreamId) (event : Event) : Fixed (tell id event) :=
  fixtures_tell rfl

theorem fixed_tellRetries (direction : Direction)
    (taken : Option (Takeover.Taken StreamId Unit)) : Fixed (tellRetries direction taken) := by
  cases taken with
  | none => exact stays_pure _
  | some taken =>
      unfold tellRetries
      dsimp only
      split
      · exact fixed_tell _ _
      · exact stays_pure _

theorem routes_silent : Routes fun action => Silent action where
  toComposes := composes_stays
  finds _ := fixtures_call _ _ rfl fun _ => rfl
  writes _ _ _ := fixtures_call _ _ rfl fun _ => rfl
  opens _ := fixtures_bareCall rfl fun _ => rfl
  starts _ _ := fixtures_bareCall rfl fun _ => rfl
  closes _ := fixtures_bareCall rfl fun _ => rfl
  links _ _ := fixtures_changeHardware _

theorem silent_reroute (f : Router → Router × List RouteStep) : Silent (reroute f) :=
  routes_silent.reroute (fun _ => fixtures_changeHardware _) f

theorem silent_closeRouter : Silent closeRouter :=
  routes_silent.closeRouter fun _ => fixtures_changeHardware _

theorem silent_followDevices (devices : Devices) : Silent (followDevices devices) :=
  routes_silent.followDevices silent_reroute devices

theorem silent_enterCall : Silent enterCall :=
  routes_silent.enterCall silent_reroute

theorem silent_leaveCall : Silent leaveCall :=
  routes_silent.leaveCall silent_reroute

theorem silent_closeStreamPcm (id : StreamId) : Silent (closeStreamPcm id) := by
  refine (stays_stream id).bind fun stream => ?_
  cases stream.pcm with
  | none => exact stays_pure _
  | some pcm =>
      refine Stays.bind (fixtures_changeStream id ?_) fun _ => fixtures_call _ _ rfl fun _ => rfl
      exact fun _ => rfl

theorem silent_closeLocked (id : StreamId) : Silent (closeLocked id) := by
  refine (stays_stream id).bind fun stream => ?_
  dsimp only
  split
  · exact (silent_reroute _).bind fun _ => silent_closeStreamPcm id
  · exact silent_closeStreamPcm id

theorem silent_installPcm (id : StreamId) (pcm : OpenPcm) : Silent (installPcm id pcm) := by
  refine (stays_stream id).bind fun stream => Stays.bind (fixtures_changeStream id ?_) fun _ => ?_
  · exact fun _ => rfl
  cases stream.pcm with
  | none => exact stays_pure _
  | some previous => exact fixtures_bareCall rfl fun _ => rfl

theorem silent_routeOpened (id : StreamId) : Silent (routeOpened id) := by
  refine (stays_stream id).bind fun stream => ?_
  cases stream.direction with
  | playback =>
      refine stays_hardware.bind fun hardware => ?_
      split
      · exact silent_reroute _
      · exact stays_pure _
  | capture =>
      refine Stays.bind (fixtures_changeStream id ?_) fun _ => silent_reroute _
      exact fun _ => rfl

theorem fixed_engage (id : StreamId) : Fixed (engage id) := by
  refine stays_machine.bind fun machine => (stays_stream id).bind fun stream => ?_
  refine Stays.bind (fixtures_call _ _ rfl fun _ => rfl) fun opened => ?_
  cases opened with
  | error error => exact stays_pure _
  | ok pcm =>
      dsimp only
      split
      · exact (silent_installPcm id pcm).then fun _ => stays_pure _
      · exact Stays.bind (fixtures_call _ _ rfl fun _ => rfl) fun _ => stays_pure _

/-- Opening a stream leaves what is fixed. -/
theorem fixed_openLocked (id : StreamId) : Fixed (openLocked id) := by
  rw [openLocked_eq]
  refine (fixed_engage id).bind fun opened => ?_
  cases opened with
  | error error => exact stays_pure _
  | ok => exact (silent_routeOpened id).then fun _ => stays_pure _

section Standby

variable (silence : ∀ what : Happening, what.isSilent = true → kind what = true)
include silence

theorem Silent.ofKind {action : Act α} (silent : Silent action) :
    Stays Machine.fixtures kind action :=
  fun run => (silent run).mono silence

variable {id : StreamId}
  (told : ∀ direction, kind (.event (some id) (.standbyEntered direction)) = true)
include told

/-- All that is told when a stream is put to standby is that it entered standby. -/
theorem fixtures_standbyLocked : Stays Machine.fixtures kind (standbyLocked id) := by
  have change : ∀ f : StreamStatus → StreamStatus,
      Stays Machine.fixtures kind (changeStatus id f) :=
    fun f => (silent_changeStatus id f).ofKind silence
  rw [standbyLocked_eq]
  refine Stays.bind ?_ fun _ => (silent_closeLocked id).ofKind silence
  refine ((silent_age id).ofKind silence).bind fun _ => (stays_stream id).bind fun stream => ?_
  split
  · refine (change _).bind fun _ => Stays.bind ((silent_releaseWake id).ofKind silence) fun _ => ?_
    exact (stays_stream id).bind fun stream => fixtures_tell (told _)
  · exact stays_pure _

/-- Standby leaves what is fixed. -/
theorem fixtures_standby : Stays Machine.fixtures kind (standby id) := by
  have still : ∀ {α : Type} {action : Act α}, Silent action → Stays Machine.fixtures kind action :=
    fun silent => silent.ofKind silence
  refine stays_hardware.bind fun hardware => ?_
  split
  · refine (still (silent_askForLock id)).bind fun _ => (still (silent_lockFor id)).bind fun _ => ?_
    refine Stays.bind ?_ fun _ => (still (silent_unlock _)).bind fun _ => stays_pure _
    refine (still (silent_lock _)).bind fun _ => ?_
    refine (fixtures_standbyLocked silence told).bind fun _ => ?_
    exact (still (silent_unlock _)).bind fun _ => stays_pure _
  · exact stays_pure _

end Standby

theorem fixed_standbyLocked (id : StreamId) : Fixed (standbyLocked id) :=
  fixtures_standbyLocked (fun _ _ => rfl) fun _ => rfl

theorem fixed_standby (id : StreamId) : Fixed (standby id) :=
  fixtures_standby (fun _ _ => rfl) fun _ => rfl

theorem fixed_standbyTaken (taken : Option (Takeover.Taken StreamId Unit)) :
    Fixed (standbyTaken taken) := by
  cases taken with
  | none => exact stays_pure _
  | some taken => exact fixed_standbyLocked _

/-! ## Transfers -/

theorem fixed_reopenOrStandby (id : StreamId) : Fixed (reopenOrStandby id) := by
  refine (fixed_openLocked id).bind fun opened => ?_
  cases opened with
  | error error => exact fixed_standbyLocked id
  | ok => exact stays_pure _

theorem fixed_settleWaking (id : StreamId) (opened : Except AudioError Unit) :
    Fixed (settleWaking id opened) := by
  cases opened with
  | error error => exact (silent_releaseWake id).then fun _ => stays_pure _
  | ok =>
      refine (silent_changeStatus id _).then fun _ => (stays_stream id).bind fun stream => ?_
      exact (fixed_tell _ _).bind fun _ => stays_pure _

theorem fixed_wakePlayback (id : StreamId) : Fixed (wakePlayback id []) := by
  refine (silent_takeOver _ _).then fun sibling => (fixed_tellRetries _ _).bind fun _ => ?_
  cases sibling with
  | none => exact (fixed_openLocked id).bind fun opened => fixed_settleWaking id opened
  | some taken =>
      refine (silent_closeLocked _).then fun _ => (fixed_openLocked id).bind fun opened => ?_
      refine (fixed_reopenOrStandby _).bind fun _ => (silent_unlock _).then fun _ => ?_
      exact fixed_settleWaking id opened

theorem fixed_wakeCapture (id : StreamId) : Fixed (wakeCapture id []) := by
  refine (silent_takeOver _ _).then fun sibling => (fixed_tellRetries _ _).bind fun _ => ?_
  cases sibling with
  | none => exact (fixed_openLocked id).bind fun opened => fixed_settleWaking id opened
  | some taken =>
      refine (silent_closeLocked _).then fun _ => (fixed_reopenOrStandby _).bind fun _ => ?_
      refine (silent_unlock _).then fun _ => (fixed_openLocked id).bind fun opened => ?_
      exact fixed_settleWaking id opened

/-- Waking a stream leaves what is fixed. -/
theorem fixed_wake (id : StreamId) : Fixed (wake id []) := by
  refine (stays_stream id).bind fun stream => ?_
  split
  · exact stays_pure _
  split
  · exact stays_pure _
  refine stays_hardware.bind fun hardware => ?_
  split
  · exact stays_pure _
  refine fixed_withHardware ((silent_acquireWake id).then fun _ => ?_)
  cases stream.direction with
  | playback => exact fixed_wakePlayback id
  | capture => exact fixed_wakeCapture id

theorem fixed_beginTransfer (id : StreamId) : Fixed (beginTransfer [] id) :=
  (silent_lock _).then fun _ => fixed_wake id

theorem fixed_writeOpen (id : StreamId) (bytes : Nat) : Fixed (writeOpen id bytes) := by
  refine (stays_stream id).bind fun stream => ?_
  cases stream.pcm with
  | none => exact stays_pure _
  | some pcm => exact Stays.bind (fixtures_call _ _ rfl fun _ => rfl) fun _ => stays_pure _

theorem fixed_readOpen (id : StreamId) (frames : Nat) : Fixed (readOpen id frames) := by
  refine stays_readOpen_of (fun raw => ?_) (fun pcm bytes => ?_) (fun pipeline samples => ?_) frames
  · exact fixtures_changeStream id fun _ => rfl
  · exact fixtures_call _ _ rfl fun _ => rfl
  · exact fixtures_changeStream id fun _ => rfl

theorem fixed_finishTransfer (id : StreamId) (outcome : Except AudioError α) :
    Fixed (finishTransfer id outcome) := by
  refine (silent_unlock _).then fun _ => ?_
  cases outcome with
  | ok answer => exact stays_pure _
  | error error =>
      refine (stays_stream id).bind fun stream => (fixed_tell _ _).bind fun _ => ?_
      exact (fixed_standby id).bind fun _ => stays_pure _

theorem fixed_write (id : StreamId) (bytes : Nat) : Fixed (write id bytes) := by
  refine (fixed_beginTransfer id).bind fun begun => ?_
  cases begun with
  | error error => exact Stays.bind (stays_pure _) fun _ => fixed_finishTransfer id _
  | ok => exact (fixed_writeOpen id bytes).bind fun _ => fixed_finishTransfer id _

theorem fixed_completeRead (id : StreamId) (buffer : List UInt8) (begun : Except AudioError Unit) :
    Fixed (completeRead id buffer begun) := by
  refine (stays_stream id).bind fun stream => ?_
  cases begun with
  | error error =>
      refine Stays.bind (stays_pure _) fun outcome => ?_
      refine (fixed_finishTransfer id outcome).bind fun finished => ?_
      cases finished <;> exact stays_pure _
  | ok =>
      refine (fixed_readOpen id _).bind fun outcome => ?_
      refine (fixed_finishTransfer id outcome).bind fun finished => ?_
      cases finished <;> exact stays_pure _

theorem fixed_read (id : StreamId) (buffer : List UInt8) : Fixed (read id buffer) := by
  refine (stays_stream id).bind fun stream => ?_
  dsimp only
  split
  · exact stays_pure _
  · exact (fixed_beginTransfer id).bind fun begun => fixed_completeRead id buffer begun

/-- Changing the mode leaves what is fixed. -/
theorem fixed_setMode (mode : PhoneMode) : Fixed (setMode mode) := by
  have change : Fixed (changeMode mode) := by
    refine stays_hardware.bind fun hardware => Stays.bind (fixtures_changeHardware _) fun _ => ?_
    split
    · exact fixed_tell _ _
    · exact stays_pure _
  have switch : ∀ output input, Fixed (switchCall mode output input) := by
    intro output input
    refine stays_hardware.bind fun hardware => ?_
    dsimp only
    split
    · split
      · refine (fixed_standbyTaken _).bind fun _ => (fixed_standbyTaken _).bind fun _ => ?_
        exact silent_enterCall.then fun _ => fixtures_changeHardware _
      · refine silent_leaveCall.then fun _ => (fixed_standbyTaken _).bind fun _ => ?_
        exact (fixed_standbyTaken _).bind fun _ => fixtures_changeHardware _
    · exact stays_pure _
  refine (fixed_withHardware ?_).bind fun _ => stays_pure _
  refine (silent_takeOver _ _).then fun output => (silent_takeOver _ _).then fun input => ?_
  refine (fixed_tellRetries _ _).bind fun _ => (fixed_tellRetries _ _).bind fun _ => ?_
  refine change.bind fun _ => (switch output input).bind fun _ => ?_
  exact (silent_unlockTaken _).then fun _ => (silent_unlockTaken _).fixed

theorem fixed_setMuted (muted : Bool) : Fixed (setMuted muted) := by
  refine (fixed_withHardware ?_).bind fun active => ?_
  · refine (silent_reroute _).then fun _ => (silent_reroute _).then fun _ => ?_
    refine Stays.bind (fixtures_changeHardware _) fun _ => ?_
    split
    · exact stays_machine.bind fun _ => stays_pure _
    · exact stays_pure _
  · cases active with
    | none => exact stays_pure _
    | some id => exact fixed_standby id

theorem fixed_setCallVolume (volume : Float32) : Fixed (setCallVolume volume) := by
  refine (fixed_withHardware ?_).bind fun _ => stays_pure _
  refine Stays.bind (fixtures_changeHardware _) fun _ => stays_hardware.bind fun hardware => ?_
  split
  · exact (silent_reroute _).fixed
  · exact stays_pure _

theorem fixed_setMediaVolume (volume : Float32) : Fixed (setMediaVolume volume) :=
  (silent_withHardware (silent_reroute _)).then fun _ => stays_pure _

theorem fixed_setCallDevices (devices : Devices) : Fixed (setCallDevices devices) :=
  (silent_withHardware (silent_followDevices devices)).then fun _ => stays_pure _

theorem silent_find (query : Query) : Silent (find query) := by
  refine composes_stays.find (fun what sort => stays_note ?_) silent_setLocked query
  cases what <;> first | rfl | cases sort

theorem fixed_answerKeys (id : StreamId) (keys : String) : Fixed (answerKeys id keys) := by
  unfold answerKeys
  dsimp only
  split
  · refine (silent_lock _).then fun _ => (stays_stream id).bind fun stream => ?_
    exact (silent_unlock _).then fun _ => stays_pure _
  · exact stays_pure _

theorem fixed_retire (id : StreamId) : Fixed (retire id) :=
  (silent_changeStatus id _).then fun _ => (fixed_standby id).bind fun _ => stays_pure _

theorem fixed_close (id : StreamId) : Fixed (close id) := by
  have takes : Silent (takeOut id) := silent_withHardware
    (stays_machine.bind fun _ => (fixtures_changeHardware _).bind fun _ => stays_pure _)
  refine takes.then fun isThere => ?_
  cases isThere with
  | true => exact (fixed_retire id).bind fun _ => stays_pure _
  | false => exact (stays_stream id).bind fun _ => stays_pure _

theorem fixed_retireAll (ids : List StreamId) : Fixed (retireAll ids) := by
  induction ids with
  | nil => exact stays_pure _
  | cons id rest ih => exact (fixed_retire id).bind fun _ => ih

theorem fixed_dropHardware : Fixed dropHardware := by
  refine Silent.then (silent_withHardware (stays_hardware.bind fun hardware =>
    (fixtures_changeHardware _).bind fun _ => stays_pure _)) fun streams => ?_
  refine (fixed_retireAll streams).bind fun _ => ?_
  exact Stays.bind (fixtures_changeHardware _) fun _ => silent_closeRouter.fixed

end Act

namespace Operation

/-- **Fixtures.** No operation but opening a stream and setting parameters changes which streams
there are, or the devices of one. -/
theorem fixed_perform {operation : Operation}
    (unopened : ∀ direction devices request, operation ≠ .openStream direction devices request)
    (untuned : ∀ id text, operation ≠ .applyParameters id text) :
    Act.Fixed operation.perform := by
  cases operation with
  | openStream direction devices request => exact absurd rfl (unopened direction devices request)
  | applyParameters id text => exact absurd rfl (untuned id text)
  | close id => exact (Act.fixed_close id).bind fun _ => Act.stays_pure _
  | standby id => exact (Act.fixed_standby id).bind fun _ => Act.stays_pure _
  | answerKeys id keys => exact (Act.fixed_answerKeys id keys).bind fun _ => Act.stays_pure _
  | write id bytes =>
      refine (Act.fixed_write id bytes).bind fun answer => ?_
      cases answer <;> exact Act.stays_pure _
  | read id buffer =>
      refine (Act.fixed_read id buffer).bind fun answer => ?_
      obtain ⟨outcome, filled⟩ := answer
      cases outcome <;> exact Act.stays_pure _
  | setMode mode => exact (Act.fixed_setMode mode).bind fun _ => Act.stays_pure _
  | setMuted muted => exact (Act.fixed_setMuted muted).bind fun _ => Act.stays_pure _
  | setCallVolume volume => exact (Act.fixed_setCallVolume volume).bind fun _ => Act.stays_pure _
  | setMediaVolume volume => exact (Act.fixed_setMediaVolume volume).bind fun _ => Act.stays_pure _
  | setCallDevices devices =>
      exact (Act.fixed_setCallDevices devices).bind fun _ => Act.stays_pure _
  | ask query => exact (Act.silent_find query).fixed.bind fun _ => Act.stays_pure _
  | dropHardware => exact Act.fixed_dropHardware.bind fun _ => Act.stays_pure _

end Operation

end PhoneAudio
