import PhoneAudio.Proofs.Handset.Tasks

/-!
# What small parts of an operation leave alone

Samples that were queued for capture wait there until a read takes them, and whether there is a wake
lock never changes (`PhoneAudio.Machine.supplies`). Small parts of an operation leave both, call no
wake lock and tell nothing about standby (`PhoneAudio.Act.Discreet`), unless they put a stream to
standby (`PhoneAudio.Run.Deed.discreet`). No operation but a read takes any samples
(`PhoneAudio.Run.Tasks.supplies`).
-/

namespace PhoneAudio

/-- Whether there is a wake lock, and the samples that wait to be captured. -/
def Machine.supplies (machine : Machine) : Bool × List Int16 :=
  (machine.drivers.hasWakeLock, machine.drivers.pcm.queue)

/-- Whether there is a wake lock. -/
def Machine.hasWakeLock (machine : Machine) : Bool :=
  machine.drivers.hasWakeLock

/-- Whether something that happens is no call to the wake lock and no event about standby. -/
def Happening.isDiscreet : Happening → Bool
  | acquireWake .. | releaseWake .. => false
  | event _ (.standbyEntered _) | event _ (.standbyExited _) => false
  | _ => true

theorem Happening.isDiscreet_of_isPlain {what : Happening} (plain : what.isPlain = true) :
    what.isDiscreet = true := by
  cases what with
  | event owner event => cases event <;> first | rfl | cases plain
  | lock target | tryLock target taken | unlock target | standby id => rfl
  | _ => cases plain

namespace Bench.Pcm

/-- Opening a PCM leaves what waits to be captured. -/
theorem queue_openPcm (driver : Pcm) (setup : PcmSetup) :
    (driver.openPcm setup).2.queue = driver.queue := by
  have device : ∀ driver : Pcm, (driver.openDevice setup).2.queue = driver.queue := by
    intro driver
    unfold openDevice
    split <;> rfl
  unfold openPcm
  split
  · exact device driver
  · rename_i outcome rest script
    cases outcome with
    | fails error => rfl
    | _ => exact device _

theorem queue_beginTransfer (driver : Pcm) (pcm : OpenPcm) (attempt : Transfer) :
    (driver.beginTransfer pcm attempt).2.queue = driver.queue := by
  unfold beginTransfer
  dsimp only
  split
  · rfl
  · split
    · rfl
    · split <;> rfl

/-- A write leaves what waits to be captured. -/
theorem queue_write (driver : Pcm) (pcm : OpenPcm) (bytes : Nat) :
    (driver.write pcm bytes).2.queue = driver.queue := by
  have begun := driver.queue_beginTransfer pcm (.write bytes)
  unfold write
  generalize driver.beginTransfer pcm (.write bytes) = answered at begun
  obtain ⟨error | done, after⟩ := answered <;> exact begun

end Bench.Pcm

namespace Machine

variable {machine after : Machine}

/-- A change of a stream keeps what it does not see of its PCM and its standby flag. -/
theorem tie_modify_of_unseen {β : Type} (view : Option OpenPcm × Bool → β) {id : StreamId}
    {change : Option OpenPcm × Bool → Option OpenPcm × Bool}
    (changed : after.ties = machine.ties.modify id change)
    (unseen : ∀ tie, view (change tie) = view tie) (other : StreamId) :
    view (after.tie other) = view (machine.tie other) := by
  have mapped := map_modify_of_unseen unseen machine.ties id
  have read : ∀ machine : Machine,
      view (machine.tie other) = (machine.ties.map view).getD other (view (none, false)) := by
    intro machine
    rw [tie_eq]
    exact (List.getD_map machine.ties (none, false) view).symm
  rw [read, read, changed, mapped]

/-- A new stream is in standby. -/
theorem flag_append (joined : after.ties = machine.ties ++ [(none, false)]) (other : StreamId) :
    (after.tie other).2 = (machine.tie other).2 := by
  rw [tie_eq, tie_eq, joined]
  by_cases inside : other < machine.ties.length
  · rw [List.getD_append _ _ _ _ inside]
  · have outside := Nat.le_of_not_lt inside
    rw [List.getD_append_right _ _ _ _ outside, List.getD_eq_default _ _ outside]
    cases other - machine.ties.length <;> rfl

end Machine

/-- What is plain is discreet. -/
theorem Run.Stays.discreet {run after : Run}
    (stays : run.Stays Machine.vitals Happening.isPlain after) :
    run.Stays Machine.supplies Happening.isDiscreet after :=
  (stays.map fun vitals => (vitals.2.2.hasWakeLock, vitals.2.2.pcm.queue)).mono fun _ =>
    Happening.isDiscreet_of_isPlain

namespace Act

variable {α β : Type}

/-- An action that leaves the samples that wait to be captured, calls no wake lock and tells nothing
about standby. -/
def Discreet (action : Act α) : Prop :=
  Stays Machine.supplies Happening.isDiscreet action

theorem discreet_changeHardware (f : Hardware → Hardware) : Discreet (changeHardware f) :=
  stays_change fun _ => rfl

theorem discreet_changeStream (id : StreamId) (f : Stream → Stream) :
    Discreet (changeStream id f) :=
  stays_change fun _ => rfl

theorem discreet_age (id : StreamId) : Discreet (age id) :=
  (stays_note rfl).bind fun _ => discreet_changeStream id _

theorem discreet_setActivity (activity : Activity) (component : Component) :
    Discreet (setActivity activity component) := by
  cases component with
  | router => exact discreet_changeHardware _
  | stream id => exact discreet_changeStream id _

/-- A call to the mixer. -/
theorem discreet_mixerCall (activity : Activity) {what : Happening} (sort : what.isDiscreet = true)
    (effect : Bench.Mixer → α × Bench.Mixer) :
    Discreet (call .router activity what (onMixer effect)) :=
  (discreet_setActivity _ _).bind fun _ => Stays.bind (stays_bareCall sort fun _ => rfl) fun _ =>
    (discreet_setActivity _ _).bind fun _ => stays_pure _

/-- A call to the PCM driver that leaves the samples that wait to be captured. -/
theorem discreet_barePcm {what : Happening} (sort : what.isDiscreet = true)
    {effect : Bench.Pcm → α × Bench.Pcm} (kept : ∀ driver, (effect driver).2.queue = driver.queue) :
    Discreet (bareCall what (onPcm effect)) :=
  stays_bareCall sort fun machine =>
    congrArg (Prod.mk machine.drivers.hasWakeLock) (kept machine.drivers.pcm)

/-- Closing a PCM without a note. -/
theorem discreet_bareClosing {what : Happening} (sort : what.isDiscreet = true) (pcm : OpenPcm) :
    Discreet (bareCall what (closing pcm)) :=
  stays_bareCall sort fun _ => rfl

theorem discreet_pcmCall (component : Component) (activity : Activity) {what : Happening}
    (sort : what.isDiscreet = true) {effect : Bench.Pcm → α × Bench.Pcm}
    (kept : ∀ driver, (effect driver).2.queue = driver.queue) :
    Discreet (call component activity what (onPcm effect)) :=
  (discreet_setActivity _ _).bind fun _ => (discreet_barePcm sort kept).bind fun _ =>
    (discreet_setActivity _ _).bind fun _ => stays_pure _

theorem discreet_closing (component : Component) (activity : Activity) {what : Happening}
    (sort : what.isDiscreet = true) (pcm : OpenPcm) :
    Discreet (call component activity what (closing pcm)) :=
  (discreet_setActivity _ _).bind fun _ => (discreet_bareClosing sort pcm).bind fun _ =>
    (discreet_setActivity _ _).bind fun _ => stays_pure _

theorem routes_discreet : Routes fun action => Discreet action where
  toComposes := composes_stays
  finds _ := discreet_mixerCall _ rfl _
  writes _ _ _ := discreet_mixerCall _ rfl _
  opens _ := discreet_barePcm rfl fun driver => driver.queue_openPcm _
  starts _ _ := discreet_barePcm rfl fun _ => rfl
  closes pcm := discreet_bareClosing rfl pcm
  links _ _ := discreet_changeHardware _

theorem discreet_reroute (f : Router → Router × List RouteStep) : Discreet (reroute f) :=
  routes_discreet.reroute (fun _ => discreet_changeHardware _) f

theorem discreet_closeRouter : Discreet closeRouter :=
  routes_discreet.closeRouter fun _ => discreet_changeHardware _

theorem discreet_addStream (stream : Stream) : Discreet (addStream stream) :=
  stays_machine.bind fun _ => Stays.bind (stays_change fun _ => rfl) fun _ => stays_pure _

theorem discreet_closeStreamPcm (id : StreamId) : Discreet (closeStreamPcm id) := by
  refine (stays_stream id).bind fun stream => ?_
  cases stream.pcm with
  | none => exact stays_pure _
  | some pcm => exact (discreet_changeStream id _).bind fun _ => discreet_closing _ _ rfl pcm

/-- Opening the PCM of a stream leaves the supplies. -/
theorem discreet_engage (id : StreamId) : Discreet (engage id) := by
  refine stays_machine.bind fun machine => (stays_stream id).bind fun stream => ?_
  have opens : Discreet (call (.stream id) .openingPcm
      (.openPcm (.stream id) (.codec machine.settings stream.direction))
      (onPcm (·.openPcm (.codec machine.settings stream.direction)))) :=
    discreet_pcmCall _ _ rfl fun driver => driver.queue_openPcm _
  refine opens.bind fun opened => ?_
  cases opened with
  | error error => exact stays_pure _
  | ok pcm =>
      dsimp only
      split
      · refine Stays.bind ?_ fun _ => stays_pure _
        refine (stays_stream id).bind fun stream => (discreet_changeStream id _).bind fun _ => ?_
        cases stream.pcm with
        | none => exact stays_pure _
        | some previous => exact discreet_bareClosing rfl previous
      · exact Stays.bind (discreet_closing _ _ rfl pcm) fun _ => stays_pure _

theorem discreet_writeOpen (id : StreamId) (bytes : Nat) : Discreet (writeOpen id bytes) := by
  refine (stays_stream id).bind fun stream => ?_
  cases stream.pcm with
  | none => exact stays_pure _
  | some pcm =>
      exact Stays.bind (discreet_pcmCall _ _ rfl fun driver => driver.queue_write pcm bytes)
        fun _ => stays_pure _

/-- Reading takes samples, but is discreet in all else. -/
theorem stays_readOpen (id : StreamId) (frames : Nat) :
    Stays Machine.hasWakeLock Happening.isDiscreet (readOpen id frames) := by
  have change : ∀ f : Stream → Stream,
      Stays Machine.hasWakeLock Happening.isDiscreet (changeStream id f) :=
    fun f => stays_change fun _ => rfl
  refine stays_readOpen_of (fun raw => ?_) (fun pcm bytes => ?_) (fun pipeline samples => ?_) frames
  · exact change _
  · exact (change _).bind fun _ => Stays.bind (stays_bareCall rfl fun _ => rfl) fun _ =>
      (change _).bind fun _ => stays_pure _
  · exact change _

/-- An action that leaves the samples that wait to be captured. -/
def Sparing (action : Act α) : Prop :=
  Stays Machine.supplies Happening.isAny action

/-- What is discreet spares the supplies. -/
theorem Discreet.sparing {action : Act α} (discreet : Discreet action) : Sparing action :=
  fun run => (discreet run).mono fun _ _ => rfl

theorem sparing_callWakeLock (what : Happening) (wakeCall : Bench.WakeCall) :
    Sparing (callWakeLock what wakeCall) :=
  composes_stays.callWakeLock (stays_bareCall rfl fun _ => rfl)

theorem sparing_acquireWake (id : StreamId) : Sparing (acquireWake id) :=
  (stays_stream id).bind fun _ => sparing_callWakeLock _ _

theorem sparing_releaseWake (id : StreamId) : Sparing (releaseWake id) :=
  (stays_stream id).bind fun _ => sparing_callWakeLock _ _

theorem sparing_tell (id : Option StreamId) (event : Event) : Sparing (tell id event) :=
  composes_stays.tell (stays_bareCall rfl fun _ => rfl)

theorem sparing_doze (id : StreamId) : Sparing (doze id) := by
  refine (discreet_age id).sparing.bind fun _ => (stays_stream id).bind fun stream => ?_
  split
  · refine (discreet_changeStream id _).sparing.bind fun _ =>
      (sparing_releaseWake id).bind fun _ => ?_
    exact (stays_stream id).bind fun _ => sparing_tell _ _
  · exact stays_pure _

theorem sparing_settleWaking (id : StreamId) (opened : Except AudioError Unit) :
    Sparing (settleWaking id opened) := by
  cases opened with
  | error error => exact (sparing_releaseWake id).bind fun _ => stays_pure _
  | ok =>
      refine (discreet_changeStream id _).sparing.bind fun _ => (stays_stream id).bind fun _ => ?_
      exact (sparing_tell _ _).bind fun _ => stays_pure _

end Act

namespace Run

variable {operation : Operation} {run after : Run}

/-- **Small parts** of an operation are discreet and leave all standby flags, unless they put a
stream to standby. -/
theorem Deed.discreet (deed : run.Deed operation after) :
    (run.Stays Machine.supplies Happening.isDiscreet after ∧
        ∀ id, (after.machine.tie id).2 = (run.machine.tie id).2) ∨
      ∃ id, after = (Act.doze id run).2 ∧ ((run.machine.tie id).2 = true →
        ((run.machine.tie id).1 = none ↔ operation.Displaces id)) := by
  have flags : after.machine.ties = run.machine.ties →
      ∀ id, (after.machine.tie id).2 = (run.machine.tie id).2 :=
    fun same id => congrArg Prod.snd (Machine.tie_of_ties same id)
  cases deed with
  | plain stays => exact .inl ⟨stays.discreet, flags (Machine.ties_of_vitals stays.kept)⟩
  | @joined stream idle tie =>
      refine .inl ⟨Act.discreet_addStream stream run, Machine.flag_append ?_⟩
      have appended : (Act.addStream stream run).2.machine.ties =
          run.machine.ties ++ [stream.tie] := List.map_append
      rw [appended, tie]
  | routed f => exact .inl ⟨Act.discreet_reroute f run, flags (Act.keeps_ties_reroute f run)⟩
  | gone => exact .inl ⟨Act.discreet_closeRouter run, flags (Act.keeps_ties_closeRouter run)⟩
  | shut id =>
      have shut := Act.ties_closeStreamPcm id run
      exact .inl ⟨Act.discreet_closeStreamPcm id run,
        Machine.tie_modify_of_unseen Prod.snd shut fun _ => rfl⟩
  | @engaged id inside empty =>
      refine .inl ⟨Act.discreet_engage id run, ?_⟩
      obtain ⟨_, -, same⟩ | ⟨pcm, -, fitted⟩ := Act.ties_engage id run
      · exact flags same
      · exact Machine.tie_modify_of_unseen Prod.snd fitted fun _ => rfl
  | dozed id displaced => exact .inr ⟨id, rfl, displaced⟩

/-- A deed leaves the supplies. -/
theorem Deed.supplies (deed : run.Deed operation after) :
    after.machine.supplies = run.machine.supplies := by
  obtain ⟨discreet, -⟩ | ⟨id, rfl, -⟩ := deed.discreet
  · exact discreet.kept
  · exact (Act.sparing_doze id run).kept

theorem Deeds.supplies (deeds : run.Deeds operation after) :
    after.machine.supplies = run.machine.supplies := by
  induction deeds with
  | refl => rfl
  | tail _ deed ih => exact deed.supplies.trans ih

/-- A task leaves the supplies, unless it reads. -/
theorem Task.supplies (task : run.Task operation after)
    (unread : ∀ id buffer, operation ≠ .read id buffer) :
    after.machine.supplies = run.machine.supplies := by
  cases task with
  | deed deed => exact deed.supplies
  | @roused id between own asleep deeds opened =>
      have begun := (Act.sparing_acquireWake id run).kept
      have ended := (Act.sparing_settleWaking id (.ok ()) between).kept
      exact ended.trans ((Deeds.supplies deeds).trans begun)
  | @refused id between error own asleep deeds =>
      have begun := (Act.sparing_acquireWake id run).kept
      have ended := (Act.sparing_settleWaking id (.error error) between).kept
      exact ended.trans ((Deeds.supplies deeds).trans begun)
  | @wrote id bytes own => exact (Act.discreet_writeOpen id bytes run).kept
  | @heard id buffer own frames => exact absurd own (unread id buffer)

/-- **Supplies.** No operation but a read takes samples that wait to be captured. -/
theorem Tasks.supplies (tasks : run.Tasks operation after)
    (unread : ∀ id buffer, operation ≠ .read id buffer) :
    after.machine.supplies = run.machine.supplies := by
  induction tasks with
  | refl => rfl
  | tail _ task ih => exact (task.supplies unread).trans ih

end Run

end PhoneAudio
