import PhoneAudio.Proofs.Handset.Reopening
import PhoneAudio.Proofs.Handset.Ties

/-!
# The tasks of operations

Whatever the drivers do, an operation is made of tasks (`PhoneAudio.Run.Task`). Most of them are
small deeds: routing, opening and closing PCMs, and telling about standby. A transfer may also rouse
its stream, which begins with taking the wake lock and ends with settling the outcome, and move
bytes. Streams are only opened while they have no PCM, and those that are put to standby still have
theirs, unless they were displaced by a transfer on another stream.
-/

namespace PhoneAudio

/-- The stream that an operation moves bytes on. -/
def Operation.transfers? : Operation → Option StreamId
  | write id _ | read id _ => some id
  | _ => none

/-- Whether an operation is a transfer on another stream, which may have to make way for it. -/
def Operation.Displaces (operation : Operation) (id : StreamId) : Prop :=
  ∃ other, operation.transfers? = some other ∧ other ≠ id

/-- A small part of an operation. -/
inductive Run.Deed (operation : Operation) (run : Run) : Run → Prop
  | plain {after : Run} (stays : run.Stays Machine.vitals Happening.isPlain after) :
      Deed operation run after
  | joined {stream : Stream} (idle : stream.activity = .idle) (tie : stream.tie = (none, false)) :
      Deed operation run (Act.addStream stream run).2
  | routed (f : Router → Router × List RouteStep) : Deed operation run (Act.reroute f run).2
  | gone : Deed operation run (Act.closeRouter run).2
  | shut (id : StreamId) : Deed operation run (Act.closeStreamPcm id run).2
  | engaged {id : StreamId} (inside : id < run.machine.ties.length)
      (empty : (run.machine.tie id).1 = none) :
      Deed operation run (Act.engage id run).2
  | dozed (id : StreamId) (displaced : (run.machine.tie id).2 = true →
      ((run.machine.tie id).1 = none ↔ operation.Displaces id)) :
      Deed operation run (Act.doze id run).2

/-- Small parts of an operation one after the other. -/
abbrev Run.Deeds (operation : Operation) : Run → Run → Prop :=
  Relation.ReflTransGen (Run.Deed operation)

/-- A part of an operation. -/
inductive Run.Task (operation : Operation) (run : Run) : Run → Prop
  | deed {after : Run} (deed : run.Deed operation after) : Task operation run after
  | roused {id : StreamId} {between : Run} (own : operation.transfers? = some id)
      (asleep : (run.machine.tie id).2 = false)
      (deeds : (Act.acquireWake id run).2.Deeds operation between)
      (opened : (between.machine.tie id).1.isSome = true) :
      Task operation run (Act.settleWaking id (.ok ()) between).2
  | refused {id : StreamId} {between : Run} {error : AudioError}
      (own : operation.transfers? = some id) (asleep : (run.machine.tie id).2 = false)
      (deeds : (Act.acquireWake id run).2.Deeds operation between) :
      Task operation run (Act.settleWaking id (.error error) between).2
  | wrote {id : StreamId} {bytes : Nat} (own : operation = .write id bytes) :
      Task operation run (Act.writeOpen id bytes run).2
  | heard {id : StreamId} {buffer : List UInt8} (own : operation = .read id buffer)
      (frames : Nat) : Task operation run (Act.readOpen id frames run).2

/-- Parts of an operation one after the other. -/
abbrev Run.Tasks (operation : Operation) : Run → Run → Prop :=
  Relation.ReflTransGen (Run.Task operation)

namespace Act

variable {α β : Type} {operation : Operation}

/-- An action that does parts of an operation, and settles all streams that it touches. -/
def Orderly (operation : Operation) (action : Act α) : Prop :=
  ∀ run : Run, run.machine.Tied →
    run.Tasks operation (action run).2 ∧ (action run).2.machine.Tied

theorem orderly_pure (answer : α) : Orderly operation (pure answer : Act α) :=
  fun _ tied => ⟨.refl, tied⟩

/-- Tasks of two actions one after the other. -/
theorem Orderly.bind {action : Act α} {next : α → Act β} (first : Orderly operation action)
    (rest : ∀ answer, Orderly operation (next answer)) : Orderly operation (action >>= next) := by
  intro run tied
  obtain ⟨tasks, between⟩ := first run tied
  obtain ⟨more, after⟩ := rest _ _ between
  exact ⟨tasks.trans more, after⟩

/-- A small part that leaves PCMs and standby flags. -/
theorem orderly_of_deed {action : Act α} (deed : ∀ run : Run, run.Deed operation (action run).2)
    (keeps : Keeps (fun run => run.machine.ties) action) : Orderly operation action :=
  fun run tied => ⟨.single (.deed (deed run)), tied.of_ties (keeps run)⟩

/-- What is plain is orderly. -/
theorem Plain.orderly {action : Act α} (plain : Plain action) : Orderly operation action :=
  orderly_of_deed (fun run => .plain (plain run)) fun run => Machine.ties_of_vitals (plain run).kept

/-- A plain action, followed by another. -/
theorem Plain.then {action : Act α} {next : α → Act β} (first : Plain action)
    (rest : ∀ answer, Orderly operation (next answer)) : Orderly operation (action >>= next) :=
  first.orderly.bind rest

theorem plain_stream (id : StreamId) : Plain (stream id) :=
  stays_stream id

/-- Routing is orderly. -/
theorem orderly_reroute (f : Router → Router × List RouteStep) : Orderly operation (reroute f) :=
  orderly_of_deed (fun _ => .routed f) (keeps_ties_reroute f)

theorem orderly_closeRouter : Orderly operation closeRouter :=
  orderly_of_deed (fun _ => .gone) keeps_ties_closeRouter

/-- A stream that is added idle and without a PCM is orderly. -/
theorem orderly_addStream {stream : Stream} (idle : stream.activity = .idle)
    (tie : stream.tie = (none, false)) : Orderly operation (addStream stream) := by
  refine fun run tied => ⟨.single (.deed (.joined idle tie)), tied.join ?_⟩
  have appended : (addStream stream run).2.machine.ties = run.machine.ties ++ [stream.tie] :=
    List.map_append
  rw [appended, tie]

theorem orderly_withHardware {action : Act α} (orderly : Orderly operation action) :
    Orderly operation (withHardware action) :=
  (plain_lock _).then fun _ => orderly.bind fun _ => (plain_unlock _).then fun _ => orderly_pure _

/-- Closing a stream is done by deeds. -/
theorem deeds_closeLocked (id : StreamId) (run : Run) :
    run.Deeds operation (closeLocked id run).2 := by
  unfold closeLocked
  rw [bind_apply, stream_apply]
  dsimp only
  split
  · exact .tail (.single (.routed _)) (.shut id)
  · exact .single (.shut id)

/-- A stream is put to standby in small parts, with a PCM if it is not displaced. -/
theorem deeds_standbyLocked {id : StreamId} {run : Run}
    (displaced : (run.machine.tie id).2 = true →
      ((run.machine.tie id).1 = none ↔ operation.Displaces id)) :
    run.Deeds operation (standbyLocked id run).2 := by
  rw [standbyLocked_eq]
  exact .head (.dozed id displaced) (deeds_closeLocked id _)

/-- Deeds are tasks. -/
theorem tasks_of_deeds {run after : Run} (deeds : run.Deeds operation after) :
    run.Tasks operation after :=
  Relation.ReflTransGen.mono (fun _ _ => Run.Task.deed) _ _ deeds

/-- Putting a stream to standby is orderly, as long as the operation does not displace it. -/
theorem orderly_standbyLocked {id : StreamId} (own : ¬ operation.Displaces id) :
    Orderly operation (standbyLocked id) := by
  intro run tied
  refine ⟨tasks_of_deeds (deeds_standbyLocked fun active => ?_),
    tied.sleep (ties_standbyLocked id run)⟩
  have there := tied.tie id
  rw [active] at there
  exact iff_of_false (Option.isSome_iff_ne_none.mp there) own

theorem orderly_standby {id : StreamId} (own : ¬ operation.Displaces id) :
    Orderly operation (standby id) := by
  refine Plain.then stays_hardware fun hardware => ?_
  split
  · refine (plain_askForLock id).then fun _ => (plain_lockFor id).then fun _ => ?_
    refine (orderly_withHardware (orderly_standbyLocked own)).bind fun _ => ?_
    exact (plain_unlock _).then fun _ => orderly_pure _
  · exact orderly_pure _

end Act

/-! ## Waking -/

/-- How far a stream is with leaving standby: whether it was opened, and the active stream of the
other direction if that was taken over, with whether that one has a PCM at the moment. -/
structure Waking where
  opened : Bool := false
  sibling : Option (StreamId × Bool) := none

/-- A run that small parts of an operation lead to while a stream is waking. -/
structure Run.Awaits (operation : Operation) (id : StreamId) (origin run : Run) (waking : Waking) :
    Prop where
  deeds : origin.Deeds operation run
  inside : id < run.machine.ties.length
  asleep : (run.machine.tie id).2 = false
  opened : (run.machine.tie id).1.isSome = waking.opened
  sibling : ∀ other isOpen, waking.sibling = some (other, isOpen) →
    other ≠ id ∧ (run.machine.tie other).2 = true ∧ (run.machine.tie other).1.isSome = isOpen
  others : ∀ other, other ≠ id → (∀ isOpen, waking.sibling ≠ some (other, isOpen)) →
    (run.machine.tie other).1.isSome = (run.machine.tie other).2

namespace Run.Awaits

variable {operation : Operation} {id sibling : StreamId} {origin run after : Run} {waking : Waking}
  {change : Option OpenPcm × Bool → Option OpenPcm × Bool} {opened isOpen : Bool}

/-- A stream that waits to be opened does so as long as no PCM comes or goes. -/
theorem of_ties (awaits : Awaits operation id origin run waking)
    (deeds : run.Deeds operation after) (same : after.machine.ties = run.machine.ties) :
    Awaits operation id origin after waking := by
  have tie := Machine.tie_of_ties same
  refine ⟨awaits.deeds.trans deeds, same ▸ awaits.inside, ?_, ?_, ?_, ?_⟩ <;> simp only [tie]
  · exact awaits.asleep
  · exact awaits.opened
  · exact awaits.sibling
  · exact awaits.others

/-- The stream that is waking is opened. -/
theorem engaged (awaits : Awaits operation id origin run waking)
    (deeds : run.Deeds operation after) {pcm : OpenPcm}
    (fitted : after.machine.ties = run.machine.ties.modify id fun tie => (some pcm, tie.2)) :
    Awaits operation id origin after { waking with opened := true } := by
  have own := Machine.tie_modify fitted awaits.inside
  have kept : ∀ other, other ≠ id → after.machine.tie other = run.machine.tie other :=
    fun other => Machine.tie_modify_of_ne fitted
  refine ⟨awaits.deeds.trans deeds, ?_, ?_, ?_, fun other isOpen there => ?_, ?_⟩
  · rw [fitted, List.length_modify]
    exact awaits.inside
  · rw [own]
    exact awaits.asleep
  · rw [own]
    rfl
  · obtain ⟨different, active, holds⟩ := awaits.sibling other isOpen there
    rw [kept other different]
    exact ⟨different, active, holds⟩
  · intro other different apart
    rw [kept other different]
    exact awaits.others other different apart

/-- Something is done to the stream that makes way. -/
theorem sibling_changed (awaits : Awaits operation id origin run ⟨opened, some (sibling, isOpen)⟩)
    (deeds : run.Deeds operation after)
    (changed : after.machine.ties = run.machine.ties.modify sibling change)
    {next : Option (StreamId × Bool)}
    (described : ∀ other isOpen, next = some (other, isOpen) → other = sibling ∧
      (change (run.machine.tie sibling)).2 = true ∧
      (change (run.machine.tie sibling)).1.isSome = isOpen)
    (settled : next = none → (change (run.machine.tie sibling)).1.isSome =
      (change (run.machine.tie sibling)).2) :
    Awaits operation id origin after ⟨opened, next⟩ := by
  obtain ⟨different, active, -⟩ := awaits.sibling sibling isOpen rfl
  have here := Machine.tie_modify changed (Machine.inside_of_tie active)
  have kept : ∀ other, other ≠ sibling → after.machine.tie other = run.machine.tie other :=
    fun other => Machine.tie_modify_of_ne changed
  have own := kept id different.symm
  refine ⟨awaits.deeds.trans deeds, ?_, ?_, ?_, fun other isOpen chosen => ?_, ?_⟩
  · rw [changed, List.length_modify]
    exact awaits.inside
  · rw [own]
    exact awaits.asleep
  · rw [own]
    exact awaits.opened
  · obtain ⟨rfl, still, holds⟩ := described other isOpen chosen
    rw [here]
    exact ⟨different, still, holds⟩
  · intro other away apart
    by_cases same : other = sibling
    · subst same
      cases next with
      | none =>
          rw [here]
          exact settled rfl
      | some chosen =>
          obtain ⟨rfl, -⟩ := described chosen.1 chosen.2 rfl
          exact absurd rfl (apart chosen.2)
    · rw [kept other same]
      refine awaits.others other away fun isOpen there => same ?_
      exact (congrArg Prod.fst (Option.some_inj.mp there)).symm

end Run.Awaits

namespace Act

variable {α β : Type} {operation : Operation} {id sibling : StreamId} {origin : Run}
  {waking : Waking} {opened isOpen : Bool}

/-- What is plain leaves what a stream waits for. -/
theorem Plain.awaits {action : Act α} (plain : Plain action) :
    Leads (Run.Awaits operation id origin) action waking fun _ after => after = waking :=
  leads_of_unseen fun run _ awaits =>
    awaits.of_ties (.single (.plain (plain run))) (Machine.ties_of_vitals (plain run).kept)

/-- Taking over the active stream of a direction. -/
theorem awaits_takeOver (direction : Direction) (own : Option StreamId) :
    Leads (Run.Awaits operation id origin) (takeOver direction own []) {} fun taken after =>
      after = { sibling := taken.map fun taken => (taken.occupant, true) } := by
  intro run awaits
  have plain := plain_takeOver direction own run
  obtain ⟨_, awaited, rfl⟩ := (plain_takeOver direction own).awaits run awaits
  obtain ⟨-, ended⟩ | ⟨sibling, active, ended⟩ := takeOver_undisturbed direction own run
  · rw [ended] at awaited ⊢
    exact ⟨_, awaited, rfl⟩
  · have roused : (run.machine.tie sibling).2 = true := Machine.isActive_of_active active
    have different : sibling ≠ id := by
      rintro rfl
      rw [awaits.asleep] at roused
      cases roused
    have same := Machine.tie_of_ties (Machine.ties_of_vitals plain.kept) sibling
    rw [ended] at awaited same ⊢
    refine ⟨⟨false, some (sibling, true)⟩, ⟨awaited.deeds, awaited.inside, awaited.asleep,
      awaited.opened, ?_, ?_⟩, rfl⟩
    · rintro _ _ ⟨⟩
      have paired := awaits.others sibling different nofun
      rw [same]
      exact ⟨different, roused, paired.trans roused⟩
    · exact fun other away _ => awaited.others other away nofun

/-- Closing the sibling leaves it without a PCM. -/
theorem awaits_closeLocked :
    Leads (Run.Awaits operation id origin) (closeLocked sibling)
      ⟨opened, some (sibling, isOpen)⟩ fun _ after => after = ⟨opened, some (sibling, false)⟩ := by
  intro run awaits
  refine ⟨⟨opened, some (sibling, false)⟩, awaits.sibling_changed (deeds_closeLocked sibling run)
    (ties_closeLocked sibling run) ?_ nofun, rfl⟩
  rintro _ _ ⟨⟩
  exact ⟨rfl, (awaits.sibling sibling isOpen rfl).2.1, rfl⟩

theorem deeds_routeOpened (id : StreamId) (run : Run) :
    run.Deeds operation (routeOpened id run).2 := by
  unfold routeOpened
  rw [bind_apply, stream_apply]
  dsimp only
  cases (run.machine.stream id).direction with
  | playback =>
      dsimp only
      rw [bind_apply, hardware_apply]
      dsimp only
      split
      · exact .single (.routed _)
      · exact .refl
  | capture =>
      have reset : Plain (changeStream id fun stream =>
          { stream with pipeline := stream.pipeline.reset }) := by
        refine plain_changeStream id ?_ ?_
        · exact fun _ => rfl
        · exact fun _ => rfl
      exact .tail (.single (.plain (reset run))) (.routed _)

/-- Opening a stream that has no PCM. -/
theorem deeds_openLocked (operation : Operation) {id : StreamId} {run : Run}
    (inside : id < run.machine.ties.length) (empty : (run.machine.tie id).1 = none) :
    run.Deeds operation (openLocked id run).2 ∧
      ((∃ error, (openLocked id run).1 = .error error ∧
          (openLocked id run).2.machine.ties = run.machine.ties) ∨
        ∃ pcm, (openLocked id run).1 = .ok () ∧
          (openLocked id run).2.machine.ties =
            run.machine.ties.modify id fun tie => (some pcm, tie.2)) := by
  have engaged : run.Deeds operation (engage id run).2 := .single (.engaged inside empty)
  have fitted := ties_engage id run
  rw [openLocked_eq, bind_apply]
  generalize engage id run = answered at engaged fitted
  obtain ⟨error | done, after⟩ := answered
  · refine ⟨engaged, fitted.imp_right ?_⟩
    rintro ⟨pcm, ⟨⟩, -⟩
  · refine ⟨engaged.trans (deeds_routeOpened id after), .inr ?_⟩
    obtain ⟨_, ⟨⟩, -⟩ | ⟨pcm, -, fitted⟩ := fitted
    have routed : (routeOpened id after).2.machine.ties = after.machine.ties :=
      keeps_ties_routeOpened id after
    exact ⟨pcm, rfl, routed.trans fitted⟩

/-- Opening a stream that waits to be opened fails, or leaves it open. -/
theorem awaits_openLocked (closed : waking.opened = false) :
    Leads (Run.Awaits operation id origin) (openLocked id) waking fun answer after =>
      (∃ error, answer = .error error ∧ after = waking) ∨
        answer = .ok () ∧ after = { waking with opened := true } := by
  intro run awaits
  have empty : (run.machine.tie id).1 = none := by
    refine Option.not_isSome_iff_eq_none.mp ?_
    rw [awaits.opened, closed]
    exact Bool.false_ne_true
  obtain ⟨deeds, ⟨error, refused, same⟩ | ⟨pcm, opened, fitted⟩⟩ :=
    deeds_openLocked operation awaits.inside empty
  · exact ⟨_, awaits.of_ties deeds same, .inl ⟨error, refused, rfl⟩⟩
  · exact ⟨_, awaits.engaged deeds fitted, .inr ⟨opened, rfl⟩⟩

/-- A stream that made way is opened again or put to standby. -/
theorem awaits_reopenOrStandby (own : operation.transfers? = some id) :
    Leads (Run.Awaits operation id origin) (reopenOrStandby sibling)
      ⟨opened, some (sibling, false)⟩ fun _ after => after = ⟨opened, none⟩ := by
  intro run awaits
  obtain ⟨different, active, shut⟩ := awaits.sibling sibling false rfl
  have empty : (run.machine.tie sibling).1 = none := by
    refine Option.not_isSome_iff_eq_none.mp ?_
    rw [shut]
    exact Bool.false_ne_true
  obtain ⟨deeds, fitted⟩ :=
    deeds_openLocked operation (Machine.inside_of_tie active) empty
  unfold reopenOrStandby
  rw [bind_apply]
  generalize openLocked sibling run = answered at deeds fitted
  obtain ⟨error | done, after⟩ := answered
  · obtain ⟨-, -, same⟩ | ⟨_, ⟨⟩, -⟩ := fitted
    have awaited := awaits.of_ties deeds same
    have tie := Machine.tie_of_ties same sibling
    have slept : after.Deeds operation (standbyLocked sibling after).2 := by
      refine deeds_standbyLocked fun _ => iff_of_true ?_ ⟨id, own, different.symm⟩
      rw [tie]
      exact empty
    exact ⟨⟨opened, none⟩, awaited.sibling_changed slept (ties_standbyLocked sibling after) nofun
      fun _ => rfl, rfl⟩
  · obtain ⟨_, ⟨⟩, -⟩ | ⟨pcm, -, fitted⟩ := fitted
    exact ⟨⟨opened, none⟩, awaits.sibling_changed deeds fitted nofun fun _ => active.symm, rfl⟩

/-- An action that ends with settling how a stream that was waking has fared. -/
def Settling (operation : Operation) (id : StreamId) (origin : Run) (waking : Waking)
    (action : Act (Except AudioError Unit)) : Prop :=
  ∀ run, Run.Awaits operation id origin run waking → ∃ opened between,
    (action run).2 = (settleWaking id opened between).2 ∧
      Run.Awaits operation id origin between { opened := opened.isOk }

/-- An action on the way to settling. -/
theorem Leads.settling {action : Act α} {next : α → Act (Except AudioError Unit)}
    {between : α → Waking → Prop}
    (first : Leads (Run.Awaits operation id origin) action waking between)
    (rest : ∀ answer after, between answer after →
      Settling operation id origin after (next answer)) :
    Settling operation id origin waking (action >>= next) := by
  intro run awaits
  obtain ⟨after, awaited, described⟩ := first run awaits
  exact rest _ after described _ awaited

/-- A stream that was opened is roused, and one that was not stays in standby. -/
theorem settling_settleWaking (opened : Except AudioError Unit) :
    Settling operation id origin { opened := opened.isOk } (settleWaking id opened) :=
  fun run awaits => ⟨opened, run, rfl, awaits⟩

/-- Opening the stream that is waking, followed by what does not depend on whether it opened. -/
theorem settling_openLocked {next : Except AudioError Unit → Act (Except AudioError Unit)}
    {sibling : Option (StreamId × Bool)}
    (rest : ∀ opened : Except AudioError Unit,
      Settling operation id origin ⟨opened.isOk, sibling⟩ (next opened)) :
    Settling operation id origin ⟨false, sibling⟩ (openLocked id >>= next) := by
  refine (awaits_openLocked rfl).settling ?_
  rintro _ _ (⟨error, rfl, rfl⟩ | ⟨rfl, rfl⟩)
  · exact rest (.error error)
  · exact rest (.ok ())

/-- Waking a playback stream settles it. -/
theorem settling_wakePlayback (own : operation.transfers? = some id) :
    Settling operation id origin {} (wakePlayback id []) := by
  refine (awaits_takeOver .capture none).settling ?_
  rintro sibling _ rfl
  refine (plain_tellRetries _ _).awaits.settling ?_
  rintro _ _ rfl
  cases sibling with
  | none => exact settling_openLocked settling_settleWaking
  | some taken =>
      refine awaits_closeLocked.settling ?_
      rintro _ _ rfl
      refine settling_openLocked fun opened => (awaits_reopenOrStandby own).settling ?_
      rintro _ _ rfl
      refine (plain_unlock _).awaits.settling ?_
      rintro _ _ rfl
      exact settling_settleWaking opened

/-- Waking a capture stream settles it. -/
theorem settling_wakeCapture (own : operation.transfers? = some id) :
    Settling operation id origin {} (wakeCapture id []) := by
  refine (awaits_takeOver .playback (some id)).settling ?_
  rintro sibling _ rfl
  refine (plain_tellRetries _ _).awaits.settling ?_
  rintro _ _ rfl
  cases sibling with
  | none => exact settling_openLocked settling_settleWaking
  | some taken =>
      refine awaits_closeLocked.settling ?_
      rintro _ _ rfl
      refine (awaits_reopenOrStandby own).settling ?_
      rintro _ _ rfl
      refine (plain_unlock _).awaits.settling ?_
      rintro _ _ rfl
      exact settling_openLocked settling_settleWaking

/-- The streams are settled when it is settled how the one that was waking has fared. -/
theorem tied_settleWaking {between : Run} {opened : Except AudioError Unit}
    (awaits : Run.Awaits operation id origin between { opened := opened.isOk }) :
    (settleWaking id opened between).2.machine.Tied := by
  have others : ∀ other, other ≠ id →
      (between.machine.tie other).1.isSome = (between.machine.tie other).2 :=
    fun other different => awaits.others other different nofun
  cases opened with
  | error error =>
      have same : (settleWaking id (.error error) between).2.machine.ties = between.machine.ties :=
        keeps_ties_callWakeLock _ _ between
      refine Machine.Tied.of_ties (Machine.Tied.of_tie fun other _ => ?_) same
      by_cases own : other = id
      · rw [own, awaits.opened, awaits.asleep]
        rfl
      · exact others other own
  | ok =>
      have roused : (changeStatus id (fun status => { status with standby := false })
          between).2.machine.ties = between.machine.ties.modify id fun tie => (tie.1, true) :=
        between.machine.ties_adjust id fun _ => rfl
      have same : (settleWaking id (.ok ()) between).2.machine.ties =
          between.machine.ties.modify id fun tie => (tie.1, true) :=
        (keeps_ties_tell _ _ _).trans roused
      refine Machine.Tied.of_tie fun other _ => ?_
      by_cases own : other = id
      · rw [own, Machine.tie_modify same awaits.inside]
        exact awaits.opened
      · rw [Machine.tie_modify_of_ne same own]
        exact others other own

/-- Rousing a stream from standby is one part of a transfer on it. -/
theorem tasks_rouse {run : Run} (tied : run.machine.Tied) (inside : id < run.machine.ties.length)
    (own : operation.transfers? = some id) (asleep : (run.machine.tie id).2 = false)
    {action : Act (Except AudioError Unit)}
    (settling : ∀ origin, Settling operation id origin {} action) :
    run.Tasks operation ((acquireWake id >>= fun _ => action) run).2 ∧
      ((acquireWake id >>= fun _ => action) run).2.machine.Tied := by
  have same : (acquireWake id run).2.machine.ties = run.machine.ties :=
    keeps_ties_callWakeLock _ _ run
  have tie := Machine.tie_of_ties same
  have paired := tied.tie id
  rw [asleep] at paired
  have begun : Run.Awaits operation id (acquireWake id run).2 (acquireWake id run).2 {} := by
    refine ⟨.refl, same ▸ inside, ?_, ?_, nofun, fun other _ _ => ?_⟩ <;> rw [tie]
    · exact asleep
    · exact paired
    · exact tied.tie other
  obtain ⟨opened, between, ended, awaits⟩ := settling _ _ begun
  rw [bind_apply, ended]
  refine ⟨.single ?_, tied_settleWaking awaits⟩
  cases opened with
  | error error => exact .refused own asleep awaits.deeds
  | ok => exact .roused own asleep awaits.deeds awaits.opened

/-- **Waking.** Taking a stream out of standby is one part of a transfer on it. -/
theorem tasks_wake {run : Run} (tied : run.machine.Tied) (inside : id < run.machine.ties.length)
    (own : operation.transfers? = some id) :
    run.Tasks operation (wake id [] run).2 ∧ (wake id [] run).2.machine.Tied := by
  unfold wake
  rw [bind_apply, stream_apply]
  dsimp only
  split
  · exact ⟨.refl, tied⟩
  rename_i inactive
  split
  · exact ⟨.refl, tied⟩
  rw [bind_apply, hardware_apply]
  dsimp only
  split
  · exact ⟨.refl, tied⟩
  have locked := plain_lock .hardware run
  have same := Machine.ties_of_vitals locked.kept
  have asleep : ((lock .hardware run).2.machine.tie id).2 = false := by
    rw [Machine.tie_of_ties same]
    exact Bool.eq_false_of_not_eq_true inactive
  have rouse : ∀ {action : Act (Except AudioError Unit)},
      (∀ origin, Settling operation id origin {} action) →
      run.Tasks operation (withHardware (acquireWake id >>= fun _ => action) run).2 ∧
        (withHardware (acquireWake id >>= fun _ => action) run).2.machine.Tied := by
    intro action settling
    obtain ⟨tasks, settled⟩ := tasks_rouse (tied.of_ties same) (same ▸ inside) own asleep settling
    obtain ⟨more, after⟩ := (plain_unlock .hardware).orderly _ settled
    exact ⟨.head (.deed (.plain locked)) (tasks.trans more), after⟩
  cases (run.machine.stream id).direction with
  | playback => exact rouse fun _ => settling_wakePlayback own
  | capture => exact rouse fun _ => settling_wakeCapture own

/-- A transfer does not displace the stream that it is for. -/
theorem not_displaces (own : operation.transfers? = some id) : ¬ operation.Displaces id := by
  rintro ⟨other, transfers, different⟩
  rw [own] at transfers
  exact different (Option.some_inj.mp transfers).symm

theorem orderly_finishTransfer (own : ¬ operation.Displaces id) (outcome : Except AudioError α) :
    Orderly operation (finishTransfer id outcome) := by
  refine (plain_unlock _).then fun _ => ?_
  cases outcome with
  | ok answer => exact orderly_pure _
  | error error =>
      refine (plain_stream id).then fun stream => Plain.then (plain_tell rfl) fun _ => ?_
      exact (orderly_standby own).bind fun _ => orderly_pure _

theorem keeps_ties_writeOpen (id : StreamId) (bytes : Nat) :
    Keeps (fun run => run.machine.ties) (writeOpen id bytes) := by
  refine Keeps.bind (fun _ => rfl) fun stream => ?_
  cases stream.pcm with
  | none => exact keeps_pure _
  | some pcm => exact (keeps_ties_call id _ _ _).bind fun _ => keeps_pure _

theorem keeps_ties_readOpen (id : StreamId) (frames : Nat) :
    Keeps (fun run => run.machine.ties) (readOpen id frames) := by
  intro run
  let same (between : Run) : Prop := between.machine.ties = run.machine.ties
  have first : same run := rfl
  have changes : ∀ f : Stream → Stream, (∀ stream, (f stream).tie = stream.tie) → ∀ between,
      same between → same (changeStream id f between).2 :=
    fun f unseen between kept => (keeps_ties_changeStream id unseen between).trans kept
  refine readOpen_keeps same first frames (fun pcm _ wanted between => ?_) fun pipeline samples =>
    changes _ fun _ => rfl
  exact captured_keeps same (fun raw => changes _ fun _ => rfl)
    fun between kept => (keeps_ties_call id _ _ _ between).trans kept

/-- Beginning a transfer takes tasks of its operation, and leaves PCMs with streams out of standby.
-/
theorem tasks_beginTransfer (operation : Operation) {run : Run} (tied : run.machine.Tied)
    (inside : id < run.machine.streams.length) (own : operation.transfers? = some id) :
    run.Tasks operation (beginTransfer [] id run).2 ∧
      (beginTransfer [] id run).2.machine.Tied := by
  have locked := plain_lock (.stream id) run
  have same := Machine.ties_of_vitals locked.kept
  rw [← run.machine.length_ties, ← same] at inside
  obtain ⟨tasks, settled⟩ := tasks_wake (tied.of_ties same) inside own
  exact ⟨.head (.deed (.plain locked)) tasks, settled⟩

/-- A write takes tasks of its operation. -/
theorem tasks_write {run : Run} (tied : run.machine.Tied)
    (inside : id < run.machine.streams.length) (bytes : Nat) :
    run.Tasks (.write id bytes) (write id bytes run).2 ∧
      (write id bytes run).2.machine.Tied := by
  obtain ⟨tasks, settled⟩ :=
    tasks_beginTransfer (.write id bytes) tied inside rfl
  have finish : ∀ outcome : Except AudioError Unit,
      Orderly (.write id bytes) (finishTransfer id (outcome.map fun _ => bytes)) :=
    fun _ => orderly_finishTransfer (not_displaces rfl) _
  have rest : Orderly (.write id bytes) (completeWrite id bytes (beginTransfer [] id run).1) := by
    unfold completeWrite
    cases (beginTransfer [] id run).1 with
    | error error => exact finish (.error error)
    | ok done =>
        refine Orderly.bind (fun between settled => ⟨.single (.wrote rfl), ?_⟩) finish
        exact settled.of_ties (keeps_ties_writeOpen id bytes between)
  obtain ⟨more, after⟩ := rest _ settled
  exact ⟨tasks.trans more, after⟩

/-- A read takes tasks of its operation. -/
theorem tasks_read {run : Run} (tied : run.machine.Tied)
    (inside : id < run.machine.streams.length) (buffer : List UInt8) :
    run.Tasks (.read id buffer) (read id buffer run).2 ∧ (read id buffer run).2.machine.Tied := by
  obtain ⟨tasks, settled⟩ :=
    tasks_beginTransfer (.read id buffer) tied inside rfl
  have finish : ∀ outcome : Except AudioError (List Int16),
      Orderly (.read id buffer) (finishTransfer id outcome) :=
    fun outcome => orderly_finishTransfer (not_displaces rfl) outcome
  have rest : Orderly (.read id buffer) (completeRead id buffer (beginTransfer [] id run).1) := by
    refine (plain_stream id).then fun stream => ?_
    cases (beginTransfer [] id run).1 with
    | error error =>
        refine (orderly_pure _).bind fun _ => (finish _).bind fun finished => ?_
        cases finished <;> exact orderly_pure _
    | ok done =>
        refine Orderly.bind (fun between settled => ⟨.single (.heard rfl _), ?_⟩) fun outcome => ?_
        · exact settled.of_ties (keeps_ties_readOpen id _ between)
        · refine (finish outcome).bind fun finished => ?_
          cases finished <;> exact orderly_pure _
  obtain ⟨more, after⟩ := rest _ settled
  unfold read readAmid
  rw [bind_apply, stream_apply]
  dsimp only
  split
  · exact ⟨.refl, tied⟩
  · exact ⟨tasks.trans more, after⟩

/-! ## Other operations -/

section Control

variable (calm : ∀ id, ¬ operation.Displaces id)
include calm

theorem orderly_standbyTaken (taken : Option (Takeover.Taken StreamId Unit)) :
    Orderly operation (standbyTaken taken) := by
  cases taken with
  | none => exact orderly_pure _
  | some taken => exact orderly_standbyLocked (calm _)

theorem orderly_switchCall (mode : PhoneMode)
    (output input : Option (Takeover.Taken StreamId Unit)) :
    Orderly operation (switchCall mode output input) := by
  have mark : ∀ inCall : Bool, Orderly operation
      (changeHardware fun hardware => { hardware with inCall := inCall }) := by
    intro inCall
    refine Plain.orderly (plain_changeHardware ?_)
    exact fun _ => rfl
  have enters : Orderly operation enterCall :=
    (orderly_reroute _).bind fun _ => (orderly_reroute _).bind fun _ =>
      Plain.then stays_hardware fun _ => (orderly_reroute _).bind fun _ =>
        (orderly_reroute _).bind fun _ => orderly_reroute _
  have leaves : Orderly operation leaveCall :=
    (orderly_reroute _).bind fun _ => (orderly_reroute _).bind fun _ =>
      (orderly_reroute _).bind fun _ => (orderly_reroute _).bind fun _ => orderly_reroute _
  have sleeps := orderly_standbyTaken calm
  refine Plain.then stays_hardware fun hardware => ?_
  dsimp only
  split
  · split
    · exact (sleeps output).bind fun _ => (sleeps input).bind fun _ => enters.bind fun _ => mark _
    · exact leaves.bind fun _ => (sleeps output).bind fun _ => (sleeps input).bind fun _ => mark _
  · exact orderly_pure _

/-- Changing the mode is orderly. -/
theorem orderly_setMode (mode : PhoneMode) : Orderly operation (setMode mode) := by
  refine Orderly.bind (orderly_withHardware ?_) fun _ => orderly_pure _
  refine (plain_takeOver _ _).then fun output => (plain_takeOver _ _).then fun input => ?_
  refine (plain_tellRetries _ _).then fun _ => (plain_tellRetries _ _).then fun _ => ?_
  refine (plain_changeMode mode).then fun _ => (orderly_switchCall calm mode output input).bind ?_
  exact fun _ => (plain_unlockTaken input).then fun _ => (plain_unlockTaken output).orderly

theorem orderly_setMuted (muted : Bool) : Orderly operation (setMuted muted) := by
  refine Orderly.bind (orderly_withHardware ?_) fun active => ?_
  · refine (orderly_reroute _).bind fun _ => (orderly_reroute _).bind fun _ => ?_
    refine Plain.then (plain_changeHardware ?_) fun _ => ?_
    · exact fun _ => rfl
    · split
      · exact Plain.then stays_machine fun _ => orderly_pure _
      · exact orderly_pure _
  · cases active with
    | none => exact orderly_pure _
    | some id => exact orderly_standby (calm id)

omit calm in
theorem orderly_setCallVolume (volume : Float32) : Orderly operation (setCallVolume volume) := by
  refine Orderly.bind (orderly_withHardware ?_) fun _ => orderly_pure _
  refine Plain.then (plain_changeHardware ?_) fun _ => Plain.then stays_hardware fun hardware => ?_
  · exact fun _ => rfl
  · split
    · exact orderly_reroute _
    · exact orderly_pure _

omit calm in
theorem orderly_setMediaVolume (volume : Float32) : Orderly operation (setMediaVolume volume) :=
  (orderly_withHardware (orderly_reroute _)).bind fun _ => orderly_pure _

omit calm in
theorem orderly_followDevices (devices : Devices) : Orderly operation (followDevices devices) := by
  refine Plain.then stays_hardware fun hardware => ?_
  split
  · exact (orderly_reroute _).bind fun _ => orderly_reroute _
  · exact orderly_pure _

omit calm in
theorem orderly_setCallDevices (devices : Devices) : Orderly operation (setCallDevices devices) :=
  (orderly_withHardware (orderly_followDevices devices)).bind fun _ => orderly_pure _

theorem orderly_selectDevices (id : StreamId) (devices : Devices) :
    Orderly operation (selectDevices id devices) := by
  unfold selectDevices
  split
  · exact orderly_pure _
  refine orderly_withHardware ?_
  refine (plain_stream id).then fun stream => Plain.then stays_hardware fun hardware => ?_
  have turn : Plain (changeStream id fun stream => { stream with devices := devices }) := by
    refine plain_changeStream id ?_ ?_
    · exact fun _ => rfl
    · exact fun _ => rfl
  have follow : Orderly operation (followDevices devices) := orderly_followDevices devices
  dsimp only
  split
  · refine (orderly_standbyLocked (calm id)).bind fun _ => turn.then fun _ => ?_
    split
    · exact follow
    · exact orderly_pure _
  · refine turn.then fun _ => ?_
    split
    · exact follow
    · exact orderly_pure _

/-- Applying parameters is orderly. -/
theorem orderly_applyParameters (id : StreamId) (text : String) :
    Orderly operation (applyParameters id text) := by
  refine Plain.then stays_hardware fun hardware => ?_
  split
  · refine (plain_askForLock id).then fun _ => (plain_lockFor id).then fun _ => ?_
    have finish : ∀ rest : KeyValues, Orderly operation (do
        unlock (.stream id)
        if rest.isEmpty then return (.ok () : Except AudioError Unit)
        else
          let word := (← stream id).direction.word
          return .error (.badValue s!"unsupported {word} parameters: {rest.toText}")) := by
      intro rest
      refine (plain_unlock _).then fun _ => ?_
      split
      · exact orderly_pure _
      · exact (plain_stream id).then fun _ => orderly_pure _
    split
    · exact finish _
    · exact (orderly_selectDevices calm id _).bind fun _ => finish _
  · exact orderly_pure _

theorem orderly_retire (id : StreamId) : Orderly operation (retire id) :=
  (plain_detach id).then fun _ => (orderly_standby (calm id)).bind fun _ => orderly_pure _

/-- Closing a stream is orderly. -/
theorem orderly_close (id : StreamId) : Orderly operation (close id) := by
  refine (plain_takeOut id).then fun isThere => ?_
  split
  · exact (orderly_retire calm id).bind fun _ => orderly_pure _
  · exact (plain_stream id).then fun _ => orderly_pure _

theorem orderly_retireAll (ids : List StreamId) : Orderly operation (retireAll ids) := by
  induction ids with
  | nil => exact orderly_pure _
  | cons id rest ih => exact (orderly_retire calm id).bind fun _ => ih

/-- Dropping the audio hardware is orderly. -/
theorem orderly_dropHardware : Orderly operation dropHardware := by
  refine Plain.then (plain_withHardware ?_) fun ids => (orderly_retireAll calm ids).bind ?_
  · refine stays_hardware.bind fun hardware => Stays.bind (plain_changeHardware ?_) fun _ => ?_
    · exact fun _ => rfl
    · exact stays_pure _
  · refine fun _ => Plain.then (plain_changeHardware ?_) fun _ => orderly_closeRouter
    exact fun _ => rfl

end Control

/-- A new stream is idle, in standby and has no PCM. -/
theorem idle_of_isNew {stream : Stream} (new : stream.IsNew) :
    stream.activity = .idle ∧ stream.tie = (none, false) := by
  obtain ⟨settings, devices, request, played | recorded⟩ := new
  · unfold Stream.newPlayback at played
    split at played
    · cases played
      exact ⟨rfl, rfl⟩
    · cases played
  · unfold Stream.newCapture at recorded
    dsimp only at recorded
    split at recorded
    · cases built : Pipeline.ofFormat request.resolved settings.capturePeriod.toNat with
      | error error =>
          rw [built] at recorded
          cases recorded
      | ok pipeline =>
          rw [built] at recorded
          cases recorded
          exact ⟨rfl, rfl⟩
    · cases recorded

theorem orderly_openPlayback (devices : Devices) (request : FormatRequest) :
    Orderly operation (openPlayback devices request) := by
  refine orderly_withHardware (Plain.then stays_hardware fun hardware => ?_)
  split
  · exact orderly_pure _
  refine Plain.then stays_machine fun machine => ?_
  cases made : Stream.newPlayback machine.settings devices request with
  | error error => exact orderly_pure _
  | ok stream =>
      obtain ⟨idle, tie⟩ := idle_of_isNew ⟨_, _, _, .inl made⟩
      refine (orderly_addStream idle tie).bind fun id => ?_
      refine Plain.then (plain_changeHardware ?_) fun _ => orderly_pure _
      exact fun _ => rfl

theorem orderly_openCapture (devices : Devices) (request : FormatRequest) :
    Orderly operation (openCapture devices request) := by
  unfold openCapture
  split
  · refine orderly_withHardware (Plain.then stays_machine fun machine => ?_)
    cases made : Stream.newCapture machine.settings devices request with
    | error error => exact orderly_pure _
    | ok stream =>
        obtain ⟨idle, tie⟩ := idle_of_isNew ⟨_, _, _, .inr made⟩
        refine (orderly_addStream idle tie).bind fun id => ?_
        refine Plain.then (plain_changeHardware ?_) fun _ => orderly_pure _
        exact fun _ => rfl
  · exact orderly_pure _

/-- Opening a stream is orderly. -/
theorem orderly_openStream (direction : Direction) (devices : Devices) (request : FormatRequest) :
    Orderly operation (openStream direction devices request) := by
  cases direction with
  | playback => exact orderly_openPlayback devices request
  | capture => exact orderly_openCapture devices request

end Act

namespace Operation

/-- **Operations** are made of tasks, whatever the drivers do, and settle all streams. -/
theorem tasks {operation : Operation} {run : Run} (tied : run.machine.Tied)
    (possible : operation.Possible run.machine) :
    run.Tasks operation (operation.perform run).2 ∧ (operation.perform run).2.machine.Tied := by
  have answered : ∀ {α : Type} {action : Act α} {answer : α → Act Answer},
      run.Tasks operation (action run).2 ∧ (action run).2.machine.Tied →
      (∀ a, Act.Orderly operation (answer a)) →
      run.Tasks operation ((action >>= answer) run).2 ∧
        ((action >>= answer) run).2.machine.Tied := by
    rintro α action answer ⟨tasks, settled⟩ rest
    obtain ⟨more, after⟩ := rest _ _ settled
    exact ⟨tasks.trans more, after⟩
  have done : ∀ {α : Type} {action : Act α} {answer : α → Answer}, Act.Orderly operation action →
      run.Tasks operation ((action >>= fun a => pure (answer a)) run).2 ∧
        ((action >>= fun a => pure (answer a)) run).2.machine.Tied :=
    fun orderly => answered (orderly run tied) fun _ => Act.orderly_pure _
  have calm : operation.transfers? = none → ∀ id, ¬ operation.Displaces id := by
    rintro none id ⟨other, some, -⟩
    rw [none] at some
    cases some
  cases operation with
  | openStream direction devices request =>
      refine answered (Act.orderly_openStream direction devices request run tied) fun opened => ?_
      cases opened <;> exact Act.orderly_pure _
  | close id => exact done (Act.orderly_close (calm rfl) id)
  | standby id => exact done (Act.orderly_standby (calm rfl id))
  | applyParameters id text => exact done (Act.orderly_applyParameters (calm rfl) id text)
  | answerKeys id keys => exact done (Act.plain_answerKeys id keys).orderly
  | write id bytes =>
      refine answered (Act.tasks_write tied possible.1 bytes) fun written => ?_
      cases written <;> exact Act.orderly_pure _
  | read id buffer =>
      refine answered (Act.tasks_read tied possible.1 buffer) fun answer => ?_
      obtain ⟨outcome, filled⟩ := answer
      cases outcome <;> exact Act.orderly_pure _
  | setMode mode => exact done (Act.orderly_setMode (calm rfl) mode)
  | setMuted muted => exact done (Act.orderly_setMuted (calm rfl) muted)
  | setCallVolume volume => exact done (Act.orderly_setCallVolume volume)
  | setMediaVolume volume => exact done (Act.orderly_setMediaVolume volume)
  | setCallDevices devices => exact done (Act.orderly_setCallDevices devices)
  | ask query => exact done (Act.plain_find query).orderly
  | dropHardware => exact done (Act.orderly_dropHardware (calm rfl))

end Operation

namespace Session

variable {first last : Run} {operations : List Operation}

/-- The streams are settled between the operations of a session. -/
theorem tied (built : first.Built) (session : Session first operations last) :
    last.machine.Tied := by
  obtain ⟨state, shows, sound, -⟩ := built.shows
  obtain ⟨after, shown, advances⟩ := session.advances shows sound
  exact shown.tied advances.sound.tied

/-- The next operation of a session is made of tasks. -/
theorem tasks (built : first.Built) (session : Session first operations last)
    (conditions : Conditions) {operation : Operation} (possible : operation.Possible last.machine) :
    (last.under conditions).Tasks operation (operation.perform (last.under conditions)).2 := by
  have settled : last.machine.Tied := session.tied built
  have under : (last.under conditions).machine.Tied := settled
  exact (Operation.tasks under (possible.under conditions)).1

end Session

end PhoneAudio
