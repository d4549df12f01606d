import PhoneAudio.Proofs.Capture.Reports
import PhoneAudio.Proofs.Handset.Fixtures
import PhoneAudio.Proofs.Handset.StandbyEvents

/-!
# Failures

What calls to the PCM driver on behalf of a stream fail with (`PhoneAudio.Moment.failure?`), and
which failures are met on the way from one run to a later one (`PhoneAudio.Run.Meets`). A stream
that is taken out of standby answers the failure that it meets, and has a PCM if it meets none
(`PhoneAudio.Act.answered_wake`). Any other stream stays out of standby unless it could not be
opened.
-/

namespace PhoneAudio

/-- What opening a PCM fails with for a stream: a PCM that is not ready is a failure too. -/
def openingError? : Except PcmError OpenPcm → Option AudioError
  | .error error => some (.pcm error)
  | .ok pcm => if pcm.ready then none else some (.pcm .notReady)

/-- What a transfer of a PCM fails with for a stream. -/
def transferError? {α : Type} : Except PcmError α → Option AudioError
  | .error error => some (.pcm error)
  | .ok _ => none

namespace Moment

/-- What a call to the PCM driver on behalf of a stream fails with, if it does. -/
def failure? (id : StreamId) (moment : Moment) : Option AudioError :=
  match moment.what with
  | .openPcm owner setup =>
    if owner = .stream id then openingError? (moment.before.drivers.pcm.openPcm setup).1 else none
  | .writePcm owner bytes =>
    if owner = id then
      (moment.before.stream id).pcm.bind fun pcm =>
        transferError? (moment.before.drivers.pcm.write pcm bytes).1
    else none
  | .readPcm owner bytes =>
    if owner = id then
      (moment.before.stream id).pcm.bind fun pcm =>
        transferError? (moment.before.drivers.pcm.read pcm bytes).1
    else none
  | _ => none

/-- Whether opening a PCM for a stream fails at a moment. -/
def Refuses (moment : Moment) (id : StreamId) : Prop :=
  ∃ setup, moment.what = .openPcm (.stream id) setup ∧ (moment.failure? id).isSome = true

end Moment

namespace Happening

/-- Whether something that happens is a call to the PCM driver that opens a PCM for a stream or
transfers. -/
def isStreamCall : Happening → Bool
  | openPcm (.stream _) _ | writePcm .. | readPcm .. => true
  | _ => false

/-- Whether something that happens tells that a transfer failed. -/
def isReport : Happening → Bool
  | event _ (.transferFailed ..) => true
  | _ => false

/-- Whether something that happens tells that a stream entered standby. -/
def tellsStandby (id : StreamId) : Happening → Bool
  | event owner (.standbyEntered _) => owner = some id
  | _ => false

/-- Whether something that happens is no such call and tells of no failure. -/
def isSettling (what : Happening) : Bool :=
  !what.isStreamCall && !what.isReport

/-- Whether besides it does not tell that a stream entered standby. -/
def isHushed (id : StreamId) (what : Happening) : Bool :=
  what.isSettling && !what.tellsStandby id

theorem isSettling_of_isSilent {what : Happening} (silent : what.isSilent = true) :
    what.isSettling = true := by
  match what with
  | openPcm .router _ | lock _ | tryLock .. | unlock _ | standby _ | openMixer | findControl _
  | setControl .. | closePcm .. | startPcm .. | acquireWake .. | releaseWake .. => rfl

theorem isHushed_of_isSilent {id : StreamId} {what : Happening} (silent : what.isSilent = true) :
    what.isHushed id = true := by
  match what with
  | openPcm .router _ | lock _ | tryLock .. | unlock _ | standby _ | openMixer | findControl _
  | setControl .. | closePcm .. | startPcm .. | acquireWake .. | releaseWake .. => rfl

theorem isSettling_of_isHushed {id : StreamId} {what : Happening}
    (hushed : what.isHushed id = true) : what.isSettling = true :=
  (Bool.and_eq_true_iff.mp hushed).1

theorem unreported_of_isSettling {what : Happening} (settling : what.isSettling = true) :
    what.isReport = false := by
  simpa using (Bool.and_eq_true_iff.mp settling).2

theorem untold_of_isHushed {id : StreamId} {what : Happening} (hushed : what.isHushed id = true) :
    what.isReport = false ∧ what.tellsStandby id = false := by
  refine ⟨unreported_of_isSettling (isSettling_of_isHushed hushed), ?_⟩
  simpa using (Bool.and_eq_true_iff.mp hushed).2

theorem isHushed_standbyEntered {id owner : StreamId} (different : owner ≠ id)
    {direction : Direction} :
    (event (some owner) (.standbyEntered direction)).isHushed id = true := by
  have apart : (event (some owner) (.standbyEntered direction)).tellsStandby id = false :=
    decide_eq_false fun same => different (Option.some_inj.mp same)
  unfold isHushed
  rw [apart]
  rfl

end Happening

/-- Opening the PCM of a stream fails if the driver refuses to. -/
theorem Moment.failure?_openPcm (id owner : StreamId) (setup : PcmSetup) (before : Machine) :
    Moment.failure? id ⟨.openPcm (.stream owner) setup, before⟩ =
      if owner = id then openingError? (before.drivers.pcm.openPcm setup).1 else none := by
  simp only [failure?, Component.stream.injEq]

/-- A PCM that fails to open is refused. -/
theorem Moment.refuses_of_openingError {owner : StreamId} {setup : PcmSetup} {before : Machine}
    {error : AudioError}
    (failed : openingError? (before.drivers.pcm.openPcm setup).1 = some error) :
    Moment.Refuses ⟨.openPcm (.stream owner) setup, before⟩ owner := by
  refine ⟨setup, rfl, ?_⟩
  rw [failure?_openPcm, if_pos rfl, failed]
  rfl

/-- Nothing fails but calls to the PCM driver on behalf of streams. -/
theorem Moment.failure?_of_isSettling {moment : Moment} (settling : moment.what.isSettling = true)
    (id : StreamId) : moment.failure? id = none := by
  obtain ⟨what, before⟩ := moment
  unfold failure?
  match what with
  | .openPcm .router _ => exact if_neg nofun
  | .lock _ | .tryLock .. | .unlock _ | .standby _ | .openMixer | .findControl _ | .setControl ..
  | .closePcm .. | .startPcm .. | .acquireWake .. | .releaseWake .. | .event .. => rfl

namespace Run

variable {before middle after : Run} {id : StreamId} {found further : List AudioError}
  {moments more : List Moment}

/-- What happens on the way from one run to a later one: calls on behalf of a stream fail in this
order, the listener is not told of a failure nor that the stream entered standby, and any other
stream stays out of standby unless it could not be opened. -/
structure Meets (before : Run) (id : StreamId) (found : List AudioError) (moments : List Moment)
    (after : Run) : Prop where
  history : after.history = before.history ++ moments
  failed : moments.filterMap (Moment.failure? id) = found
  untold : ∀ moment ∈ moments, moment.what.isReport = false ∧ moment.what.tellsStandby id = false
  others : ∀ other, other ≠ id → (before.machine.tie other).2 = true →
    (after.machine.tie other).2 = true ∨ ∃ moment ∈ moments, moment.Refuses other

/-- Without any moment, no failure is met. -/
theorem Meets.refl (run : Run) (id : StreamId) : run.Meets id [] [] run :=
  ⟨(List.append_nil _).symm, rfl, List.forall_mem_nil _, fun _ _ => .inl⟩

/-- Failures are met in order. -/
theorem Meets.trans (first : before.Meets id found moments middle)
    (rest : middle.Meets id further more after) :
    before.Meets id (found ++ further) (moments ++ more) after := by
  refine ⟨?_, ?_, fun moment member => ?_, fun other different active => ?_⟩
  · rw [rest.history, first.history, List.append_assoc]
  · rw [List.filterMap_append, first.failed, rest.failed]
  · exact (List.mem_append.mp member).elim (first.untold moment) (rest.untold moment)
  · obtain between | ⟨moment, member, refused⟩ := first.others other different active
    · obtain last | ⟨moment, member, refused⟩ := rest.others other different between
      · exact .inl last
      · exact .inr ⟨moment, List.mem_append_right _ member, refused⟩
    · exact .inr ⟨moment, List.mem_append_left _ member, refused⟩

/-- What is hushed meets no failure. It may put streams to standby that could not be opened. -/
theorem Meets.stays (met : before.Meets id found moments middle)
    (stays : middle.Stays Machine.fixtures (Happening.isHushed id) after)
    (others : ∀ other, other ≠ id → (middle.machine.tie other).2 = true →
      (after.machine.tie other).2 = true ∨ ∃ moment ∈ moments, moment.Refuses other) :
    ∃ more, before.Meets id found (moments ++ more) after := by
  obtain ⟨more, history, hushed⟩ := stays.moments
  have none : more.filterMap (Moment.failure? id) = [] := by
    refine List.filterMap_eq_nil_iff.mpr fun moment member => ?_
    have settling := Happening.isSettling_of_isHushed (hushed moment member).2
    exact Moment.failure?_of_isSettling settling id
  refine ⟨more, ?_, ?_, fun moment member => ?_, fun other different active => ?_⟩
  · rw [history, met.history, List.append_assoc]
  · rw [List.filterMap_append, met.failed, none, List.append_nil]
  · obtain early | late := List.mem_append.mp member
    · exact met.untold moment early
    · exact Happening.untold_of_isHushed (hushed moment late).2
  · have refused : (∃ moment ∈ moments, moment.Refuses other) →
        ∃ moment ∈ moments ++ more, moment.Refuses other :=
      fun ⟨moment, member, refuses⟩ => ⟨moment, List.mem_append_left _ member, refuses⟩
    obtain between | earlier := met.others other different active
    · exact (others other different between).imp_right refused
    · exact .inr (refused earlier)

/-- What is hushed and leaves other streams out of standby meets no failure. -/
theorem Meets.of_stays (stays : before.Stays Machine.fixtures (Happening.isHushed id) after)
    (flags : ∀ other, other ≠ id → (before.machine.tie other).2 = true →
      (after.machine.tie other).2 = true) : ∃ moments, before.Meets id [] moments after :=
  (Meets.refl before id).stays stays fun other different active =>
    .inl (flags other different active)

/-- The answer to opening a stream is the failure that was met on the way, and the stream has a PCM
if there was none. -/
structure Answered (before : Run) (id : StreamId) (answer : Except AudioError Unit) (after : Run) :
    Prop where
  meets : ∃ moments, before.Meets id (PhoneAudio.failures answer) moments after
  pcm : id < before.machine.streams.length → answer = .ok () →
    (after.machine.tie id).1.isSome = true

variable {answer : Except AudioError Unit}

/-- What is done before meets no failure. -/
theorem Answered.preceded (answered : middle.Answered id answer after)
    (meets : ∃ moments, before.Meets id [] moments middle)
    (length : middle.machine.streams.length = before.machine.streams.length) :
    before.Answered id answer after := by
  obtain ⟨_, met⟩ := meets
  obtain ⟨_, more⟩ := answered.meets
  exact ⟨⟨_, met.trans more⟩, fun inside => answered.pcm (length.symm ▸ inside)⟩

/-- What is done afterwards meets no failure. -/
theorem Answered.followed (answered : before.Answered id answer middle)
    (meets : ∃ moments, middle.Meets id [] moments after)
    (pcm : (after.machine.tie id).1 = (middle.machine.tie id).1) :
    before.Answered id answer after := by
  obtain ⟨moments, met⟩ := answered.meets
  obtain ⟨more, later⟩ := meets
  have both := met.trans later
  rw [List.append_nil] at both
  exact ⟨⟨_, both⟩, fun inside opened => pcm ▸ answered.pcm inside opened⟩

end Run

namespace Act

variable {α β : Type} {id sibling : StreamId}

/-- An action that meets no failure about a stream and leaves its PCM. -/
structure Clear (id : StreamId) (action : Act α) : Prop where
  fixed : Fixed action
  pcm : Keeps (fun run => (run.machine.tie id).1) action
  meets : ∀ run : Run, ∃ moments, run.Meets id [] moments (action run).2

/-- An action that answers the failure that it meets about a stream, from every run. -/
def Answers (id : StreamId) (action : Act (Except AudioError Unit)) : Prop :=
  ∀ run : Run, run.Answered id (action run).1 (action run).2

/-- Whatever is fixed adds no stream. -/
theorem Fixed.length {action : Act α} (fixed : Fixed action) (run : Run) :
    (action run).2.machine.streams.length = run.machine.streams.length := by
  have same : (action run).2.machine.postings = run.machine.postings :=
    congrArg Prod.snd (fixed run).kept
  rw [← Machine.length_postings, same, Machine.length_postings]

theorem clear_pure (answer : α) : Clear id (pure answer : Act α) :=
  ⟨stays_pure _, keeps_pure _, fun run => ⟨[], .refl run id⟩⟩

/-- Failing nowhere is handed on from one action to the next. -/
theorem Clear.bind {action : Act α} {next : α → Act β} (first : Clear id action)
    (rest : ∀ answer, Clear id (next answer)) : Clear id (action >>= next) := by
  refine ⟨first.fixed.bind fun answer => (rest answer).fixed,
    first.pcm.bind fun answer => (rest answer).pcm, fun run => ?_⟩
  obtain ⟨_, met⟩ := first.meets run
  obtain ⟨_, more⟩ := (rest (action run).1).meets (action run).2
  exact ⟨_, met.trans more⟩

/-- What comes before an answer may fail nowhere. -/
theorem Clear.answers {action : Act α} {next : α → Act (Except AudioError Unit)}
    (first : Clear id action) (rest : ∀ answer, Answers id (next answer)) :
    Answers id (action >>= next) :=
  fun run => (rest _ _).preceded (first.meets run) (first.fixed.length run)

/-- What is done after the answer is known, and does not change it. -/
theorem Answers.then {action : Act (Except AudioError Unit)}
    {next : Except AudioError Unit → Act (Except AudioError Unit)} (first : Answers id action)
    (rest : ∀ answer, Clear id (next answer)) (same : ∀ answer run, (next answer run).1 = answer) :
    Answers id (action >>= next) := by
  intro run
  have answered := (first run).followed ((rest (action run).1).meets (action run).2)
    ((rest (action run).1).pcm (action run).2)
  have kept := same (action run).1 (action run).2
  rw [bind_apply, kept]
  exact answered

/-- What is silent is hushed. -/
theorem Silent.hushed {action : Act α} (silent : Silent action) (id : StreamId) :
    Stays Machine.fixtures (Happening.isHushed id) action :=
  silent.ofKind fun _ => Happening.isHushed_of_isSilent

/-- A silent action that leaves standby flags and PCMs. -/
theorem Silent.clear {action : Act α} (silent : Silent action)
    (ties : Keeps (fun run => run.machine.ties) action) : Clear id action := by
  have tie : ∀ run other, (action run).2.machine.tie other = run.machine.tie other :=
    fun run => Machine.tie_of_ties (ties run)
  refine ⟨silent.fixed, fun run => congrArg Prod.fst (tie run id), fun run => ?_⟩
  refine Run.Meets.of_stays (silent.hushed id run) fun other _ active => ?_
  rw [tie]
  exact active

/-- What is plain leaves the PCMs and the standby of streams. -/
theorem Plain.keeps_ties {action : Act α} (plain : Plain action) :
    Keeps (fun run => run.machine.ties) action :=
  fun run => Machine.ties_of_vitals (plain run).kept

theorem clear_lock (target : Lock) : Clear id (lock target) :=
  (silent_lock target).clear (plain_lock target).keeps_ties

theorem clear_unlock (target : Lock) : Clear id (unlock target) :=
  (silent_unlock target).clear (plain_unlock target).keeps_ties

theorem clear_acquireWake (other : StreamId) : Clear id (acquireWake other) :=
  (silent_acquireWake other).clear fun run => keeps_ties_callWakeLock _ _ run

theorem clear_routeOpened (other : StreamId) : Clear id (routeOpened other) :=
  (silent_routeOpened other).clear (keeps_ties_routeOpened other)

/-- Closing another stream leaves the PCM of a stream. -/
theorem tie_closeLocked (different : id ≠ sibling) (run : Run) :
    (closeLocked sibling run).2.machine.tie id = run.machine.tie id :=
  Machine.tie_modify_of_ne (ties_closeLocked sibling run) different

/-- Putting another stream to standby leaves a stream. -/
theorem tie_standbyLocked (different : id ≠ sibling) (run : Run) :
    (standbyLocked sibling run).2.machine.tie id = run.machine.tie id :=
  Machine.tie_modify_of_ne (ties_standbyLocked sibling run) different

/-- Opening the PCM of another stream leaves a stream. -/
theorem tie_engage (different : id ≠ sibling) (run : Run) :
    (engage sibling run).2.machine.tie id = run.machine.tie id := by
  obtain ⟨_, -, same⟩ | ⟨pcm, -, fitted⟩ := ties_engage sibling run
  · exact Machine.tie_of_ties same id
  · exact Machine.tie_modify_of_ne fitted different

/-- Closing a stream on behalf of another. -/
theorem clear_closeLocked (different : sibling ≠ id) : Clear id (closeLocked sibling) := by
  refine ⟨(silent_closeLocked sibling).fixed,
    fun run => congrArg Prod.fst (tie_closeLocked (Ne.symm different) run), fun run => ?_⟩
  refine Run.Meets.of_stays ((silent_closeLocked sibling).hushed id run) fun other _ active => ?_
  exact (Machine.tie_modify_of_unseen Prod.snd (ties_closeLocked sibling run) (fun _ => rfl)
    other).trans active

/-- A driver call on behalf of a stream fails or not. -/
theorem meets_call {what : Happening} (id owner : StreamId) (activity : Activity)
    (effect : Drivers → α × Drivers) (untold : what.isReport = false ∧ what.tellsStandby id = false)
    (run : Run) :
    run.Meets id
      (Moment.failure? id ⟨what, (setActivity activity (.stream owner) run).2.machine⟩).toList
      [⟨what, (setActivity activity (.stream owner) run).2.machine⟩]
      (call (.stream owner) activity what effect run).2 := by
  have ties : (call (.stream owner) activity what effect run).2.machine.ties =
      run.machine.ties := keeps_ties_call owner activity what effect run
  refine ⟨rfl, ?_, ?_, fun other _ active => .inl ?_⟩
  · rw [List.filterMap_cons]
    cases Moment.failure? id ⟨what, (setActivity activity (.stream owner) run).2.machine⟩ <;> rfl
  · intro moment member
    rw [List.mem_singleton.mp member]
    exact untold
  · rw [Machine.tie_of_ties ties]
    exact active

/-- Putting a PCM into a stream meets no failure. -/
theorem meets_installPcm (id owner : StreamId) (pcm : OpenPcm) (run : Run) :
    ∃ moments, run.Meets id [] moments (installPcm owner pcm run).2 := by
  have installed : (installPcm owner pcm run).2.machine.ties =
      run.machine.ties.modify owner fun tie => (some pcm, tie.2) :=
    (Machine.ties_of_streams (turns_installPcm run owner pcm).streams).trans
      (run.machine.ties_adjust owner fun _ => rfl)
  refine Run.Meets.of_stays ((silent_installPcm owner pcm).hushed id run) fun other _ active => ?_
  exact (Machine.tie_modify_of_unseen Prod.snd installed (fun _ => rfl) other).trans active

theorem clear_closing (owner : StreamId) (setup : PcmSetup) (pcm : OpenPcm) :
    Clear id (call (.stream owner) .closingPcm (.closePcm (.stream owner) setup) (closing pcm)) :=
  Silent.clear (fixtures_call _ _ rfl fun _ => rfl) (keeps_ties_call owner _ _ _)

/-- The call that opens a PCM for a stream fails or not. -/
theorem meets_opening (id : StreamId) {owner : StreamId} {setup : PcmSetup} {run after : Run}
    {outcome : Except PcmError OpenPcm}
    (called : call (.stream owner) .openingPcm (.openPcm (.stream owner) setup)
      (onPcm (·.openPcm setup)) run = (outcome, after)) :
    ∃ moment, run.Meets id (if owner = id then (openingError? outcome).toList else []) [moment]
        after ∧ ∀ error, openingError? outcome = some error → moment.Refuses owner := by
  have untold : (Happening.openPcm (.stream owner) setup).isReport = false ∧
      (Happening.openPcm (.stream owner) setup).tellsStandby id = false := ⟨rfl, rfl⟩
  have answer : ((setActivity .openingPcm (.stream owner) run).2.machine.drivers.pcm.openPcm
      setup).1 = outcome := congrArg Prod.fst called
  have met := meets_call id owner .openingPcm (onPcm (·.openPcm setup)) untold run
  rw [Moment.failure?_openPcm, answer, called, apply_ite Option.toList] at met
  exact ⟨_, met, fun error failed => Moment.refuses_of_openingError (answer ▸ failed)⟩

/-- **Opening** a PCM answers what it fails with. -/
theorem meets_engage (id owner : StreamId) (run : Run) :
    ∃ moments, run.Meets id (if owner = id then failures (engage owner run).1 else []) moments
        (engage owner run).2 ∧
      ∀ error, (engage owner run).1 = .error error → ∃ moment ∈ moments, moment.Refuses owner := by
  unfold engage
  simp only [bind_apply, machine_apply, stream_apply]
  generalize PcmSetup.codec run.machine.settings (run.machine.stream owner).direction = setup
  rcases called : call (.stream owner) .openingPcm (.openPcm (.stream owner) setup)
    (onPcm (·.openPcm setup)) run with ⟨outcome, after⟩
  obtain ⟨moment, met, refuses⟩ := meets_opening id called
  cases outcome with
  | error error => exact ⟨_, met, fun _ _ => ⟨moment, List.mem_singleton_self _, refuses _ rfl⟩⟩
  | ok pcm =>
      dsimp only
      by_cases ready : pcm.ready = true
      · obtain ⟨moments, installed⟩ := meets_installPcm id owner pcm after
        have both := met.trans installed
        rw [openingError?, if_pos ready, List.append_nil] at both
        rw [if_pos ready]
        refine ⟨_, both, fun error refused => ?_⟩
        cases refused
      · obtain ⟨moments, closed⟩ := (clear_closing owner setup pcm).meets after
        have both := met.trans closed
        rw [openingError?, if_neg ready, List.append_nil] at both
        rw [if_neg ready]
        refine ⟨_, both, fun _ _ => ⟨moment, List.mem_append_left _ ?_, refuses _ (if_neg ready)⟩⟩
        exact List.mem_singleton_self _

/-- Opening a stream answers what opening its PCM fails with. -/
theorem answers_openLocked : Answers id (openLocked id) := by
  have engages : Answers id (engage id) := by
    refine fun run => ⟨?_, fun inside opened => ?_⟩
    · obtain ⟨moments, met, -⟩ := meets_engage id id run
      rw [if_pos rfl] at met
      exact ⟨moments, met⟩
    · obtain ⟨error, refused, -⟩ | ⟨pcm, -, fitted⟩ := ties_engage id run
      · rw [refused] at opened
        cases opened
      · rw [← run.machine.length_ties] at inside
        rw [Machine.tie_modify fitted inside]
        rfl
  rw [openLocked_eq]
  refine engages.then (fun opened => ?_) fun opened run => ?_
  · cases opened with
    | error error => exact clear_pure _
    | ok => exact (clear_routeOpened id).bind fun _ => clear_pure _
  · cases opened <;> rfl

/-- A stream that made way for another and cannot be opened again was refused its PCM. -/
theorem clear_reopenOrStandby (different : sibling ≠ id) : Clear id (reopenOrStandby sibling) := by
  have tie : Keeps (fun run => run.machine.tie id) (reopenOrStandby sibling) := by
    unfold reopenOrStandby
    rw [openLocked_eq]
    refine Keeps.bind (Keeps.bind (tie_engage (Ne.symm different)) fun opened => ?_)
      fun opened => ?_
    · cases opened with
      | error error => exact keeps_pure _
      | ok =>
          refine Keeps.bind (fun run => ?_) fun _ => keeps_pure _
          exact Machine.tie_of_ties (keeps_ties_routeOpened sibling run) id
    · cases opened with
      | error error => exact tie_standbyLocked (Ne.symm different)
      | ok => exact keeps_pure _
  refine ⟨fixed_reopenOrStandby sibling, fun run => congrArg Prod.fst (tie run), fun run => ?_⟩
  obtain ⟨moments, met, refused⟩ := meets_engage id sibling run
  rw [if_neg different] at met
  unfold reopenOrStandby
  rw [bind_apply, openLocked_eq, bind_apply]
  generalize engage sibling run = answered at met refused
  obtain ⟨error | opened, after⟩ := answered
  · have stays := fixtures_standbyLocked (fun _ => Happening.isHushed_of_isSilent)
      (fun _ => Happening.isHushed_standbyEntered different) after
    obtain ⟨more, ended⟩ := met.stays stays fun other _ active => by
      by_cases same : other = sibling
      · rw [same]
        exact .inr (refused error rfl)
      · rw [tie_standbyLocked same]
        exact .inl active
    exact ⟨_, ended⟩
  · obtain ⟨more, routed⟩ := (clear_routeOpened sibling).meets after
    exact ⟨_, met.trans routed⟩

/-- A stream that was opened is out of standby afterwards. -/
theorem ties_settled (id : StreamId) (opened : Except AudioError Unit) (run : Run) :
    (settleWaking id opened run).2.machine.ties = run.machine.ties ∨
      (settleWaking id opened run).2.machine.ties =
        run.machine.ties.modify id fun tie => (tie.1, true) := by
  cases opened with
  | error error => exact .inl (keeps_ties_callWakeLock _ _ run)
  | ok => exact .inr (ties_settleWaking id run)

/-- Settling how a stream was opened meets no failure. -/
theorem clear_settleWaking (opened : Except AudioError Unit) :
    Clear id (settleWaking id opened) := by
  have hushed : Stays Machine.fixtures (Happening.isHushed id) (settleWaking id opened) := by
    cases opened with
    | error error => exact ((silent_releaseWake id).hushed id).bind fun _ => stays_pure _
    | ok =>
        refine ((silent_changeStatus id _).hushed id).bind fun _ => ?_
        refine (stays_stream id).bind fun _ => ?_
        exact Stays.bind (fixtures_tell rfl) fun _ => stays_pure _
  refine ⟨fixed_settleWaking id opened, fun run => ?_, fun run => ?_⟩
  · obtain same | roused := ties_settled id opened run
    · exact congrArg Prod.fst (Machine.tie_of_ties same id)
    · exact Machine.tie_modify_of_unseen Prod.fst roused (fun _ => rfl) id
  · refine Run.Meets.of_stays (hushed run) fun other different active => ?_
    obtain same | roused := ties_settled id opened run
    · exact (congrArg Prod.snd (Machine.tie_of_ties same other)).trans active
    · exact (congrArg Prod.snd (Machine.tie_modify_of_ne roused different)).trans active

/-- Opening and settling answers with the failure that it meets. -/
theorem answers_openAndSettle :
    Answers id (openLocked id >>= fun opened => settleWaking id opened) :=
  answers_openLocked.then (fun opened => clear_settleWaking opened) fun opened run => by
    cases opened <;> rfl

/-- A takeover that was not disturbed has nothing to tell. -/
theorem clear_tellRetries (direction : Direction) (sibling : StreamId) :
    Clear id (tellRetries direction (some ⟨sibling, (), 0⟩)) := by
  unfold tellRetries
  dsimp only
  rw [if_neg (UInt32.lt_irrefl 0)]
  exact clear_pure _

/-- A stream in standby takes over others only. -/
theorem answered_takeOver {direction : Direction} {own : Option StreamId}
    {next : Option (Takeover.Taken StreamId Unit) → Act (Except AudioError Unit)}
    (vacant : Answers id (next none))
    (taken : ∀ sibling, sibling ≠ id → Answers id (next (some ⟨sibling, (), 0⟩))) {run : Run}
    (asleep : (run.machine.tie id).2 = false) :
    run.Answered id ((takeOver direction own [] >>= next) run).1
      ((takeOver direction own [] >>= next) run).2 := by
  have takes : Clear id (takeOver direction own []) :=
    (silent_takeOver direction own).clear (plain_takeOver direction own).keeps_ties
  have meets := takes.meets run
  have length := takes.fixed.length run
  rw [bind_apply]
  obtain ⟨-, ended⟩ | ⟨sibling, active, ended⟩ := takeOver_undisturbed direction own run
  · rw [ended]
    exact vacant run
  · rw [ended] at meets length ⊢
    have different : sibling ≠ id := by
      rintro rfl
      have awake : (run.machine.tie sibling).2 = true := Machine.isActive_of_active active
      rw [asleep] at awake
      cases awake
    exact (taken sibling different _).preceded meets length

/-- A playback stream that wakes answers with the failure that it meets. -/
theorem answered_wakePlayback {run : Run} (asleep : (run.machine.tie id).2 = false) :
    run.Answered id (wakePlayback id [] run).1 (wakePlayback id [] run).2 := by
  refine answered_takeOver ?_ (fun sibling different => ?_) asleep
  · exact (clear_pure _).answers fun _ => answers_openAndSettle
  · refine (clear_tellRetries _ sibling).answers fun _ => ?_
    refine (clear_closeLocked different).answers fun _ => ?_
    refine answers_openLocked.then (fun opened => ?_) fun opened run => ?_
    · refine (clear_reopenOrStandby different).bind fun _ => (clear_unlock _).bind fun _ => ?_
      exact clear_settleWaking opened
    · cases opened <;> rfl

/-- A capture stream that wakes answers with the failure that it meets. -/
theorem answered_wakeCapture {run : Run} (asleep : (run.machine.tie id).2 = false) :
    run.Answered id (wakeCapture id [] run).1 (wakeCapture id [] run).2 := by
  refine answered_takeOver ?_ (fun sibling different => ?_) asleep
  · exact (clear_pure _).answers fun _ => answers_openAndSettle
  · refine (clear_tellRetries _ sibling).answers fun _ => ?_
    refine (clear_closeLocked different).answers fun _ => ?_
    refine (clear_reopenOrStandby different).answers fun _ => (clear_unlock _).answers fun _ => ?_
    exact answers_openAndSettle

/-- **Waking.** A stream that is open answers the failure that it meets when it is taken out of
standby, and has a PCM if it meets none. -/
theorem answered_wake {run : Run} (tied : run.machine.Tied)
    (attached : (run.machine.stream id).status.detached = false)
    (present : run.machine.hardware.present = true) :
    run.Answered id (wake id [] run).1 (wake id [] run).2 := by
  unfold wake
  rw [bind_apply, stream_apply]
  dsimp only
  by_cases active : (run.machine.stream id).isActive = true
  · rw [if_pos active]
    exact ⟨⟨[], .refl run id⟩, fun _ _ => (tied.tie id).trans active⟩
  rw [if_neg active, attached, if_neg Bool.false_ne_true, bind_apply, hardware_apply]
  dsimp only
  rw [present, if_neg (by decide)]
  have begun : Clear id (lock .hardware >>= fun _ => acquireWake id) :=
    (clear_lock _).bind fun _ => clear_acquireWake id
  have ties : ((lock .hardware >>= fun _ => acquireWake id) run).2.machine.ties =
      run.machine.ties :=
    (keeps_ties_callWakeLock _ _ _).trans ((plain_lock .hardware).keeps_ties run)
  have asleep :
      (((lock .hardware >>= fun _ => acquireWake id) run).2.machine.tie id).2 = false := by
    rw [Machine.tie_of_ties ties]
    exact Bool.eq_false_of_not_eq_true active
  have under : ∀ {action : Act (Except AudioError Unit)},
      ((lock .hardware >>= fun _ => acquireWake id) run).2.Answered id
        (action ((lock .hardware >>= fun _ => acquireWake id) run).2).1
        (action ((lock .hardware >>= fun _ => acquireWake id) run).2).2 →
      run.Answered id (withHardware (acquireWake id >>= fun _ => action) run).1
        (withHardware (acquireWake id >>= fun _ => action) run).2 := by
    intro action answered
    have preceded := answered.preceded (begun.meets run) (begun.fixed.length run)
    exact preceded.followed ((clear_unlock .hardware).meets _) ((clear_unlock .hardware).pcm _)
  cases (run.machine.stream id).direction with
  | playback => exact under (answered_wakePlayback asleep)
  | capture => exact under (answered_wakeCapture asleep)

end Act

end PhoneAudio
