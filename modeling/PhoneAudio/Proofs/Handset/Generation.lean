import PhoneAudio.Proofs.Handset.Making
import PhoneAudio.Proofs.Handset.Moves

/-!
# Takeovers and generations

A takeover never ends with a stale occupant, on any state and whatever others do during its waits
(`PhoneAudio.Takeover.neverStale`). For streams, the generation counts how often a stream was put to
standby (`PhoneAudio.Act.Made.accounts`). So a stream that is taken over was not put to standby
between the last request for its lock and the end of the takeover, unless it was put to standby so
often that the generation has come round (`PhoneAudio.Act.staysAwake_of_unchanged`).
-/

namespace PhoneAudio

/-- How often a stream is put to standby in a part of a history. -/
def standbys (id : StreamId) (moments : List Moment) : Nat :=
  moments.countP fun moment => moment.what = .standby id

/-- A stream is out of standby at every moment of a part of a history. -/
def AwakeAt (id : StreamId) (moments : List Moment) : Prop :=
  ∀ moment ∈ moments, (moment.before.stream id).isActive = true

theorem standbys_append (id : StreamId) (moments more : List Moment) :
    standbys id (moments ++ more) = standbys id moments + standbys id more :=
  List.countP_append

/-- Active streams are out of standby. -/
theorem Machine.isActive_of_active {machine : Machine} {direction : Direction} {id : StreamId}
    (active : machine.active direction = some id) : (machine.stream id).isActive = true := by
  cases direction with
  | playback => exact (Option.filter_eq_some_iff.mp active).2
  | capture =>
      have found : machine.hardware.inputs.find? (fun id => (machine.stream id).isActive) =
        some id := active
      simpa using List.find?_some found

/-- A stream that is active was opened. -/
theorem Machine.inside_of_isActive {machine : Machine} {id : StreamId}
    (active : (machine.stream id).isActive = true) : id < machine.streams.length := by
  refine Nat.lt_of_not_le fun outside => ?_
  rw [Machine.stream, List.getD_eq_default _ _ outside] at active
  cases active

/-- What happens to a stream from one run to another. Its generation is raised each time that it is
put to standby, and a stream that is not put to standby stays out of it. -/
structure Run.Accounts (id : StreamId) (first : Run) (moments : List Moment) (last : Run) :
    Prop where
  history : last.history = first.history ++ moments
  inside : id < last.machine.streams.length
  generation : (last.machine.stream id).status.generation =
    (first.machine.stream id).status.generation + UInt32.ofNat (standbys id moments)
  awake : standbys id moments = 0 → (first.machine.stream id).isActive = true →
    AwakeAt id moments ∧ (last.machine.stream id).isActive = true

/-- What a stream's account is told from: its status, among those of so many streams. -/
def Machine.standing (id : StreamId) (machine : Machine) : Nat × StreamStatus :=
  (machine.streams.length, (machine.stream id).status)

/-- Whether something that happens is other than that a stream is put to standby. -/
def Happening.spares (id : StreamId) (what : Happening) : Bool :=
  what ≠ .standby id

/-- What is calm puts no stream to standby. -/
theorem Happening.spares_of_isCalm {what : Happening} (calm : what.isCalm = true)
    (id : StreamId) : what.spares id = true := by
  cases what with
  | standby _ => cases calm
  | _ => rfl

namespace Run.Accounts

variable {id : StreamId} {first middle last : Run} {moments more : List Moment}

/-- Accounts of parts of a history one after the other. -/
theorem trans (early : first.Accounts id moments middle) (late : middle.Accounts id more last) :
    first.Accounts id (moments ++ more) last where
  history := by rw [late.history, early.history, List.append_assoc]
  inside := late.inside
  generation := by
    rw [late.generation, early.generation, standbys_append, UInt32.ofNat_add, UInt32.add_assoc]
  awake never active := by
    rw [standbys_append] at never
    obtain ⟨before, between⟩ := early.awake (Nat.eq_zero_of_add_eq_zero_right never) active
    obtain ⟨after, ended⟩ := late.awake (Nat.eq_zero_of_add_eq_zero_left never) between
    refine ⟨fun moment member => ?_, ended⟩
    obtain sooner | later := List.mem_append.mp member
    · exact before moment sooner
    · exact after moment later

/-- A change of which the history does not tell. -/
theorem of_history (inside : id < last.machine.streams.length)
    (history : last.history = first.history)
    (generation : (last.machine.stream id).status.generation =
      (first.machine.stream id).status.generation)
    (awake : (first.machine.stream id).isActive = true →
      (last.machine.stream id).isActive = true) : first.Accounts id [] last where
  history := by rw [history, List.append_nil]
  inside := inside
  generation := generation.trans (UInt32.add_zero _).symm
  awake _ active := ⟨fun _ member => absurd member List.not_mem_nil, awake active⟩

/-- What spares a stream does not put it to standby. -/
theorem standbys_of_spares (spares : ∀ moment ∈ moments, moment.what.spares id = true) :
    standbys id moments = 0 := by
  refine List.countP_eq_zero.mpr fun moment member slept => ?_
  exact of_decide_eq_true (spares moment member) (of_decide_eq_true slept)

/-- What leaves the status of a stream at every moment and does not put it to standby. -/
theorem of_stays (inside : id < first.machine.streams.length)
    (stays : first.Stays (Machine.standing id) (Happening.spares id) last) :
    ∃ moments, first.Accounts id moments last := by
  obtain ⟨moments, history, before⟩ := stays.moments
  have never : standbys id moments = 0 :=
    standbys_of_spares fun moment member => (before moment member).2
  have length : last.machine.streams.length = first.machine.streams.length :=
    congrArg Prod.fst stays.kept
  have active : ∀ {machine : Machine}, machine.standing id = first.machine.standing id →
      (machine.stream id).isActive = (first.machine.stream id).isActive :=
    fun same => congrArg (fun standing : Nat × StreamStatus => !standing.2.standby) same
  refine ⟨moments, history, length ▸ inside, ?_, fun _ awake => ⟨fun moment member => ?_, ?_⟩⟩
  · rw [never]
    exact (congrArg (·.2.generation) stays.kept).trans (UInt32.add_zero _).symm
  · exact (active (before moment member).1).trans awake
  · exact (active stays.kept).trans awake

end Run.Accounts

namespace Act

open Takeover

variable {α β : Type} {id : StreamId}

/-- An action that accounts for a stream. -/
def Accounts (id : StreamId) (action : Act α) : Prop :=
  ∀ run : Run, id < run.machine.streams.length → ∃ moments, run.Accounts id moments (action run).2

/-- What leaves the status of a stream and spares it is accounted for. -/
theorem Stays.accounts {action : Act α}
    (stays : Stays (Machine.standing id) (Happening.spares id) action) : Accounts id action :=
  fun run inside => Run.Accounts.of_stays inside (stays run)

theorem accounts_pure (answer : α) : Accounts id (pure answer : Act α) :=
  (stays_pure answer).accounts

/-- Accounting is handed on from one action to the next. -/
theorem Accounts.bind {action : Act α} {next : α → Act β} (first : Accounts id action)
    (rest : ∀ answer, Accounts id (next answer)) : Accounts id (action >>= next) := by
  intro run inside
  obtain ⟨moments, early⟩ := first run inside
  obtain ⟨more, late⟩ := rest (action run).1 _ early.inside
  exact ⟨_, early.trans late⟩

theorem composes_accounts : Composes fun action => Accounts id action :=
  ⟨accounts_pure, fun _ => Stays.accounts fun run => .refl run, Accounts.bind⟩

theorem standing_changeStream {kind : Happening → Bool} (other : StreamId) {f : Stream → Stream}
    (status : ∀ stream, (f stream).status = stream.status) :
    Stays (Machine.standing id) kind (changeStream other f) := by
  refine stays_change fun machine => Prod.ext (machine.length_adjust other f) ?_
  exact Machine.view_adjust Stream.status machine other id status

/-- Changing the status of another stream leaves that of a stream. -/
theorem standing_changeStatus_of_ne {kind : Happening → Bool} {other : StreamId}
    (different : id ≠ other) (f : StreamStatus → StreamStatus) :
    Stays (Machine.standing id) kind (changeStatus other f) := by
  refine stays_change fun machine => Prod.ext (machine.length_adjust other _) ?_
  exact congrArg Stream.status (machine.stream_adjust_of_ne _ different)

/-- Putting a stream to standby raises its generation once. -/
theorem accounts_doze_self (id : StreamId) : Accounts id (doze id) := by
  intro run inside
  have rest : Stays (fun machine => (machine.streams.length, (machine.stream id).status.generation))
      (Happening.spares id) (do
        if (← stream id).isActive then
          changeStatus id fun status => { status with standby := true }
          releaseWake id
          tell (some id) (.standbyEntered (← stream id).direction)) := by
    refine (stays_stream id).bind fun stream => ?_
    split
    · refine Stays.bind (stays_change fun machine => ?_) fun _ => ?_
      · exact Prod.ext (machine.length_adjust id _)
          (Machine.view_adjust (·.status.generation) machine id id fun _ => rfl)
      refine Stays.bind ((stays_stream id).bind fun _ => ?_) fun _ =>
        (stays_stream id).bind fun _ => ?_
      · exact composes_stays.callWakeLock (stays_bareCall rfl fun _ => rfl)
      · exact composes_stays.tell (stays_bareCall rfl fun _ => rfl)
    · exact stays_pure _
  have aged := run.machine.stream_adjust (fun stream => { stream with status :=
    { stream.status with generation := stream.status.generation + 1 } }) inside
  have stays := rest (age id run).2
  obtain ⟨moments, history, before⟩ := stays.moments
  have never : standbys id moments = 0 :=
    Run.Accounts.standbys_of_spares fun moment member => (before moment member).2
  have slept : standbys id (⟨.standby id, run.machine⟩ :: moments) = 1 := by
    simpa [standbys] using never
  refine ⟨_, history.trans (List.append_assoc ..), ?_, ?_, fun none => ?_⟩
  · have length := (congrArg Prod.fst stays.kept).trans (run.machine.length_adjust id _)
    exact Nat.lt_of_lt_of_eq inside length.symm
  · rw [List.singleton_append, slept]
    exact (congrArg Prod.snd stays.kept).trans (congrArg (·.status.generation) aged)
  · rw [List.singleton_append, slept] at none
    cases none

/-- Putting another stream to standby leaves a stream alone. -/
theorem accounts_doze_of_ne {other : StreamId} (different : id ≠ other) :
    Accounts id (doze other) := by
  have spares : (Happening.standby other).spares id = true :=
    decide_eq_true fun same => different (Happening.standby.inj same).symm
  have restated := fun f : StreamStatus → StreamStatus =>
    (standing_changeStatus_of_ne different f : Stays (Machine.standing id) (Happening.spares id) _)
  have aged : Stays (Machine.standing id) (Happening.spares id) (age other) :=
    (stays_note spares).bind fun _ => restated _
  refine (aged.bind fun _ => (stays_stream other).bind fun stream => ?_).accounts
  split
  · refine (restated _).bind fun _ => Stays.bind ((stays_stream other).bind fun _ => ?_) fun _ => ?_
    · exact composes_stays.callWakeLock (stays_bareCall rfl fun _ => rfl)
    · refine (stays_stream other).bind fun _ => ?_
      exact composes_stays.tell (stays_bareCall rfl fun _ => rfl)
  · exact stays_pure _

/-- A change that neither counts the generation nor puts to standby is accounted for. -/
theorem accounts_changeStatus (other : StreamId) {f : StreamStatus → StreamStatus}
    (generation : ∀ status, (f status).generation = status.generation)
    (awake : ∀ status, status.standby = false → (f status).standby = false) :
    Accounts id (changeStatus other f) := by
  intro run inside
  have length := run.machine.length_adjust other fun stream =>
    { stream with status := f stream.status }
  refine ⟨[], .of_history (length ▸ inside) rfl ?_ fun active => ?_⟩
  · exact Machine.view_adjust (·.status.generation) run.machine other id
      fun stream => generation stream.status
  · obtain ⟨-, changed⟩ | same := run.machine.stream_adjust_cases other id fun stream =>
      { stream with status := f stream.status }
    · have still : (run.machine.stream id).status.standby = false := by
        simpa [Stream.isActive] using active
      have changed : ((changeStatus other f run).2.machine.stream id).status.standby = false :=
        (congrArg (·.status.standby) changed).trans (awake _ still)
      simpa [Stream.isActive] using changed
    · exact (congrArg Stream.isActive same).trans active

theorem accounts_changeHardware (f : Hardware → Hardware) : Accounts id (changeHardware f) :=
  Stays.accounts (stays_change fun _ => rfl)

theorem accounts_note {what : Happening} (calm : what.isCalm = true) : Accounts id (note what) :=
  Stays.accounts (stays_note (Happening.spares_of_isCalm calm id))

theorem accounts_drive (effect : Drivers → α × Drivers) : Accounts id (drive effect) :=
  Stays.accounts (stays_drive fun _ => rfl)

theorem accounts_changeStream (other : StreamId) {f : Stream → Stream}
    (status : ∀ stream, (f stream).status = stream.status) : Accounts id (changeStream other f) :=
  (standing_changeStream other status).accounts

/-- A read is accounted for. -/
theorem accounts_readOpen (other : StreamId) (frames : Nat) :
    Accounts id (readOpen other frames) := by
  have noted : ∀ activity, Stays (Machine.standing id) (Happening.spares id)
      (setActivity activity (.stream other)) :=
    fun activity => standing_changeStream other fun _ => rfl
  refine Stays.accounts (stays_readOpen_of (fun raw => ?_) (fun pcm bytes => ?_)
    (fun pipeline samples => ?_) frames)
  · exact standing_changeStream other fun _ => rfl
  · exact (noted _).bind fun _ => (stays_bareCall rfl fun _ => rfl).bind fun _ =>
      (noted _).bind fun _ => stays_pure _
  · exact standing_changeStream other fun _ => rfl

theorem accounts_withHardware {action : Act α} (accounts : Accounts id action) :
    Accounts id (withHardware action) := by
  have changed : ∀ locked, Accounts id (setLocked locked .hardware) :=
    fun locked => accounts_changeHardware fun hardware => { hardware with locked := locked }
  refine ((accounts_note rfl).bind fun _ => changed true).bind fun _ => accounts.bind fun _ => ?_
  exact ((accounts_note rfl).bind fun _ => changed false).bind fun _ => accounts_pure _

/-- A stream that is added is not one of those that there were. -/
theorem accounts_addStream (stream : Stream) : Accounts id (addStream stream) := by
  intro run inside
  have same : (addStream stream run).2.machine.stream id = run.machine.stream id :=
    List.getD_append _ _ _ _ inside
  have longer : run.machine.streams.length ≤ (addStream stream run).2.machine.streams.length :=
    (List.length_append ..).symm ▸ Nat.le_add_right ..
  have generation := congrArg (·.status.generation) same
  exact ⟨[], .of_history (Nat.lt_of_lt_of_le inside longer) rfl generation
    fun active => (congrArg Stream.isActive same).trans active⟩

/-- Opening a stream is accounted for. -/
theorem accounts_openStream (direction : Direction) (devices : Devices) (request : FormatRequest) :
    Accounts id (openStream direction devices request) := by
  have read : Accounts id machine := composes_accounts.machine
  cases direction with
  | playback =>
      refine accounts_withHardware (composes_accounts.hardware.bind fun hardware => ?_)
      split
      · exact accounts_pure _
      refine read.bind fun machine => ?_
      cases Stream.newPlayback machine.settings devices request with
      | error error => exact accounts_pure _
      | ok stream =>
          refine (accounts_addStream stream).bind fun new => ?_
          exact (accounts_changeHardware _).bind fun _ => accounts_pure _
  | capture =>
      unfold openStream openCapture
      dsimp only
      split
      · refine accounts_withHardware (read.bind fun machine => ?_)
        cases Stream.newCapture machine.settings devices request with
        | error error => exact accounts_pure _
        | ok stream =>
            refine (accounts_addStream stream).bind fun new => ?_
            exact (accounts_changeHardware _).bind fun _ => accounts_pure _
      · exact accounts_pure _

/-- **Generations.** What operations are made of raises the generation of a stream each time that it
puts the stream to standby, and leaves the stream out of standby otherwise. -/
theorem Made.accounts {action : Act α} (made : Made action) (id : StreamId) :
    Accounts id action := by
  induction made with
  | done answer => exact accounts_pure answer
  | reads read => exact composes_accounts.reads read
  | next _ _ first later => exact first.bind later
  | notes calm => exact accounts_note calm
  | drives effect => exact accounts_drive effect
  | changes f => exact accounts_changeHardware f
  | retouches other make status filters => exact accounts_changeStream other status
  | restates other generation awake => exact accounts_changeStatus other generation awake
  | dozes other =>
      by_cases same : id = other
      · exact same ▸ accounts_doze_self id
      · exact accounts_doze_of_ne same
  | opens direction devices request => exact accounts_openStream direction devices request
  | pulls other frames => exact accounts_readOpen other frames

end Act

/-- A stream was not put to standby since a run, and it was out of standby all the while, unless it
was put to standby as often as there are generations. -/
def Run.StaysAwake (id : StreamId) (first last : Run) : Prop :=
  ∃ moments, last.history = first.history ++ moments ∧
    (standbys id moments < 2 ^ 32 → standbys id moments = 0 ∧ AwakeAt id moments ∧
      (last.machine.stream id).isActive = true)

/-- A generation that is the same again tells that a stream was not put to standby. -/
theorem Run.Accounts.staysAwake {id : StreamId} {first last : Run} {moments : List Moment}
    (accounts : first.Accounts id moments last) (active : (first.machine.stream id).isActive = true)
    (same : (last.machine.stream id).status.generation =
      (first.machine.stream id).status.generation) : first.StaysAwake id last := by
  refine ⟨moments, accounts.history, fun few => ?_⟩
  have never : standbys id moments = 0 := by
    have values := congrArg UInt32.toNat (accounts.generation.symm.trans same)
    rw [UInt32.toNat_add, UInt32.toNat_ofNat'] at values
    have small := (first.machine.stream id).status.generation.toNat_lt
    omega
  exact ⟨never, accounts.awake never active⟩

namespace Act

open Takeover

variable {direction : Direction} {own : Option StreamId} {others : List (Act Unit)}

/-- Asking for a stream's lock leaves it in or out of standby, and in its generation. -/
theorem status_askForLock (id : StreamId) (run : Run) :
    ((askForLock id run).2.machine.stream id).status.standby =
        (run.machine.stream id).status.standby ∧
      ((askForLock id run).2.machine.stream id).status.generation =
        (run.machine.stream id).status.generation := by
  have roles := keeps_roles_askForLock id run
  have before := run.roles_stream id
  have after := (askForLock id run).2.roles_stream id
  rw [roles, before] at after
  exact ⟨(Prod.ext_iff.mp after).1.symm, (Prod.ext_iff.mp after).2.symm⟩

/-- A stream that is unchanged after a wait was not put to standby meanwhile. -/
theorem staysAwake_of_unchanged {other : Act Unit} (made : Made other) {before after : Run}
    {id : StreamId} {generation : UInt32} {guard : Unit}
    (attempted :
      Attempt (activeRole direction) (waitFor own other) before id generation guard after)
    (unchanged : Unchanged (activeRole direction) id generation after) :
    (askForLock id before).2.StaysAwake id after := by
  have asked : (before.machine.stream id).status.generation = generation := attempted.asked
  have waited : waitFor own other id (askForLock id before).2 = (guard, after) := attempted.waited
  have active := Machine.isActive_of_active attempted.occupied
  have inside : id < (askForLock id before).2.machine.streams.length := by
    refine Nat.lt_of_lt_of_eq ?_ (before.machine.length_adjust id _).symm
    exact Machine.inside_of_isActive active
  obtain ⟨moments, accounts⟩ := (made_waitFor own made id).accounts id _ inside
  rw [waited] at accounts
  obtain ⟨standby, aged⟩ := status_askForLock id before
  refine accounts.staysAwake ?_ ?_
  · exact (congrArg (!·) standby).trans active
  · exact unchanged.same.trans (asked.symm.trans aged.symm)

/-- How a takeover of the active stream of a direction ends. -/
inductive Fresh (direction : Direction) (own : Option StreamId) (others : List (Act Unit))
    (first : Run) : Option (Taken StreamId Unit) → Run → Prop
  /-- Some attempts missed. Then the stream that was active is still active in the same generation.
  If others did nothing but what operations are made of, it stayed out of standby since its lock was
  asked for. -/
  | taken {earlier later : List (StreamId → Run → Unit × Run)} {wait : StreamId → Run → Unit × Run}
      {before last : Run} {id : StreamId} {generation counted : UInt32} {guard : Unit}
      (split : (others ++ [pure ()]).map (waitFor own) = earlier ++ wait :: later)
      (missed : Missed (activeRole direction) earlier first before)
      (attempt : Attempt (activeRole direction) wait before id generation guard last)
      (unchanged : Unchanged (activeRole direction) id generation last)
      (awake : (∀ other ∈ others, Made other) → (askForLock id before).2.StaysAwake id last)
      (count : counted.toNat = earlier.length) :
      Fresh direction own others first (some ⟨id, guard, counted⟩) last
  /-- Some attempts missed, and then no stream was active. -/
  | vacant {earlier later : List (StreamId → Run → Unit × Run)}
      {wait : StreamId → Run → Unit × Run} {last : Run}
      (split : (others ++ [pure ()]).map (waitFor own) = earlier ++ wait :: later)
      (missed : Missed (activeRole direction) earlier first last)
      (empty : last.machine.active direction = none) : Fresh direction own others first none last
  /-- More attempts missed than can be counted. -/
  | overflowed {earlier later : List (StreamId → Run → Unit × Run)} {last : Run}
      (split : (others ++ [pure ()]).map (waitFor own) = earlier ++ later)
      (missed : Missed (activeRole direction) earlier first last)
      (count : earlier.length = 2 ^ 32) : Fresh direction own others first none last

/-- A takeover is fresh, whatever others do. -/
theorem fresh_takeOver (direction : Direction) (own : Option StreamId) (others : List (Act Unit))
    (run : Run) : Fresh direction own others run
      (takeOver direction own others run).1 (takeOver direction own others run).2 := by
  have settled := settled_attempt (activeRole direction)
    ((others ++ [pure ()]).map (waitFor own)) 0 run
  rw [takeOver_eq, bind_apply, attempts]
  generalize attempt (activeRole direction) ((others ++ [pure ()]).map (waitFor own)) 0 run =
    attempted at settled
  obtain ⟨outcome, last⟩ := attempted
  cases settled with
  | taken split missed attempted unchanged count =>
      refine .taken split missed attempted unchanged (fun made => ?_)
        (count.trans (Nat.zero_add _))
      obtain ⟨other, among, rfl⟩ := List.mem_map.mp (split ▸ List.mem_append_right _ (.head _))
      obtain early | idle := List.mem_append.mp among
      · exact staysAwake_of_unchanged (made other early) attempted unchanged
      · cases List.mem_singleton.mp idle
        exact staysAwake_of_unchanged (.done ()) attempted unchanged
  | overflowed split missed count =>
      exact .overflowed split missed ((Nat.zero_add _).symm.trans count)
  | vacant split missed empty => exact .vacant split missed empty
  | unsettled missed => exact absurd missed (not_missed others run last)

end Act

open Takeover in
/-- **Takeovers are never stale.** On any state, for any role and whatever the waits do to the
state, a takeover ends as `Settled` says, and of all guards that it got it holds the one that it
ends with. A takeover of the active stream of a direction ends as `Fresh` says, whatever others do
meanwhile. What operations are made of accounts for every time that a stream is put to standby; and
operations are made of it, also while others act who do nothing else. -/
theorem Takeover.neverStale :
    (∀ (σ ι γ : Type) [DecidableEq ι] [DecidableEq γ] (role : Role σ ι γ)
      (waits : List (ι → σ → γ × σ)) (first : σ), ∃ outcome last,
        attempt role waits 0 first = (outcome, last) ∧ Settled role waits 0 first outcome last ∧
        attempt role.watched (waits.map watching) 0 (first, []) =
          (outcome, last, outcome.guards)) ∧
    (∀ (direction : Direction) (own : Option StreamId) (others : List (Act Unit)) (run : Run),
      Act.Fresh direction own others run (Act.takeOver direction own others run).1
        (Act.takeOver direction own others run).2) ∧
    (∀ (α : Type) (action : Act α), Act.Made action → ∀ (run : Run) (id : StreamId),
      id < run.machine.streams.length → ∃ moments, run.Accounts id moments (action run).2) ∧
    ∀ (operation : Operation) (onOutput onInput : List (Act Unit)),
      (∀ other ∈ onOutput, Act.Made other) → (∀ other ∈ onInput, Act.Made other) →
        Act.Made (operation.performAmid onOutput onInput) := by
  refine ⟨?_, Act.fresh_takeOver, ?_, ?_⟩
  · intro σ ι γ _ _ role waits first
    refine ⟨_, _, rfl, settled_attempt role waits 0 first, ?_⟩
    rw [attempt_watched, List.append_nil]
  · intro α action made run id inside
    exact made.accounts id run inside
  · intro operation onOutput onInput madeOutput madeInput
    exact operation.made_performAmid madeOutput madeInput

/-- A playback stream that plays. -/
def Run.playing : Run :=
  (Run.stock.next (.openStream .playback ⟨2⟩ {})).next (.write 0 4)

/-- Somebody puts the stream to standby and plays on. -/
def Act.restart : Act Unit := do
  let _ ← Act.standby 0
  let _ ← Act.write 0 4

theorem Act.made_restart : Made restart :=
  (made_standby 0).next fun _ =>
    (made_writeAmid (List.forall_mem_nil _) 0 4).next fun _ => .done _

/-- A stream that restarts during the first wait is taken over after the second. The restart puts it
to standby once. -/
theorem Takeover.neverStale_restart :
    (Act.takeOver .playback none [Act.restart] Run.playing).1 = some ⟨0, (), 1⟩ ∧
    Act.Fresh .playback none [Act.restart] Run.playing (some ⟨0, (), 1⟩)
      (Act.takeOver .playback none [Act.restart] Run.playing).2 ∧
    (∃ moments, Run.playing.Accounts 0 moments (Act.restart Run.playing).2) ∧
    Act.Made ((Operation.setMode .inCall).performAmid [Act.restart] []) := by
  have taken : (Act.takeOver .playback none [Act.restart] Run.playing).1 = some ⟨0, (), 1⟩ := by
    decide +kernel
  have inside : 0 < Run.playing.machine.streams.length := by decide +kernel
  have ended := Takeover.neverStale.2.1 .playback none [Act.restart] Run.playing
  rw [taken] at ended
  refine ⟨taken, ended, ?_, ?_⟩
  · exact Takeover.neverStale.2.2.1 Unit Act.restart Act.made_restart Run.playing 0 inside
  · refine Takeover.neverStale.2.2.2 _ _ _ (fun other member => ?_) (List.forall_mem_nil _)
    rw [List.mem_singleton.mp member]
    exact Act.made_restart

end PhoneAudio
