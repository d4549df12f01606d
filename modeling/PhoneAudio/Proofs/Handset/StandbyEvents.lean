import PhoneAudio.Proofs.Handset.Progress
import PhoneAudio.Proofs.Handset.Supplies

/-!
# Events about standby

What is true when a listener is told that a stream has left or entered standby
(`PhoneAudio.Session.standbyTold`). A stream that has left standby has a PCM and holds the wake
lock. One that has entered standby has given the wake lock back, but its PCM is only closed
afterwards, unless it made way for a transfer on another stream and could not be opened again
(`PhoneAudio.Session.not_closedOnceTold`).
-/

namespace PhoneAudio

namespace Happening

/-- Whether something that happens takes the wake lock for a stream. -/
def takesWake (id : StreamId) : Happening → Bool
  | acquireWake owner _ => owner = id
  | _ => false

/-- Whether something that happens gives the wake lock of a stream back. -/
def givesWake (id : StreamId) : Happening → Bool
  | releaseWake owner _ => owner = id
  | _ => false

end Happening

namespace Moment

/-- How often the wake lock was taken for a stream. -/
def taken (history : List Moment) (id : StreamId) : Nat :=
  (history.map what).countP (Happening.takesWake id)

/-- How often the wake lock of a stream was given back. -/
def given (history : List Moment) (id : StreamId) : Nat :=
  (history.map what).countP (Happening.givesWake id)

/-- What events about standby tell, after what happened earlier in an operation or before it. -/
structure Truthful (operation : Operation) (earlier : List Moment) (moment : Moment) : Prop where
  exited : ∀ owner direction, moment.what = .event owner (.standbyExited direction) →
    ∃ id, owner = some id ∧ (moment.before.stream id).direction = direction ∧
      (moment.before.stream id).pcm.isSome = true ∧
      (moment.before.drivers.hasWakeLock = true → taken earlier id = given earlier id + 1)
  entered : ∀ owner direction, moment.what = .event owner (.standbyEntered direction) →
    ∃ id, owner = some id ∧ (moment.before.stream id).direction = direction ∧
      ((moment.before.stream id).pcm = none ↔ operation.Displaces id) ∧
      (moment.before.drivers.hasWakeLock = true → taken earlier id = given earlier id)

variable {operation : Operation} {first history last : List Moment} {moment : Moment}

/-- What is discreet tells nothing about standby. -/
theorem truthful_of_discreet (discreet : moment.what.isDiscreet = true) :
    moment.Truthful operation history := by
  constructor <;> intro owner direction what <;> rw [what] at discreet <;> cases discreet

/-- One more moment takes the wake lock once more, if it does. -/
theorem taken_concat (history : List Moment) (moment : Moment) (id : StreamId) :
    taken (history ++ [moment]) id =
      taken history id + if moment.what.takesWake id then 1 else 0 := by
  simp only [taken, List.map_append, List.map_cons, List.map_nil, List.countP_append,
    List.countP_singleton]

/-- One more moment gives the wake lock back once more, if it does. -/
theorem given_concat (history : List Moment) (moment : Moment) (id : StreamId) :
    given (history ++ [moment]) id =
      given history id + if moment.what.givesWake id then 1 else 0 := by
  simp only [given, List.map_append, List.map_cons, List.map_nil, List.countP_append,
    List.countP_singleton]

/-- A history that is extended by entries that are truthful after what is ahead of them. -/
abbrev Told (operation : Operation) : List Moment → List Moment → Prop :=
  Relation.ReflTransGen fun earlier later =>
    ∃ moment : Moment, moment.Truthful operation earlier ∧ later = earlier ++ [moment]

theorem told_of_discreet {more : List Moment}
    (discreet : ∀ moment ∈ more, moment.what.isDiscreet = true) :
    Told operation history (history ++ more) := by
  induction more generalizing history with
  | nil => rw [List.append_nil]
  | cons moment rest ih =>
      have truthful := discreet moment List.mem_cons_self
      rw [List.append_cons]
      refine .head ⟨moment, truthful_of_discreet truthful, rfl⟩ (ih fun later member => ?_)
      exact discreet later (List.mem_cons_of_mem _ member)

/-- Every entry that a history was extended by is truthful. -/
theorem Told.truthful (told : Told operation first last) {earlier later : List Moment}
    (split : last = earlier ++ moment :: later) (since : first.length ≤ earlier.length) :
    moment.Truthful operation earlier := by
  induction told generalizing later with
  | refl =>
      have lengths := congrArg List.length split
      rw [List.length_append, List.length_cons] at lengths
      omega
  | tail _ step ih =>
      obtain ⟨newest, truthful, extended⟩ := step
      rw [extended] at split
      rcases List.eq_nil_or_concat later with rfl | ⟨rest, final, rfl⟩
      · obtain ⟨rfl, same⟩ := List.append_inj' split rfl
        cases same
        exact truthful
      · have regrouped : earlier ++ moment :: rest.concat final =
            (earlier ++ moment :: rest) ++ [final] := by simp
        rw [regrouped] at split
        exact ih (List.append_inj' split rfl).1

end Moment

namespace Run

variable {operation : Operation} {run after : Run} {held : StreamId → Bool} {id : StreamId}

/-- The wake lock, if there is one, was taken once more than given back for some streams, and as
often for all others. -/
def Holds (held : StreamId → Bool) (run : Run) : Prop :=
  run.machine.drivers.hasWakeLock = true →
    ∀ id, Moment.taken run.history id = Moment.given run.history id + (held id).toNat

theorem Holds.congr (holds : run.Holds held) {owned : StreamId → Bool}
    (same : ∀ id, owned id = held id) : run.Holds owned := by
  rwa [funext same]

/-- Whether there is a wake lock is one of the supplies. -/
theorem hasWakeLock_of_supplies (same : after.machine.supplies = run.machine.supplies) :
    after.machine.drivers.hasWakeLock = run.machine.drivers.hasWakeLock :=
  congrArg Prod.fst same

/-- What is discreet does not change who holds the wake lock. -/
theorem Holds.stays (holds : run.Holds held)
    (stays : run.Stays Machine.hasWakeLock Happening.isDiscreet after) : after.Holds held := by
  intro present id
  have kept : after.machine.drivers.hasWakeLock = run.machine.drivers.hasWakeLock := stays.kept
  rw [kept] at present
  have takes : ∀ what : Happening, what.isDiscreet = true → what.takesWake id = false := by
    intro what discreet
    cases what <;> first | rfl | cases discreet
  have gives : ∀ what : Happening, what.isDiscreet = true → what.givesWake id = false := by
    intro what discreet
    cases what <;> first | rfl | cases discreet
  have taken := congrArg List.length (stays.happened takes)
  have given := congrArg List.length (stays.happened gives)
  rw [← List.countP_eq_length_filter, ← List.countP_eq_length_filter] at taken given
  exact taken.trans ((holds present id).trans (congrArg (· + _) given.symm))

end Run

namespace Act

variable {operation : Operation}

/-- Calling the wake lock is one entry of the history, if there is one. -/
theorem history_callWakeLock (what : Happening) (wakeCall : Bench.WakeCall) {run : Run}
    (present : run.machine.drivers.hasWakeLock = true) :
    (callWakeLock what wakeCall run).2.history = run.history ++ [⟨what, run.machine⟩] := by
  unfold callWakeLock
  rw [bind_apply, machine_apply]
  dsimp only
  rw [if_pos present]
  rfl

/-- A call to the wake lock tells nothing about standby. -/
theorem told_callWakeLock {what : Happening} (wakeCall : Bench.WakeCall) (run : Run)
    (apart : ∀ owner event, what ≠ .event owner event) :
    Moment.Told operation run.history (callWakeLock what wakeCall run).2.history := by
  by_cases present : run.machine.drivers.hasWakeLock = true
  · rw [history_callWakeLock what wakeCall present]
    refine .single ⟨_, ⟨?_, ?_⟩, rfl⟩
    · exact fun owner direction told => absurd told (apart owner _)
    · exact fun owner direction told => absurd told (apart owner _)
  · unfold callWakeLock
    rw [bind_apply, machine_apply]
    dsimp only
    rw [if_neg present]
    exact .refl

theorem told_acquireWake (id : StreamId) (run : Run) :
    Moment.Told operation run.history (acquireWake id run).2.history := by
  refine told_callWakeLock _ run ?_
  exact fun _ _ => nofun

theorem told_releaseWake (id : StreamId) (run : Run) :
    Moment.Told operation run.history (releaseWake id run).2.history := by
  refine told_callWakeLock _ run ?_
  exact fun _ _ => nofun

/-- Telling is one entry of the history, if there is a listener. -/
theorem history_tell (owner : Option StreamId) (event : Event) (run : Run) :
    (tell owner event run).2.history = run.history ∨
      (tell owner event run).2.history = run.history ++ [⟨.event owner event, run.machine⟩] := by
  unfold tell
  rw [bind_apply, machine_apply]
  dsimp only
  split
  · exact .inr rfl
  · exact .inl rfl

/-- An event that is truthful is told truthfully. -/
theorem told_tell {owner : Option StreamId} {event : Event} {run : Run}
    (truthful : Moment.Truthful operation run.history ⟨.event owner event, run.machine⟩) :
    Moment.Told operation run.history (tell owner event run).2.history := by
  rcases history_tell owner event run with same | told
  · rw [same]
  · rw [told]
    exact .single ⟨_, truthful, rfl⟩

end Act

namespace Run

variable {operation : Operation} {run after between : Run} {held : StreamId → Bool} {id : StreamId}

/-- A call of the wake lock keeps the balance when it makes up for a change of who holds it. -/
theorem Holds.called (holds : run.Holds held) {owned : StreamId → Bool} (what : Happening)
    (wakeCall : Bench.WakeCall)
    (balanced : ∀ id, (held id).toNat + (if what.takesWake id then 1 else 0) =
      (owned id).toNat + if what.givesWake id then 1 else 0) :
    (Act.callWakeLock what wakeCall run).2.Holds owned := by
  intro present id
  rw [hasWakeLock_of_supplies (Act.sparing_callWakeLock what wakeCall run).kept] at present
  have balance := holds present id
  have change := balanced id
  rw [Act.history_callWakeLock what wakeCall present, Moment.taken_concat, Moment.given_concat]
  dsimp only
  omega

/-- A stream that acquires the wake lock holds it. -/
theorem Holds.acquired (holds : run.Holds held) (free : held id = false) :
    (Act.acquireWake id run).2.Holds (Function.update held id true) := by
  refine holds.called _ _ fun other => ?_
  by_cases same : other = id
  · subst same
    simp [Happening.takesWake, Happening.givesWake, free]
  · simp [Happening.takesWake, Happening.givesWake, same, Ne.symm same]

/-- A stream that releases the wake lock does not hold it. -/
theorem Holds.released (holds : run.Holds held) (owned : held id = true) :
    (Act.releaseWake id run).2.Holds (Function.update held id false) := by
  refine holds.called _ _ fun other => ?_
  by_cases same : other = id
  · subst same
    simp [Happening.takesWake, Happening.givesWake, owned]
  · simp [Happening.takesWake, Happening.givesWake, same, Ne.symm same]

/-- Telling an event leaves who holds the wake lock. -/
theorem Holds.told (holds : run.Holds held) (owner : Option StreamId) (event : Event) :
    (Act.tell owner event run).2.Holds held := by
  intro present id
  rw [hasWakeLock_of_supplies (Act.sparing_tell owner event run).kept] at present
  have balance := holds present id
  obtain same | grown := Act.history_tell owner event run
  · rw [same]
    exact balance
  · rw [grown, Moment.taken_concat, Moment.given_concat]
    exact balance

/-- The wake lock is held for the streams that are out of standby, and for one in standby that is
being roused. -/
structure Settled (rousing : Option StreamId) (run : Run) : Prop where
  holds : run.Holds fun id => (run.machine.tie id).2 || rousing = some id
  asleep : ∀ id, rousing = some id → (run.machine.tie id).2 = false

variable {rousing : Option StreamId}

/-- What is discreet and leaves the standby flags keeps the streams settled. -/
theorem Settled.stays (settled : run.Settled rousing)
    (stays : run.Stays Machine.hasWakeLock Happening.isDiscreet after)
    (flags : ∀ id, (after.machine.tie id).2 = (run.machine.tie id).2) :
    Moment.Told operation run.history after.history ∧ after.Settled rousing := by
  obtain ⟨more, history, discreet⟩ := stays.moments
  refine ⟨?_, ?_, ?_⟩
  · rw [history]
    exact Moment.told_of_discreet fun moment member => (discreet moment member).2
  · simp only [flags]
    exact settled.holds.stays stays
  · simp only [flags]
    exact settled.asleep

/-- A stream that is put to standby gives the wake lock back, before anything is told. -/
theorem exists_drowsy (active : (run.machine.tie id).2 = true) : ∃ drowsy : Run,
    run.Stays Machine.hasWakeLock Happening.isDiscreet drowsy ∧
      drowsy.machine.ties = run.machine.ties.modify id (fun tie => (tie.1, false)) ∧
      (Act.doze id run).2 = (Act.tell (some id)
        (.standbyEntered ((Act.releaseWake id drowsy).2.machine.stream id).direction)
        (Act.releaseWake id drowsy).2).2 := by
  have change : ∀ (f : StreamStatus → StreamStatus) (run : Run),
      run.Stays Machine.hasWakeLock Happening.isDiscreet (Act.changeStatus id f run).2 :=
    fun f run => (Act.discreet_changeStream id _ run).map Prod.fst
  have aged : run.Stays Machine.hasWakeLock Happening.isDiscreet (Act.age id run).2 :=
    (Act.discreet_age id run).map Prod.fst
  have same : (Act.age id run).2.machine.ties = run.machine.ties := Act.keeps_ties_age id run
  have awake : ((Act.age id run).2.machine.stream id).isActive = true :=
    (congrArg Prod.snd (Machine.tie_of_ties same id)).trans active
  refine ⟨(Act.changeStatus id (fun status => { status with standby := true })
    (Act.age id run).2).2, aged.trans (change _ _), ?_, ?_⟩
  · rw [← same]
    exact (Act.age id run).2.machine.ties_adjust id fun _ => rfl
  · unfold Act.doze
    rw [Act.bind_apply, Act.bind_apply, Act.stream_apply]
    dsimp only
    rw [if_pos awake]
    rfl

/-- A stream in standby that is put to standby only grows older. -/
theorem doze_of_asleep (asleep : (run.machine.tie id).2 = false) :
    (Act.doze id run).2 = (Act.age id run).2 := by
  have still : ((Act.age id run).2.machine.stream id).isActive = false :=
    (congrArg Prod.snd (Machine.tie_of_ties (Act.keeps_ties_age id run) id)).trans asleep
  unfold Act.doze
  rw [Act.bind_apply, Act.bind_apply, Act.stream_apply]
  dsimp only
  rw [if_neg (ne_true_of_eq_false still)]
  rfl

/-- Afterwards a stream that is put to standby is in standby, and no other stream has changed. -/
theorem active_doze (inside : id < run.machine.ties.length) (other : StreamId) :
    ((Act.doze id run).2.machine.tie other).2 =
      if other = id then false else (run.machine.tie other).2 := by
  have slept := Act.ties_doze id run
  by_cases same : other = id
  · rw [same, Machine.tie_modify slept inside, if_pos rfl]
  · rw [Machine.tie_modify_of_ne slept same, if_neg same]

/-- **Entering standby.** A stream that is told to have entered standby has given the wake lock
back, and has the PCM that it had before. -/
theorem Settled.dozed_active (settled : run.Settled rousing)
    (active : (run.machine.tie id).2 = true)
    (displaced : (run.machine.tie id).1 = none ↔ operation.Displaces id) :
    Moment.Told operation run.history (Act.doze id run).2.history ∧
      (Act.doze id run).2.Settled rousing := by
  have inside := Machine.inside_of_tie active
  have flags := active_doze inside
  have apart : rousing ≠ some id := by
    intro own
    rw [settled.asleep id own] at active
    cases active
  obtain ⟨drowsy, discreet, faded, ended⟩ := exists_drowsy active
  obtain ⟨more, history, before⟩ := discreet.moments
  have quiet : Moment.Told operation run.history drowsy.history := by
    rw [history]
    exact Moment.told_of_discreet fun moment member => (before moment member).2
  have returned : Moment.Told operation drowsy.history (Act.releaseWake id drowsy).2.history :=
    Act.told_releaseWake id drowsy
  have owned : ((run.machine.tie id).2 || rousing = some id) = true := by simp [active]
  have holds := (settled.holds.stays discreet).released owned
  have kept : (Act.releaseWake id drowsy).2.machine.ties = drowsy.machine.ties :=
    Act.keeps_ties_callWakeLock _ _ drowsy
  have pcm : ((Act.releaseWake id drowsy).2.machine.stream id).pcm = (run.machine.tie id).1 :=
    congrArg Prod.fst ((Machine.tie_of_ties kept id).trans (Machine.tie_modify faded inside))
  rw [ended] at flags ⊢
  refine ⟨quiet.trans (returned.trans (Act.told_tell ⟨nofun, ?_⟩)), ?_, ?_⟩
  · rintro _ _ ⟨⟩
    refine ⟨id, rfl, rfl, ?_, fun present => ?_⟩
    · rw [pcm]
      exact displaced
    · have balance := holds present id
      rwa [Function.update_self] at balance
  · refine (holds.told _ _).congr fun other => ?_
    by_cases same : other = id
    · subst same
      simp [flags, apart]
    · simp [flags, same]
  · intro other own
    simp [flags, settled.asleep other own]

/-- A stream that is in standby already is told nothing when it is put to standby. -/
theorem Settled.dozed (settled : run.Settled rousing) (displaced : (run.machine.tie id).2 = true →
      ((run.machine.tie id).1 = none ↔ operation.Displaces id)) :
    Moment.Told operation run.history (Act.doze id run).2.history ∧
      (Act.doze id run).2.Settled rousing := by
  by_cases active : (run.machine.tie id).2 = true
  · exact settled.dozed_active active (displaced active)
  · rw [doze_of_asleep (Bool.eq_false_of_not_eq_true active)]
    refine settled.stays ((Act.discreet_age id run).map Prod.fst) fun other => ?_
    exact congrArg Prod.snd (Machine.tie_of_ties (Act.keeps_ties_age id run) other)

/-- A deed tells the truth about standby, and leaves who holds the wake lock settled. -/
theorem Deed.told (deed : run.Deed operation after) (settled : run.Settled rousing) :
    Moment.Told operation run.history after.history ∧ after.Settled rousing := by
  rcases deed.discreet with ⟨discreet, flags⟩ | ⟨id, rfl, displaced⟩
  · exact settled.stays (discreet.map Prod.fst) flags
  · exact settled.dozed displaced

/-- So do deeds. -/
theorem Deeds.told (deeds : run.Deeds operation after) (settled : run.Settled rousing) :
    Moment.Told operation run.history after.history ∧ after.Settled rousing := by
  induction deeds with
  | refl => exact ⟨.refl, settled⟩
  | tail _ deed ih =>
      obtain ⟨told, between⟩ := ih
      obtain ⟨more, ended⟩ := deed.told between
      exact ⟨told.trans more, ended⟩

/-- A stream in standby that takes the wake lock is being roused. -/
theorem Settled.acquired (settled : run.Settled none) (asleep : (run.machine.tie id).2 = false) :
    (Act.acquireWake id run).2.Settled (some id) := by
  have same : (Act.acquireWake id run).2.machine.ties = run.machine.ties :=
    Act.keeps_ties_callWakeLock _ _ run
  have flags := Machine.tie_of_ties same
  have free : ((run.machine.tie id).2 || (none : Option StreamId) = some id) = false := by
    simp [asleep]
  refine ⟨(settled.holds.acquired free).congr fun other => ?_, fun other own => ?_⟩
  · by_cases same : other = id
    · simp [same]
    · simp [flags, same, Ne.symm same]
  · rw [flags, ← Option.some_inj.mp own]
    exact asleep

/-- A stream that was not roused gives the wake lock back. -/
theorem Settled.refused (settled : between.Settled (some id)) (operation : Operation)
    (error : AudioError) :
    Moment.Told operation between.history
        (Act.settleWaking id (.error error) between).2.history ∧
      (Act.settleWaking id (.error error) between).2.Settled none := by
  have same : (Act.releaseWake id between).2.machine.ties = between.machine.ties :=
    Act.keeps_ties_callWakeLock _ _ between
  have flags := Machine.tie_of_ties same
  have owned : ((between.machine.tie id).2 || some id = some id) = true := by simp
  have holds := settled.holds.released owned
  have ended : (Act.settleWaking id (.error error) between).2 = (Act.releaseWake id between).2 :=
    rfl
  rw [ended]
  refine ⟨Act.told_releaseWake id between, holds.congr fun other => ?_, nofun⟩
  by_cases same : other = id
  · simp [flags, same, settled.asleep id rfl]
  · simp [flags, same, Ne.symm same]

/-- A stream that was roused is out of standby before anything is told. -/
theorem exists_woken (id : StreamId) (between : Run) : ∃ woken : Run,
    between.Stays Machine.hasWakeLock Happening.isDiscreet woken ∧
      woken.machine.ties = between.machine.ties.modify id (fun tie => (tie.1, true)) ∧
      (Act.settleWaking id (.ok ()) between).2 =
        (Act.tell (some id) (.standbyExited (woken.machine.stream id).direction) woken).2 :=
  ⟨(Act.changeStatus id (fun status => { status with standby := false }) between).2,
    (Act.discreet_changeStream id _ between).map Prod.fst,
    between.machine.ties_adjust id fun _ => rfl, rfl⟩

/-- **Leaving standby.** A stream that is told to have left standby has a PCM, and took the wake
lock once more than it gave it back. -/
theorem Settled.roused (settled : between.Settled (some id)) (operation : Operation)
    (opened : (between.machine.tie id).1.isSome = true) :
    Moment.Told operation between.history (Act.settleWaking id (.ok ()) between).2.history ∧
      (Act.settleWaking id (.ok ()) between).2.Settled none := by
  have inside : id < between.machine.ties.length := by
    refine Nat.lt_of_not_le fun outside => ?_
    rw [Machine.tie_eq, List.getD_eq_default _ _ outside] at opened
    cases opened
  obtain ⟨woken, stays, fitted, ended⟩ := exists_woken id between
  obtain ⟨more, history, before⟩ := stays.moments
  have quiet : Moment.Told operation between.history woken.history := by
    rw [history]
    exact Moment.told_of_discreet fun moment member => (before moment member).2
  have holds := settled.holds.stays stays
  have own := Machine.tie_modify fitted inside
  have same : (Act.tell (some id) (.standbyExited (woken.machine.stream id).direction)
      woken).2.machine.ties = woken.machine.ties := Act.keeps_ties_tell _ _ woken
  have flags := Machine.tie_of_ties same
  rw [ended]
  refine ⟨quiet.trans (Act.told_tell ⟨?_, nofun⟩), (holds.told _ _).congr fun other => ?_, nofun⟩
  · rintro _ _ ⟨⟩
    refine ⟨id, rfl, rfl, ?_, fun present => ?_⟩
    · exact (congrArg (fun tie => tie.1.isSome) own).trans opened
    · simpa using holds present id
  · by_cases same : other = id
    · simp [flags, same, own]
    · simp [flags, Ne.symm same, Machine.tie_modify_of_ne fitted same]

/-- **Tasks** tell the truth about standby. -/
theorem Task.told (task : run.Task operation after) (settled : run.Settled none) :
    Moment.Told operation run.history after.history ∧ after.Settled none := by
  cases task with
  | deed deed => exact deed.told settled
  | @roused id between own asleep deeds opened =>
      obtain ⟨told, awaiting⟩ := Deeds.told deeds (settled.acquired asleep)
      obtain ⟨more, ended⟩ := awaiting.roused operation opened
      exact ⟨(Act.told_acquireWake id run).trans (told.trans more), ended⟩
  | @refused id between error own asleep deeds =>
      obtain ⟨told, awaiting⟩ := Deeds.told deeds (settled.acquired asleep)
      obtain ⟨more, ended⟩ := awaiting.refused operation error
      exact ⟨(Act.told_acquireWake id run).trans (told.trans more), ended⟩
  | @wrote id bytes own =>
      have same := Machine.tie_of_ties (Act.keeps_ties_writeOpen id bytes run)
      exact settled.stays ((Act.discreet_writeOpen id bytes run).map Prod.fst)
        fun other => congrArg Prod.snd (same other)
  | @heard id buffer own frames =>
      have same := Machine.tie_of_ties (Act.keeps_ties_readOpen id frames run)
      exact settled.stays (Act.stays_readOpen id frames run) fun other =>
        congrArg Prod.snd (same other)

/-- So do tasks. -/
theorem Tasks.told (tasks : run.Tasks operation after) (settled : run.Settled none) :
    Moment.Told operation run.history after.history ∧ after.Settled none := by
  induction tasks with
  | refl => exact ⟨.refl, settled⟩
  | tail _ task ih =>
      obtain ⟨told, between⟩ := ih
      obtain ⟨more, ended⟩ := task.told between
      exact ⟨told.trans more, ended⟩

/-- Building neither opens streams nor calls the wake lock. -/
theorem Built.settled (built : run.Built) : run.Settled none := by
  obtain ⟨settings, tables, shown⟩ := built.shows_vacant
  have streams : run.machine.streams = [] :=
    List.map_eq_nil_iff.mp (congrArg Machine.streams shown.core_eq)
  have none : ∀ sort : Happening → Bool, (∀ what, what.isMixerCall = true → sort what = false) →
      (run.history.map Moment.what).countP sort = 0 := by
    intro sort apart
    refine List.countP_eq_zero.mpr fun what member => ?_
    obtain ⟨moment, there, rfl⟩ := List.mem_map.mp member
    exact ne_true_of_eq_false (apart _ (built.bare.mixer moment there))
  refine ⟨fun _ id => ?_, nofun⟩
  have taken : Moment.taken run.history id = 0 :=
    none _ fun what call => by cases what <;> first | rfl | cases call
  have given : Moment.given run.history id = 0 :=
    none _ fun what call => by cases what <;> first | rfl | cases call
  have asleep : (run.machine.tie id).2 = false := by
    rw [Machine.tie_eq, Machine.ties, streams]
    rfl
  simp [taken, given, asleep]

end Run

namespace Session

variable {first last : Run} {operations : List Operation}

/-- After a session, it is settled who holds the wake lock. -/
theorem settled (built : first.Built) (session : Session first operations last) :
    last.Settled none := by
  induction session with
  | start => exact built.settled
  | step earlier conditions possible ih =>
      rename_i run operation
      have under : (run.under conditions).Settled none := ⟨ih.holds, ih.asleep⟩
      exact (Run.Tasks.told (earlier.tasks built conditions possible) under).2

/-- **Events about standby.** Whatever the drivers do, a stream that is told to have left standby
has a PCM and holds the wake lock. A stream that is told to have entered standby has given the wake
lock back, and its PCM is closed exactly when the operation is a transfer on another stream. -/
theorem standbyTold (built : first.Built) (session : Session first operations last)
    (conditions : Conditions) {operation : Operation} (possible : operation.Possible last.machine)
    {earlier later : List Moment} {moment : Moment}
    (split : (operation.perform (last.under conditions)).2.history = earlier ++ moment :: later)
    (since : last.history.length ≤ earlier.length) : moment.Truthful operation earlier := by
  have settled := session.settled built
  have under : (last.under conditions).Settled none := ⟨settled.holds, settled.asleep⟩
  obtain ⟨told, -⟩ := Run.Tasks.told (session.tasks built conditions possible) under
  exact Moment.Told.truthful told split since

end Session

/-- Playback beside a capture stream that was not read from yet. -/
def Run.aboutToCapture : Run :=
  ((Run.stock.next (.openStream .playback ⟨2⟩ {})).next (.write 0 4)).next
    (.openStream .capture ⟨0x40000⟩ {})

/-- A stream that plays is about to make way for one that captures. -/
theorem Session.aboutToCapture :
    Session Run.stock [.openStream .playback ⟨2⟩ {}, .write 0 4,
      .openStream .capture ⟨0x40000⟩ {}] Run.aboutToCapture :=
  ((Session.start.next (.openStream .playback ⟨2⟩ {}) (by decide +kernel)).next (.write 0 4)
    (by decide +kernel)).next (.openStream .capture ⟨0x40000⟩ {}) (by decide +kernel)

/-- The capture stream was read from, and the playback stream could not be opened again. -/
def Run.madeWay : Run :=
  ((Operation.read 1 [0, 0, 0, 0]).perform
    (Run.aboutToCapture.under { openScript := [.fails .notReady] })).2

/-- The PCM of the playback stream is closed when it is told to have entered standby. -/
theorem Session.standbyTold_madeWay : ∃ earlier moment later,
    Run.madeWay.history = earlier ++ moment :: later ∧
    Run.aboutToCapture.history.length ≤ earlier.length ∧
    moment.what = .event (some 0) (.standbyEntered .playback) ∧
    (moment.before.stream 0).pcm = none ∧ moment.Truthful (.read 1 [0, 0, 0, 0]) earlier := by
  have truthful : ∀ {earlier later : List Moment} {moment : Moment},
      Run.madeWay.history = earlier ++ moment :: later →
      Run.aboutToCapture.history.length ≤ earlier.length →
      moment.Truthful (.read 1 [0, 0, 0, 0]) earlier := by
    unfold Run.madeWay
    exact Session.standbyTold Run.built_stock Session.aboutToCapture _ (by decide +kernel)
  obtain ⟨moment, member, what, closed⟩ :
      ∃ moment ∈ Run.madeWay.history.drop Run.aboutToCapture.history.length,
        moment.what = .event (some 0) (.standbyEntered .playback) ∧
          (moment.before.stream 0).pcm = none := by decide +kernel
  obtain ⟨earlier, later, found⟩ := List.append_of_mem member
  have split : Run.madeWay.history =
      (Run.madeWay.history.take Run.aboutToCapture.history.length ++ earlier) ++
        moment :: later := by
    rw [List.append_assoc, ← found, List.take_append_drop]
  have long : Run.aboutToCapture.history.length ≤ Run.madeWay.history.length := by decide +kernel
  have since : Run.aboutToCapture.history.length ≤
      (Run.madeWay.history.take Run.aboutToCapture.history.length ++ earlier).length := by
    rw [List.length_append, List.length_take_of_le long]
    exact Nat.le_add_right _ _
  exact ⟨_, moment, later, split, since, what, closed, truthful split since⟩

/-- A stream that is put to standby still has its PCM when it is told to have entered standby. -/
theorem Session.not_closedOnceTold : ¬ ∀ (first last : Run) (operations : List Operation),
    first.Built → Session first operations last → ∀ moment ∈ last.history, ∀ id direction,
      moment.what = .event (some id) (.standbyEntered direction) →
      (moment.before.stream id).pcm = none := by
  intro closed
  have session := Session.aboutToCapture.next (.standby 0) (by decide +kernel)
  have playback : ∀ moment ∈ (Run.aboutToCapture.next (.standby 0)).history,
      moment.what = .event (some 0) (.standbyEntered .playback) →
      (moment.before.stream 0).pcm = none :=
    fun moment member => closed _ _ _ Run.built_stock session moment member 0 .playback
  exact absurd playback (by decide +kernel)

end PhoneAudio
