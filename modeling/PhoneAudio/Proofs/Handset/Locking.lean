import PhoneAudio.Handset.Waking
import PhoneAudio.Proofs.Handset.Takeover
import PhoneAudio.Proofs.Machine.Locks

/-!
# Locking streams

How the locks are held while streams are opened, closed, put to standby, taken over and waked. A
takeover gives the lock of the audio hardware back while it waits, and a capture stream gives its
own lock back too, so that the lock of the playback stream is never waited for under another
(`PhoneAudio.Act.abides_takeOver_behind`, `PhoneAudio.Act.abides_takeOver_own`).
-/

namespace PhoneAudio

namespace Act

variable {α : Type} {kept : Run → Prop} {origin : Run} {held : List Lock}
  {known : List (StreamId × Direction)} {id : StreamId}

/-- What an action keeps as a whole it need not keep at every step. -/
theorem Leads.keeping {action : Act α} {post : α → List Lock × List (StreamId × Direction) → Prop}
    (leads : Leads (Run.Abides (fun _ => True) origin) action (held, known) post)
    (stays : ∀ run, kept run → kept (action run).2) :
    Leads (Run.Abides kept origin) action (held, known) post := by
  intro run abides
  obtain ⟨seen, shown, described⟩ :=
    leads run ⟨abides.course, abides.staffed, abides.known, trivial⟩
  exact ⟨seen, ⟨shown.course, shown.staffed, shown.known, stays run abides.holds⟩, described⟩

section Upheld

variable (upheld : Upheld kept)
include upheld

theorem abides_changeStatus (id : StreamId) (f : StreamStatus → StreamStatus) :
    Leads (Run.Abides kept origin) (changeStatus id f) (held, known) fun _ after =>
      after = (held, known) := by
  have stays := upheld.changed (f := fun stream => { stream with status := f stream.status }) id
    fun _ => ⟨rfl, rfl, rfl, .inl rfl⟩
  exact abides_changeStream id stays fun _ => rfl

theorem abides_followDevices (guarded : .hardware ∈ held) (devices : Devices) :
    Leads (Run.Abides kept origin) (followDevices devices) (held, known) fun _ after =>
      after = (held, known) := by
  refine abides_hardware.then fun hardware => ?_
  split
  · exact (abides_reroute upheld guarded _).then fun _ => abides_reroute upheld guarded _
  · exact leads_pure _ rfl

section Guarded

variable (guarded : .hardware ∈ held) (own : .stream id ∈ held)
include guarded own

/-- The PCM of a stream is closed with any locks held. -/
theorem abides_closeStreamPcm :
    Leads (Run.Abides kept origin) (closeStreamPcm id) (held, known) fun _ after =>
      after = (held, known) := by
  refine (abides_stream id).read fun stream _ => ?_
  cases stream.pcm with
  | none => exact leads_pure _ rfl
  | some pcm =>
      have stays := upheld.changed (f := fun stream => { stream with pcm := none }) id
        fun _ => ⟨rfl, rfl, rfl, .inr rfl⟩
      refine (abides_changeStream id stays ?_).then fun _ => ?_
      · exact fun _ => rfl
      · exact abides_call upheld (.closePcm (.stream id) _) (upheld.note rfl)
          (fun _ _ => ⟨guarded, own⟩) rfl _ _ _

theorem abides_closeLocked :
    Leads (Run.Abides kept origin) (closeLocked id) (held, known) fun _ after =>
      after = (held, known) := by
  refine (abides_stream id).read fun stream _ => ?_
  dsimp only
  split
  · exact (abides_reroute upheld guarded _).then fun _ => abides_closeStreamPcm upheld guarded own
  · exact abides_closeStreamPcm upheld guarded own

theorem abides_age :
    Leads (Run.Abides kept origin) (age id) (held, known) fun _ after => after = (held, known) := by
  have noted : Leads (Run.Abides kept origin) (note (.standby id)) (held, known)
      fun _ after => after = (held, known) :=
    abides_note (upheld.note rfl) fun _ _ => ⟨guarded, own⟩
  exact noted.then fun _ => abides_changeStatus upheld id _

/-- A stream is put to standby with any locks held. -/
theorem abides_standbyLocked :
    Leads (Run.Abides kept origin) (standbyLocked id) (held, known) fun _ after =>
      after = (held, known) := by
  refine (abides_age upheld guarded own).then fun _ => (abides_stream id).read fun stream _ => ?_
  dsimp only
  split
  · refine (abides_changeStatus upheld id _).then fun _ => ?_
    refine (abides_releaseWake upheld guarded own).then fun _ => ?_
    refine (abides_stream id).read fun stream _ => ?_
    exact (abides_tell upheld (some id) (.standbyEntered _) fun _ => trivial).then fun _ =>
      abides_closeLocked upheld guarded own
  · exact abides_closeLocked upheld guarded own

end Guarded

end Upheld

section Opening

variable (guarded : .hardware ∈ held) (own : .stream id ∈ held)
include guarded own

theorem abides_installPcm (pcm : OpenPcm) :
    Leads (Run.Abides (fun _ => True) origin) (installPcm id pcm) (held, known) fun _ after =>
      after = (held, known) := by
  refine (abides_stream id).read fun stream _ => ?_
  refine (abides_changeStream id ?_ ?_).then fun _ => ?_
  · exact fun _ _ => trivial
  · exact fun _ => rfl
  cases stream.pcm with
  | none => exact leads_pure _ rfl
  | some previous =>
      exact abides_bareCall upheld_true (.closePcm (.stream id) _) (fun _ _ => trivial)
        (fun _ _ => ⟨guarded, own⟩) rfl _

omit own in
theorem abides_routeOpened (id : StreamId) :
    Leads (Run.Abides (fun _ => True) origin) (routeOpened id) (held, known) fun _ after =>
      after = (held, known) := by
  refine (abides_stream id).read fun stream _ => ?_
  split
  · refine abides_hardware.then fun hardware => ?_
    split
    · exact abides_reroute upheld_true guarded _
    · exact leads_pure _ rfl
  · refine (abides_changeStream id ?_ ?_).then fun _ => abides_reroute upheld_true guarded _
    · exact fun _ _ => trivial
    · exact fun _ => rfl

/-- A stream is opened with any locks held. -/
theorem abides_openLocked (upheld : Upheld kept) :
    Leads (Run.Abides kept origin) (openLocked id) (held, known) fun _ after =>
      after = (held, known) := by
  refine Leads.keeping ?_ (upheld.opened id)
  refine abides_machine.read fun machine _ => (abides_stream id).read fun stream _ => ?_
  refine (abides_call upheld_true (.openPcm (.stream id) _) (fun _ _ => trivial)
    (fun _ _ => ⟨guarded, own⟩) rfl _ _ _).then fun opened => ?_
  cases opened with
  | error error => exact leads_pure _ rfl
  | ok pcm =>
      dsimp only
      split
      · refine (abides_installPcm guarded own pcm).then fun _ => ?_
        exact (abides_routeOpened guarded id).then fun _ => leads_pure _ rfl
      · exact (abides_call upheld_true (.closePcm (.stream id) _) (fun _ _ => trivial)
          (fun _ _ => ⟨guarded, own⟩) rfl _ _ _).then fun _ => leads_pure _ rfl

theorem abides_reopenOrStandby (upheld : Upheld kept) :
    Leads (Run.Abides kept origin) (reopenOrStandby id) (held, known) fun _ after =>
      after = (held, known) := by
  refine (abides_openLocked guarded own upheld).then fun opened => ?_
  cases opened with
  | error error => exact abides_standbyLocked upheld guarded own
  | ok => exact leads_pure _ rfl

theorem abides_settleWaking (upheld : Upheld kept) (opened : Except AudioError Unit) :
    Leads (Run.Abides kept origin) (settleWaking id opened) (held, known) fun _ after =>
      after = (held, known) := by
  cases opened with
  | error error =>
      exact (abides_releaseWake upheld guarded own).then fun _ => leads_pure _ rfl
  | ok =>
      refine (abides_changeStatus upheld id _).then fun _ => (abides_stream id).read fun _ _ => ?_
      exact (abides_tell upheld (some id) (.standbyExited _) fun _ => trivial).then fun _ =>
        leads_pure _ rfl

end Opening

/-- Who holds nothing may wait for any lock. -/
theorem lawful_lock (machine : Machine) (target : Lock) :
    (Happening.lock target).Lawful machine [] := by
  cases target with
  | hardware => exact List.not_mem_nil
  | stream id => exact ⟨List.not_mem_nil, List.not_mem_nil, fun _ _ member => nomatch member⟩

section Upheld

variable (upheld : Upheld kept)
include upheld

/-- A lock that was asked for is taken if it is lawful. -/
theorem abides_lockFor (lawful : ∀ machine : Machine, machine.Bears known →
    (Happening.lock (.stream id)).Lawful machine held) :
    Leads (Run.Abides kept origin) (lockFor id) (held, known) fun _ after =>
      after = (.stream id :: held, known) :=
  (abides_lock upheld lawful).then fun _ => abides_changeStatus upheld id _

/-- A stream is put to standby by a thread that holds no lock. -/
theorem abides_standby (id : StreamId) :
    Leads (Run.Abides kept origin) (standby id) ([], known) fun _ after => after = ([], known) := by
  refine abides_hardware.then fun hardware => ?_
  split
  · refine (abides_changeStatus upheld id _).then fun _ => ?_
    refine (abides_lockFor upheld fun machine _ => lawful_lock machine _).then fun _ => ?_
    refine (abides_withHardware upheld (by simp)
      (abides_standbyLocked upheld (by simp) (by simp))).then fun _ => ?_
    exact (abides_unlock_head upheld _).then fun _ => leads_pure _ rfl
  · exact leads_pure _ rfl

end Upheld

/-- What others do while a thread waits: nothing to its locks and to what it knows. -/
def Calm (kept : Run → Prop) (origin : Run) (other : Act Unit) : Prop :=
  ∀ held known, Leads (Run.Abides kept origin) other (held, known) fun _ after =>
    after = (held, known)

theorem calm_pure : Calm kept origin (pure ()) :=
  fun _ _ => leads_pure _ rfl

/-- Locks that a stream may be waited for under: those of playback streams. -/
def Behind (known : List (StreamId × Direction)) (held : List Lock) : Prop :=
  ∀ target ∈ held, ∃ other, target = .stream other ∧ (other, .playback) ∈ known

/-- What a takeover leads to: the occupant's lock is held along with others, and its direction is
known, or nothing has changed. -/
def Took (direction : Direction) (held : List Lock) (taking : StreamId → List Lock)
    (known : List (StreamId × Direction)) :
    Option (Takeover.Taken StreamId Unit) → List Lock × List (StreamId × Direction) → Prop
  | none, after => after = (held, known)
  | some taken, after => after = (taking taken.occupant, (taken.occupant, direction) :: known)

/-- Behind the locks that are held, the lock of a stream may be taken. -/
theorem Behind.lawful_lock {machine : Machine} {direction : Direction} (behind : Behind known held)
    (first : direction = .playback → held = []) (bears : machine.Bears known)
    (way : (id, direction) ∈ known) : (Happening.lock (.stream id)).Lawful machine held := by
  refine ⟨fun member => ?_, fun member => ?_, fun _ other member => ?_⟩
  · obtain ⟨_, same, -⟩ := behind _ member
    cases same
  · cases direction with
    | playback =>
        rw [first rfl] at member
        cases member
    | capture =>
        obtain ⟨other, same, playback⟩ := behind _ member
        cases same
        have ways := (bears.direction way).symm.trans (bears.direction playback)
        cases ways
  · obtain ⟨_, same, playback⟩ := behind _ member
    cases same
    exact bears.direction playback

/-- A capture stream's lock may be waited for under that of a playback stream. -/
theorem lawful_lock_own {machine : Machine} (bears : machine.Bears known) {own : StreamId}
    (mine : (own, .capture) ∈ known) (way : (id, .playback) ∈ known) :
    (Happening.lock (.stream own)).Lawful machine [.stream id] := by
  refine ⟨fun member => ?_, fun member => ?_, fun playback => ?_⟩
  · cases List.mem_singleton.mp member
  · cases List.mem_singleton.mp member
    have ways := (bears.direction way).symm.trans (bears.direction mine)
    cases ways
  · rw [bears.direction mine] at playback
    cases playback

section Waits

variable (upheld : Upheld kept) {other : Act Unit} (calm : Calm kept origin other)
include upheld calm

/-- Waiting for a stream behind others. -/
theorem abides_waitFor_behind {direction : Direction} (behind : Behind known held)
    (first : direction = .playback → held = []) (way : (id, direction) ∈ known) :
    Leads (Run.Abides kept origin) (waitFor none other id) (.hardware :: held, known)
      fun _ after => after = (.hardware :: .stream id :: held, known) := by
  refine (abides_unlock_head upheld _).then fun _ => ?_
  refine (calm _ _).then fun _ => ?_
  refine (abides_lockFor upheld fun _ bears => behind.lawful_lock first bears way).then fun _ => ?_
  refine abides_lock upheld fun _ _ member => ?_
  obtain same | later := List.mem_cons.mp member
  · cases same
  · obtain ⟨_, same, -⟩ := behind _ later
    cases same

/-- A capture stream gives its own lock back while it waits for a playback stream. -/
theorem abides_waitFor_own {own : StreamId} (mine : (own, .capture) ∈ known)
    (way : (id, .playback) ∈ known) :
    Leads (Run.Abides kept origin) (waitFor (some own) other id) ([.hardware, .stream own], known)
      fun _ after => after = ([.hardware, .stream own, .stream id], known) := by
  refine (abides_unlock_head upheld _).then fun _ => ?_
  refine (abides_unlock_head upheld _).then fun _ => ?_
  refine (calm _ _).then fun _ => ?_
  refine (abides_lockFor upheld fun machine _ => lawful_lock machine _).then fun _ => ?_
  refine (abides_lock upheld fun _ bears => lawful_lock_own bears mine way).then fun _ => ?_
  refine abides_lock upheld fun _ _ member => ?_
  simp at member

end Waits

/-- Attempts to take a stream over, with waits that take its lock and may have to give it back. -/
theorem abides_attempt {direction : Direction} {taking : StreamId → List Lock}
    (waits : List (StreamId → Act Unit))
    (waited : ∀ wait ∈ waits, ∀ id, Leads (Run.Abides kept origin) (wait id)
      (held, (id, direction) :: known) fun _ after =>
        after = (taking id, (id, direction) :: known))
    (asked : ∀ id, Leads (Run.Abides kept origin) (askForLock id) (held, (id, direction) :: known)
      fun _ after => after = (held, (id, direction) :: known))
    (released : ∀ id, Leads (Run.Abides kept origin) (unlock (.stream id))
      (taking id, (id, direction) :: known) fun _ after => after = (held, (id, direction) :: known))
    (retries : UInt32) {run : Run} (abides : Run.Abides kept origin run (held, known)) :
    match Takeover.attempt (activeRole direction) waits retries run with
    | (.taken taken, after) => Run.Abides kept origin after
        (taking taken.occupant, (taken.occupant, direction) :: known)
    | (.vacant, after) | (.overflowed, after) | (.unsettled, after) =>
        Run.Abides kept origin after (held, known) := by
  induction waits generalizing retries run with
  | nil => exact abides
  | cons wait waits ih =>
      cases occupied : (activeRole direction).occupant run with
      | none =>
          rw [Takeover.attempt, occupied]
          exact abides
      | some id =>
          have active : run.machine.active direction = some id := occupied
          have aware : Run.Abides kept origin run (held, (id, direction) :: known) := by
            refine ⟨abides.course, abides.staffed, fun entry member => ?_, abides.holds⟩
            obtain rfl | earlier := List.mem_cons.mp member
            · exact abides.staffed.active active
            · exact abides.known entry earlier
          obtain ⟨_, ready, rfl⟩ := asked id run aware
          obtain ⟨_, locked, rfl⟩ := waited wait (List.mem_cons_self ..) id _ ready
          obtain ⟨generation, _, after, attempted⟩ := Takeover.exists_attempt wait occupied
          have reached : (wait id (askForLock id run).2).2 = after :=
            congrArg Prod.snd attempted.waited
          rw [reached] at locked
          by_cases unchanged : Takeover.Unchanged (activeRole direction) id generation after
          · rw [Takeover.attempt_of_unchanged _ _ attempted unchanged]
            exact locked
          · rw [Takeover.attempt_of_changed _ _ attempted unchanged]
            obtain ⟨_, free, rfl⟩ := released id _ locked
            have again := free.forget (List.subset_cons_self ..)
            cases Word.next? retries with
            | none => exact again
            | some next =>
                exact ih (fun wait member => waited wait (List.mem_cons_of_mem _ member)) next again

/-- **Takeovers** abide by the rules as their waits do. -/
theorem abides_takeOver {direction : Direction} {taking : StreamId → List Lock}
    (upheld : Upheld kept) {others : List (Act Unit)}
    (calm : ∀ other ∈ others, Calm kept origin other) {own : Option StreamId}
    (waited : ∀ other, Calm kept origin other → ∀ id, Leads (Run.Abides kept origin)
      (waitFor own other id) (held, (id, direction) :: known) fun _ after =>
        after = (taking id, (id, direction) :: known))
    (released : ∀ id, Leads (Run.Abides kept origin) (unlock (.stream id))
      (taking id, (id, direction) :: known) fun _ after =>
        after = (held, (id, direction) :: known)) :
    Leads (Run.Abides kept origin) (takeOver direction own others) (held, known)
      (Took direction held taking known) := by
  intro run abides
  have waits : ∀ wait ∈ (others ++ [pure ()]).map (waitFor own), ∀ id,
      Leads (Run.Abides kept origin) (wait id) (held, (id, direction) :: known) fun _ after =>
        after = (taking id, (id, direction) :: known) := by
    intro wait member id
    obtain ⟨other, among, rfl⟩ := List.mem_map.mp member
    refine waited other ?_ id
    obtain member | last := List.mem_append.mp among
    · exact calm other member
    · rw [List.mem_singleton.mp last]
      exact calm_pure
  have attempted := abides_attempt _ waits (fun id => abides_changeStatus upheld id _) released 0
    abides
  unfold takeOver
  dsimp only
  generalize Takeover.attempt (activeRole direction) _ 0 run = ended at attempted
  obtain ⟨taken | _ | _ | _, after⟩ := ended <;> exact ⟨_, attempted, rfl⟩

section Amid

variable (upheld : Upheld kept) {others : List (Act Unit)}
  (calm : ∀ other ∈ others, Calm kept origin other)
include upheld calm

/-- Taking over holds the lock of the hardware and of what was taken over, whatever others do. -/
theorem abides_takeOver_behind (direction : Direction) (behind : Behind known held)
    (first : direction = .playback → held = []) :
    Leads (Run.Abides kept origin) (takeOver direction none others) (.hardware :: held, known)
      (Took direction (.hardware :: held) (fun id => .hardware :: .stream id :: held) known) := by
  refine abides_takeOver upheld calm (fun other still id => ?_) fun id => ?_
  · have further : Behind ((id, direction) :: known) held := by
      intro target member
      obtain ⟨other, same, way⟩ := behind target member
      exact ⟨other, same, List.mem_cons_of_mem _ way⟩
    exact abides_waitFor_behind upheld still further first (List.mem_cons_self ..)
  · exact abides_unlock_behind upheld id

/-- Taking over beside a stream's own lock takes that one first again. -/
theorem abides_takeOver_own {own : StreamId} (mine : (own, .capture) ∈ known) :
    Leads (Run.Abides kept origin) (takeOver .playback (some own) others)
      ([.hardware, .stream own], known)
      (Took .playback [.hardware, .stream own]
        (fun id => [.hardware, .stream own, .stream id]) known) := by
  refine abides_takeOver upheld calm (fun other still id => ?_) fun id => ?_
  · exact abides_waitFor_own upheld still (List.mem_cons_of_mem _ mine) (List.mem_cons_self ..)
  · exact abides_unlock_last upheld own id

end Amid

/-- What was learned on the way need not be known in the end. -/
theorem Leads.forgetting {action : Act α} {more : List (StreamId × Direction)} {left : List Lock}
    (leads : Leads (Run.Abides kept origin) action (held, more) fun _ after =>
      after = (left, more)) (fewer : known ⊆ more) :
    Leads (Run.Abides kept origin) action (held, more) fun _ after => after = (left, known) := by
  intro run abides
  obtain ⟨_, reached, rfl⟩ := leads run abides
  exact ⟨_, reached.forget fewer, rfl⟩

section Waking

variable (upheld : Upheld kept)
include upheld

theorem abides_tellRetries (direction : Direction)
    (taken : Option (Takeover.Taken StreamId Unit)) :
    Leads (Run.Abides kept origin) (tellRetries direction taken) (held, known) fun _ after =>
      after = (held, known) := by
  cases taken with
  | none => exact leads_pure _ rfl
  | some taken =>
      unfold tellRetries
      dsimp only
      split
      · exact abides_tell upheld none (.takeoverRetried direction _) fun _ => trivial
      · exact leads_pure _ rfl

variable {others : List (Act Unit)} (calm : ∀ other ∈ others, Calm kept origin other)
include calm

/-- A playback stream wakes with its own lock and the hardware's held. -/
theorem abides_wakePlayback (mine : (id, .playback) ∈ known) :
    Leads (Run.Abides kept origin) (wakePlayback id others) ([.hardware, .stream id], known)
      fun _ after => after = ([.hardware, .stream id], known) := by
  have behind : Behind known [.stream id] := by
    intro target member
    rw [List.mem_singleton.mp member]
    exact ⟨id, rfl, mine⟩
  refine (abides_takeOver_behind upheld calm .capture behind nofun).bind
    fun sibling after took => ?_
  cases sibling with
  | none =>
      rw [show after = _ from took]
      refine (abides_tellRetries upheld _ _).then fun _ => ?_
      refine (abides_openLocked (by simp) (by simp) upheld).then fun opened => ?_
      exact abides_settleWaking (by simp) (by simp) upheld opened
  | some taken =>
      rw [show after = _ from took]
      refine (abides_tellRetries upheld _ _).then fun _ => ?_
      refine (abides_closeLocked upheld (by simp) (by simp)).then fun _ => ?_
      refine (abides_openLocked (by simp) (by simp) upheld).then fun opened => ?_
      refine (abides_reopenOrStandby (by simp) (by simp) upheld).then fun _ => ?_
      refine (abides_unlock_behind upheld _).then fun _ => ?_
      exact Leads.forgetting (abides_settleWaking (by simp) (by simp) upheld opened)
        (List.subset_cons_self ..)

/-- A capture stream wakes with its own lock and the hardware's held. -/
theorem abides_wakeCapture (mine : (id, .capture) ∈ known) :
    Leads (Run.Abides kept origin) (wakeCapture id others) ([.hardware, .stream id], known)
      fun _ after => after = ([.hardware, .stream id], known) := by
  have settle : ∀ {known : List (StreamId × Direction)}, Leads (Run.Abides kept origin)
      (openLocked id >>= settleWaking id) ([.hardware, .stream id], known) fun _ after =>
        after = ([.hardware, .stream id], known) :=
    (abides_openLocked (by simp) (by simp) upheld).then fun opened =>
      abides_settleWaking (by simp) (by simp) upheld opened
  refine (abides_takeOver_own upheld calm mine).bind fun sibling after took => ?_
  cases sibling with
  | none =>
      rw [show after = _ from took]
      exact (abides_tellRetries upheld _ _).then fun _ => settle
  | some taken =>
      rw [show after = _ from took]
      refine (abides_tellRetries upheld _ _).then fun _ => ?_
      refine (abides_closeLocked upheld (by simp) (by simp)).then fun _ => ?_
      refine (abides_reopenOrStandby (by simp) (by simp) upheld).then fun _ => ?_
      refine (abides_unlock_last upheld id _).then fun _ => ?_
      exact Leads.forgetting settle (List.subset_cons_self ..)

/-- **Waking** a stream whose lock is held. -/
theorem abides_wake {direction : Direction} (mine : (id, direction) ∈ known) :
    Leads (Run.Abides kept origin) (wake id others) ([.stream id], known) fun _ after =>
      after = ([.stream id], known) := by
  refine (abides_stream id).read fun stream way => ?_
  rw [way direction mine]
  split
  · exact leads_pure _ rfl
  split
  · exact leads_pure _ rfl
  refine abides_hardware.then fun hardware => ?_
  split
  · exact leads_pure _ rfl
  refine abides_withHardware upheld (by simp) ?_
  refine (abides_acquireWake upheld (by simp) (by simp)).then fun _ => ?_
  cases direction with
  | playback => exact abides_wakePlayback upheld calm mine
  | capture => exact abides_wakeCapture upheld calm mine

end Waking

end Act

end PhoneAudio
