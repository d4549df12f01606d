import PhoneAudio.Proofs.Handset.Instants

/-!
# Leaving standby and the core

Taking streams over undisturbed, putting them to standby and waking them lead from sound states to
sound states, whatever the drivers do, and leave the modes, the mute and the list of open streams
alone. Besides the stream that wakes, only the active stream of the other direction is touched
(`PhoneAudio.Machine.Rouses`). Meanwhile, every stream that is opened finds no PCM in its way
(`PhoneAudio.Act.along_wake`), and what is played is heard in the end as before
(`PhoneAudio.Machine.Wakes`).
-/

namespace PhoneAudio

/-- The other direction. -/
def Direction.other : Direction → Direction
  | .playback => .capture
  | .capture => .playback

namespace Machine

/-- A sound state that stream operations on a stream can lead to: the others are as they were, but
for a sibling that makes way. -/
structure Rouses (before : Machine) (id : StreamId) (sibling : Option StreamId) (after : Machine) :
    Prop extends before.Follows [] after where
  others : ∀ other, other ≠ id → sibling ≠ some other → after.stream other = before.stream other

variable {before middle after : Machine} {id : StreamId} {sibling : Option StreamId}

/-- A state that is sound is one where nothing was roused. -/
theorem Sound.rouses (sound : before.Sound []) (id : StreamId) (sibling : Option StreamId) :
    before.Rouses id sibling before :=
  ⟨sound.follows, fun _ _ _ => rfl⟩

/-- What was roused may go on, with no sibling to make way any more. -/
theorem Rouses.trans (start : before.Rouses id sibling middle)
    (rest : middle.Rouses id none after) : before.Rouses id sibling after := by
  refine ⟨start.toFollows.trans rest.toFollows, fun other ne apart => ?_⟩
  rw [rest.others other ne nofun, start.others other ne apart]

/-- The same, and what is played is heard afterwards if it was before, unless the operation is on a
playback stream that was closed. -/
structure Wakes (before : Machine) (id : StreamId) (sibling : Option StreamId) (after : Machine) :
    Prop extends before.Rouses id sibling after where
  direction : (after.stream id).direction = (before.stream id).direction
  audible : before.Audible → ((before.stream id).direction = .playback →
    before.isOpen id = true) → after.Audible

theorem Sound.wakes (sound : before.Sound []) (id : StreamId) (sibling : Option StreamId) :
    before.Wakes id sibling before :=
  ⟨sound.rouses id sibling, rfl, fun audible _ => audible⟩

/-- What woke may go on, with no sibling to make way any more. -/
theorem Wakes.trans (start : before.Wakes id sibling middle)
    (rest : middle.Wakes id none after) : before.Wakes id sibling after := by
  refine ⟨start.toRouses.trans rest.toRouses, rest.direction.trans start.direction, ?_⟩
  intro audible isOpen
  refine rest.audible (start.audible audible isOpen) fun playback => ?_
  rw [start.isOpen]
  exact isOpen (start.direction.symm.trans playback)

section Vacant

variable {exempt : List StreamId} (sound : before.Sound exempt)
  (exempted : ∀ other ∈ exempt, before.isOpen other = true) (isOpen : before.isOpen id = true)
  (empty : (before.stream id).pcm = none)
include sound exempted isOpen empty

/-- Only the open playback stream can have a PCM for playback. -/
theorem Sound.vacant_playback (playback : (before.stream id).direction = .playback) :
    before.Vacant .playback := by
  obtain ⟨-, output⟩ | ⟨capture, -⟩ := sound.isOpen_cases isOpen
  · refine sound.vacant exempted fun other offered way => ?_
    rw [← sound.own_of_isOpen (fun _ => offered) way id output]
    exact empty
  · rw [playback] at capture
    cases capture

/-- A capture stream that is alone is the only one that can have a PCM for capture. -/
theorem Sound.vacant_capture (few : before.hardware.inputs.length ≤ 1)
    (capture : (before.stream id).direction = .capture) : before.Vacant .capture := by
  have member : ∀ {other}, before.isOpen other = true →
      (before.stream other).direction = .capture → other ∈ before.hardware.inputs := by
    intro other offered way
    obtain ⟨playback, -⟩ | ⟨-, member⟩ := sound.isOpen_cases offered
    · rw [way] at playback
      cases playback
    · exact member
  refine sound.vacant exempted fun other offered way => ?_
  have here := member isOpen capture
  have there := member offered way
  have same : other = id := by
    match before.hardware.inputs, few, here, there with
    | [_], _, here, there =>
        exact (List.mem_singleton.mp there).trans (List.mem_singleton.mp here).symm
  rw [same]
  exact empty

end Vacant

/-- When no capture stream is active, none has a PCM. -/
theorem Sound.vacant_of_inactive (sound : before.Sound [])
    (inactive : before.active .capture = none) : before.Vacant .capture := by
  refine sound.vacant nofun fun other offered way => ?_
  obtain ⟨playback, -⟩ | ⟨-, member⟩ := sound.isOpen_cases offered
  · rw [way] at playback
    cases playback
  · have asleep := List.find?_eq_none.mp inactive other member
    have quiet := sound.quiet other (sound.inputs other member).1 List.not_mem_nil
    have standby : (before.stream other).status.standby = true := by
      simpa [Stream.isActive] using asleep
    rw [standby] at quiet
    exact Option.isNone_iff_eq_none.mp quiet.symm

/-- What follows has the same capture streams. -/
theorem Follows.inputs {exempt : List StreamId} (follows : before.Follows exempt after) :
    after.hardware.inputs = before.hardware.inputs :=
  congrArg (fun desk => desk.1.inputs) follows.desk

/-- As long as a capture stream that is alone has no PCM, there is none for capture. -/
theorem Follows.vacant_capture {exempt : List StreamId} (follows : before.Follows exempt after)
    (exempted : ∀ other ∈ exempt, after.isOpen other = true)
    (few : before.hardware.inputs.length ≤ 1) (isOpen : before.isOpen id = true)
    (capture : (before.stream id).direction = .capture)
    (direction : (after.stream id).direction = (before.stream id).direction)
    (empty : (after.stream id).pcm = none) : after.Vacant .capture := by
  refine follows.sound.vacant_capture exempted ((follows.isOpen id).trans isOpen) empty ?_ ?_
  · rw [follows.inputs]
    exact few
  · exact direction.trans capture

/-- A state in which an active stream makes way for another: it was closed but is to open again,
and all else is as it was. -/
structure Yields (before : Machine) (sibling : StreamId) (after : Machine) : Prop
    extends before.Follows [sibling] after where
  active : (after.stream sibling).isActive = true
  empty : (after.stream sibling).pcm = none
  direction : (after.stream sibling).direction = (before.stream sibling).direction
  others : ∀ other, other ≠ sibling → after.stream other = before.stream other
  audible : before.Audible → after.Audible

/-- An active stream that is shut yields. -/
theorem Sound.yields (sound : before.Sound []) {direction : Direction}
    (active : before.active direction = some id) : before.Yields id (before.shut id) := by
  obtain ⟨isOpen, -, awake⟩ := sound.active_cases active
  have inside := sound.inside_of_isOpen isOpen
  have emptied : (before.shut id).stream id = Stream.emptied (before.stream id) := by
    rw [stream_congr (streams_shut _ id), stream_adjust _ _ inside]
  refine ⟨sound.follows_shut id, ?_, ?_, ?_, fun other different => ?_, ?_⟩
  · rw [emptied]
    exact awake
  · rw [emptied]
    rfl
  · rw [emptied]
    rfl
  · rw [stream_congr (streams_shut _ id), stream_adjust_of_ne _ _ different]
  · exact fun audible => audible.shut sound isOpen

/-- The stream that makes way stays open to the outside. -/
theorem Yields.exempted (yields : before.Yields id after) (isOpen : before.isOpen id = true) :
    ∀ other ∈ [id], after.isOpen other = true := by
  intro other member
  rw [List.mem_singleton.mp member, yields.isOpen]
  exact isOpen

end Machine

namespace Act

variable {state : Machine}

/-- A lock that is asked for is noted on the stream. -/
theorem leads_askForLock (id : StreamId) :
    Leads Run.Shows (askForLock id) state fun _ after =>
      after = state.adjust id fun stream =>
        { stream with status := { stream.status with lockWanted := true } } :=
  leads_changeStatus id _

/-- Waiting for a lock that one has asked for withdraws the request. -/
theorem leads_lockFor (id : StreamId) (calm : (state.stream id).status.lockWanted = false) :
    Leads Run.Shows (lockFor id)
      (state.adjust id fun stream =>
        { stream with status := { stream.status with lockWanted := true } })
      fun _ after => after = state := by
  refine (leads_lock _).then fun _ => (leads_changeStatus id _).mono fun _ after same => ?_
  rw [same, Machine.adjust_adjust]
  refine Machine.adjust_of_fixed ?_
  simp only [Function.comp_apply]
  rw [← calm]

theorem leads_waitFor (own : Option StreamId) (id : StreamId)
    (calm : (state.stream id).status.lockWanted = false) :
    Leads Run.Shows (waitFor own (pure ()) id)
      (state.adjust id fun stream =>
        { stream with status := { stream.status with lockWanted := true } })
      fun _ after => after = state := by
  refine (leads_unlock _).then fun _ => ?_
  cases own with
  | none =>
      refine Leads.after_pure ?_
      exact (leads_lockFor id calm).then fun _ => leads_lock _
  | some own =>
      refine (leads_unlock _).then fun _ => Leads.after_pure ?_
      exact (leads_lockFor id calm).then fun _ => (leads_lock _).then fun _ => leads_lock _

/-- **Taking over undisturbed.** The active stream of a direction is taken over at once, if there is
one. -/
theorem leads_takeOver (direction : Direction) (own : Option StreamId)
    (calm : ∀ id, state.active direction = some id →
      (state.stream id).status.lockWanted = false) :
    Leads Run.Shows (takeOver direction own []) state fun taken after => after = state ∧
      taken = (state.active direction).map fun id => ⟨id, (), 0⟩ := by
  intro run shown
  have occupant := shown.active direction
  rcases takeOver_undisturbed direction own run with ⟨vacant, ended⟩ | ⟨id, found, ended⟩
  · rw [ended, ← occupant, vacant]
    exact ⟨state, shown, rfl, rfl⟩
  · have active := occupant.symm.trans found
    obtain ⟨_, asked, rfl⟩ := leads_askForLock id run shown
    obtain ⟨_, waited, rfl⟩ := leads_waitFor own id (calm id active) _ asked
    rw [ended, active]
    exact ⟨_, waited, rfl, rfl⟩

theorem leads_tellRetries (direction : Direction)
    (taken : Option (Takeover.Taken StreamId Unit)) :
    Leads Run.Shows (tellRetries direction taken) state fun _ after => after = state := by
  cases taken with
  | none => exact leads_pure _ rfl
  | some taken =>
      unfold tellRetries
      dsimp only
      split
      · exact leads_tell _ _
      · exact leads_pure _ rfl

/-- **Standby.** As long as the audio hardware is there, a stream is put to standby. -/
theorem leads_standby (id : StreamId) (calm : (state.stream id).status.lockWanted = false) :
    Leads Run.Shows (standby id) state fun _ after =>
      after = if state.hardware.present then state.slept id else state := by
  refine leads_hardware.read fun read same => ?_
  have present : read.present = state.hardware.present := congrArg (fun h => h.present) same
  rw [present]
  split
  · refine (leads_askForLock id).then fun _ => (leads_lockFor id calm).then fun _ => ?_
    refine (leads_withHardware (leads_standbyLocked id)).then fun _ => ?_
    exact (leads_unlock _).then fun _ => leads_pure _ rfl
  · exact leads_pure _ rfl

/-! ## Waking -/

variable {alone : Prop} {origin : Run}

/-- A stream that was closed on behalf of another is opened again or put to standby. -/
theorem along_reopenOrStandby {id : StreamId} {exempt : List StreamId}
    (sound : state.Sound (id :: exempt)) (isOpen : state.isOpen id = true)
    (active : (state.stream id).isActive = true) (empty : (state.stream id).pcm = none)
    (free : alone → state.Vacant .capture ∧
      ((state.stream id).direction = .playback → state.Vacant .playback)) :
    Leads (Run.Along alone origin) (reopenOrStandby id) state fun _ after =>
      state.Follows exempt after ∧ (∀ other, other ≠ id →
        after.stream other = state.stream other) ∧ (state.Audible → after.Audible) := by
  have inside := sound.inside_of_isOpen isOpen
  refine (along_openLocked sound inside empty free).bind ?_
  rintro _ _ (⟨error, rfl, rfl⟩ | ⟨pcm, rfl, rfl⟩)
  · refine ((leads_standbyLocked id).proceedAlong (proceeds_standbyLocked id)).mono ?_
    rintro _ _ rfl
    refine ⟨sound.follows_slept, fun other different => ?_, fun audible => ?_⟩
    · rw [Machine.stream_congr (Machine.streams_slept _ id),
        Machine.stream_adjust_of_ne _ _ different]
    · exact audible.slept sound inside fun _ => isOpen
  · have follows := sound.follows_opened isOpen pcm
    have fitted : (state.opened id pcm).stream id = Stream.fitted pcm (state.stream id) := by
      rw [Machine.stream_congr (Machine.streams_opened _ id pcm),
        Machine.stream_adjust _ _ inside]
    refine leads_pure _ ⟨⟨follows.sound.settled ?_ ?_, follows.desk, follows.length⟩, ?_, ?_⟩
    · rw [fitted]
      exact active
    · rw [fitted]
      rfl
    · intro other different
      rw [Machine.stream_congr (Machine.streams_opened _ id pcm),
        Machine.stream_adjust_of_ne _ _ different]
    · exact fun audible => audible.opened sound isOpen pcm

/-- A stream that was not opened leaves what is shown. -/
theorem leads_settleWaking_error (id : StreamId) (error : AudioError) :
    Leads Run.Shows (settleWaking id (.error error)) state fun _ after => after = state :=
  (leads_releaseWake id).then fun _ => leads_pure _ rfl

/-- A stream that was opened wakes. -/
theorem leads_settleWaking_ok {id : StreamId} (sound : state.Sound [id])
    (isOpen : state.isOpen id = true) (pcm : (state.stream id).pcm.isSome = true) :
    Leads Run.Shows (settleWaking id (.ok ())) state fun _ after => state.Wakes id none after := by
  refine (leads_changeStatus id _).then fun _ => ?_
  refine (leads_stream id).read fun _ _ => (leads_tell _ _).then fun _ => ?_
  refine leads_pure _ ⟨⟨⟨sound.roused isOpen pcm, rfl, state.length_adjust id _⟩, ?_⟩, ?_, ?_⟩
  · exact fun other different _ => Machine.stream_adjust_of_ne _ _ different
  · exact Machine.view_adjust Stream.direction state id id fun _ => rfl
  · exact fun audible _ => audible.adjust id (fun _ => rfl) fun _ => rfl

/-- Opening a stream in standby and taking it out of standby. -/
theorem along_openAndSettle {id : StreamId} (sound : state.Sound [])
    (isOpen : state.isOpen id = true) (empty : (state.stream id).pcm = none)
    (free : alone → state.Vacant .capture ∧
      ((state.stream id).direction = .playback → state.Vacant .playback)) :
    Leads (Run.Along alone origin) (openLocked id >>= fun opened => settleWaking id opened) state
      fun _ after => state.Wakes id none after := by
  have inside := sound.inside_of_isOpen isOpen
  refine (along_openLocked sound inside empty free).bind ?_
  rintro _ _ (⟨error, rfl, rfl⟩ | ⟨pcm, rfl, rfl⟩)
  · refine ((leads_settleWaking_error id error).asideAlong (aside_settleWaking id _)).mono ?_
    rintro _ _ rfl
    exact sound.wakes id none
  · have exempted : state.Sound [id] := sound.weaken nofun
    have follows := exempted.follows_opened isOpen pcm
    have streams := Machine.stream_congr (Machine.streams_opened state id pcm)
    have fitted : (state.opened id pcm).stream id = Stream.fitted pcm (state.stream id) := by
      rw [streams, Machine.stream_adjust _ _ inside]
    have settle := leads_settleWaking_ok follows.sound ((follows.isOpen id).trans isOpen)
      (by rw [fitted]; rfl)
    refine (settle.asideAlong (aside_settleWaking id _)).mono fun _ after settled => ?_
    refine ⟨⟨follows.trans settled.toFollows, fun other different apart => ?_⟩, ?_, ?_⟩
    · rw [settled.others other different apart, streams, Machine.stream_adjust_of_ne _ _ different]
    · rw [settled.direction, fitted]
      rfl
    · exact fun audible _ => settled.audible (audible.opened sound isOpen pcm)
        fun _ => (follows.isOpen id).trans isOpen

/-- Along the way, taking over undisturbed finds the stream that is active. -/
theorem along_takeOver (direction : Direction) (own : Option StreamId) (sound : state.Sound []) :
    Leads (Run.Along alone origin) (takeOver direction own []) state fun taken after =>
      after = state ∧ taken = (state.active direction).map fun id => ⟨id, (), 0⟩ := by
  refine (leads_takeOver direction own fun other active => ?_).asideAlong
    (aside_takeOver direction own)
  exact sound.calm other (sound.inside_of_isOpen (sound.active_cases active).1)

section Yielding

variable {between : Machine} {id sibling : StreamId} (yields : state.Yields sibling between)
  (siblingOpen : state.isOpen sibling = true)
  (capturing : (state.stream sibling).direction = .capture) (different : id ≠ sibling)
  (few : alone → state.hardware.inputs.length ≤ 1)
include yields siblingOpen capturing different few

/-- A playback stream could not be opened. The capture stream that made way for it is opened
again. -/
theorem along_playbackRefused (error : AudioError) :
    Leads (Run.Along alone origin) (do
      reopenOrStandby sibling
      unlock (.stream sibling)
      settleWaking id (.error error)) between
      fun _ after => state.Wakes id (some sibling) after := by
  have exempted := yields.exempted siblingOpen
  refine (along_reopenOrStandby yields.sound (exempted sibling (List.mem_singleton.mpr rfl))
    yields.active yields.empty fun unaccompanied => ⟨?_, fun played => ?_⟩).bind ?_
  · exact yields.vacant_capture exempted (few unaccompanied) siblingOpen capturing
      yields.direction yields.empty
  · rw [yields.direction, capturing] at played
    cases played
  rintro _ reopened ⟨again, kept, echo⟩
  refine ((leads_unlock _).asideAlong (aside_unlock _)).then fun _ => ?_
  refine ((leads_settleWaking_error id error).asideAlong (aside_settleWaking id _)).mono ?_
  rintro _ _ rfl
  refine ⟨⟨yields.toFollows.trans again, fun other _ apart => ?_⟩, ?_, ?_⟩
  · have away : other ≠ sibling := fun same => apart (congrArg some same.symm)
    rw [kept other away, yields.others other away]
  · rw [kept id different, yields.others id different]
  · exact fun audible _ => echo (yields.audible audible)

/-- A playback stream was opened while a capture stream made way for it, which is opened again. -/
theorem along_playbackOpened (isOpen : state.isOpen id = true) (inside : id < state.streams.length)
    (pcm : OpenPcm) :
    Leads (Run.Along alone origin) (do
      reopenOrStandby sibling
      unlock (.stream sibling)
      settleWaking id (.ok ())) (between.opened id pcm)
      fun _ after => state.Wakes id (some sibling) after := by
  have exempted := yields.exempted siblingOpen
  have offered : between.isOpen id = true := (yields.isOpen id).trans isOpen
  -- both streams are exempt while the new one is routed and the sibling is still closed
  have both : between.Sound [id, sibling] :=
    yields.sound.weaken fun _ => List.mem_cons_of_mem id
  have opened := both.follows_opened offered pcm
  have swapped : (between.opened id pcm).Sound [sibling, id] :=
    opened.sound.weaken fun _ member => (List.Perm.swap sibling id []).mem_iff.mp member
  have streams := Machine.stream_congr (Machine.streams_opened between id pcm)
  have kept : (between.opened id pcm).stream sibling = between.stream sibling := by
    rw [streams, Machine.stream_adjust_of_ne _ _ different.symm]
  have fitted : (between.opened id pcm).stream id = Stream.fitted pcm (state.stream id) := by
    rw [streams, Machine.stream_adjust _ _ (yields.length.symm ▸ inside),
      yields.others id different]
  have current := yields.toFollows.trans opened
  refine (along_reopenOrStandby swapped ((current.isOpen sibling).trans siblingOpen) ?_ ?_
    fun unaccompanied => ⟨?_, fun played => ?_⟩).bind ?_
  · rw [kept]
    exact yields.active
  · rw [kept]
    exact yields.empty
  · refine current.vacant_capture ?_ (few unaccompanied) siblingOpen capturing ?_ ?_
    · simp only [List.mem_cons, List.not_mem_nil, or_false]
      rintro other (rfl | rfl)
      · exact (current.isOpen other).trans isOpen
      · exact (current.isOpen other).trans siblingOpen
    · rw [kept]
      exact yields.direction
    · rw [kept]
      exact yields.empty
  · rw [kept, yields.direction, capturing] at played
    cases played
  rintro _ reopened ⟨again, same, echo⟩
  have now := current.trans again
  have still : reopened.stream id = Stream.fitted pcm (state.stream id) :=
    (same id different).trans fitted
  refine ((leads_unlock _).asideAlong (aside_unlock _)).then fun _ => ?_
  have settle := leads_settleWaking_ok again.sound ((now.isOpen id).trans isOpen)
    (by rw [still]; rfl)
  refine (settle.asideAlong (aside_settleWaking id _)).mono fun _ after settled => ?_
  refine ⟨⟨now.trans settled.toFollows, fun other ne apart => ?_⟩, ?_, fun audible _ => ?_⟩
  · have away : other ≠ sibling := fun same => apart (congrArg some same.symm)
    rw [settled.others other ne nofun, same other away, streams,
      Machine.stream_adjust_of_ne _ _ ne, yields.others other away]
  · rw [settled.direction, still]
    rfl
  · have routed := (yields.audible audible).opened both offered pcm
    exact settled.audible (echo routed) fun _ => (now.isOpen id).trans isOpen

end Yielding

section Waking

variable (sound : state.Sound []) (few : alone → state.hardware.inputs.length ≤ 1)
include sound few

/-- Along the way, a capture stream wakes while the playback stream makes way. -/
theorem along_wakeCapture {id : StreamId} (isOpen : state.isOpen id = true)
    (capture : (state.stream id).direction = .capture) (empty : (state.stream id).pcm = none) :
    Leads (Run.Along alone origin) (wakeCapture id []) state fun _ after =>
      state.Wakes id (state.active .playback) after := by
  refine (along_takeOver .playback (some id) sound).read fun taken same => ?_
  refine ((leads_tellRetries _ _).asideAlong (aside_tellRetries _ _)).then fun _ => ?_
  cases active : state.active .playback with
  | none =>
      rw [active] at same
      subst same
      refine along_openAndSettle sound isOpen empty fun unaccompanied => ⟨?_, fun playback => ?_⟩
      · exact sound.vacant_capture nofun isOpen empty (few unaccompanied) capture
      · rw [capture] at playback
        cases playback
  | some sibling =>
      rw [active] at same
      subst same
      have yields := sound.yields active
      obtain ⟨siblingOpen, playing, -⟩ := sound.active_cases active
      have different : id ≠ sibling := by
        rintro rfl
        rw [playing] at capture
        cases capture
      have exempted := yields.exempted siblingOpen
      have offered := exempted sibling (List.mem_singleton.mpr rfl)
      refine ((leads_closeLocked sibling).proceedAlong (proceeds_closeLocked sibling)).then
        fun _ => ?_
      -- the stream that wakes has no PCM until the end, so there is none for capture before
      refine (along_reopenOrStandby yields.sound offered yields.active yields.empty
        fun unaccompanied => ⟨?_, ?_⟩).bind ?_
      · have here := yields.others id different
        refine yields.vacant_capture exempted (few unaccompanied) isOpen capture ?_ ?_
        · rw [here]
        · rw [here]
          exact empty
      · exact yields.sound.vacant_playback exempted offered yields.empty
      rintro _ reopened ⟨again, kept, echo⟩
      refine ((leads_unlock _).asideAlong (aside_unlock _)).then fun _ => ?_
      have now := yields.toFollows.trans again
      have still : reopened.stream id = state.stream id :=
        (kept id different).trans (yields.others id different)
      have vacant : (reopened.stream id).pcm = none := by
        rw [still]
        exact empty
      refine (along_openAndSettle again.sound ((now.isOpen id).trans isOpen) vacant
        fun unaccompanied => ⟨?_, fun playback => ?_⟩).mono fun _ after settled => ?_
      · refine now.vacant_capture nofun (few unaccompanied) isOpen capture ?_ vacant
        rw [still]
      · rw [still, capture] at playback
        cases playback
      · refine ⟨⟨now.trans settled.toFollows, fun other ne apart => ?_⟩, ?_, fun audible _ => ?_⟩
        · have away : other ≠ sibling := fun same => apart (congrArg some same.symm)
          rw [settled.others other ne nofun, kept other away, yields.others other away]
        · rw [settled.direction, still]
        · exact settled.audible (echo (yields.audible audible)) fun _ =>
            (now.isOpen id).trans isOpen

/-- Along the way, a playback stream wakes while the capture stream makes way. -/
theorem along_wakePlayback {id : StreamId} (isOpen : state.isOpen id = true)
    (playback : (state.stream id).direction = .playback)
    (empty : (state.stream id).pcm = none) :
    Leads (Run.Along alone origin) (wakePlayback id []) state fun _ after =>
      state.Wakes id (state.active .capture) after := by
  refine (along_takeOver .capture none sound).read fun taken same => ?_
  refine ((leads_tellRetries _ _).asideAlong (aside_tellRetries _ _)).then fun _ => ?_
  cases active : state.active .capture with
  | none =>
      rw [active] at same
      subst same
      refine along_openAndSettle sound isOpen empty fun _ => ?_
      exact ⟨sound.vacant_of_inactive active, sound.vacant_playback nofun isOpen empty⟩
  | some sibling =>
      rw [active] at same
      subst same
      have yields := sound.yields active
      obtain ⟨siblingOpen, capturing, -⟩ := sound.active_cases active
      have different : id ≠ sibling := by
        rintro rfl
        rw [capturing] at playback
        cases playback
      have inside := sound.inside_of_isOpen isOpen
      have exempted := yields.exempted siblingOpen
      have here := yields.others id different
      have vacant : ((state.shut sibling).stream id).pcm = none := by
        rw [here]
        exact empty
      refine ((leads_closeLocked sibling).proceedAlong (proceeds_closeLocked sibling)).then
        fun _ => ?_
      refine (along_openLocked yields.sound (yields.length.symm ▸ inside) vacant
        fun unaccompanied => ⟨?_, fun _ => ?_⟩).bind ?_
      · exact yields.vacant_capture exempted (few unaccompanied) siblingOpen capturing
          yields.direction yields.empty
      · refine yields.sound.vacant_playback exempted ((yields.isOpen id).trans isOpen) vacant ?_
        rw [here]
        exact playback
      rintro _ _ (⟨error, rfl, rfl⟩ | ⟨pcm, rfl, rfl⟩)
      · exact along_playbackRefused yields siblingOpen capturing different few error
      · exact along_playbackOpened yields siblingOpen capturing different few isOpen inside pcm

/-- **Waking.** Taking a stream out of standby proceeds in steps from a sound state to a sound
state, and touches no other stream but the active one of the other direction. -/
theorem along_wake (id : StreamId) (inside : id < state.streams.length) :
    Leads (Run.Along alone origin) (wake id []) state fun _ after =>
      state.Wakes id (state.active (state.stream id).direction.other) after := by
  refine Leads.read ((leads_stream id).asideAlong (stays_stream id)) fun read same => ?_
  have status : read.status = (state.stream id).status := by
    rw [← same]
    rfl
  have direction : read.direction = (state.stream id).direction := by
    rw [← same]
    rfl
  by_cases active : read.isActive = true
  · rw [if_pos active]
    exact leads_pure _ (sound.wakes id _)
  rw [if_neg active]
  by_cases detached : read.status.detached = true
  · rw [if_pos detached]
    exact leads_pure _ (sound.wakes id _)
  rw [if_neg detached]
  refine Leads.read (leads_hardware.asideAlong stays_hardware) fun hardware _ => ?_
  split
  · exact leads_pure _ (sound.wakes id _)
  have isOpen : state.isOpen id = true := by
    have attached := sound.attached id inside
    rw [← status, Bool.eq_false_iff.mpr detached] at attached
    simpa using attached.symm
  have empty : (state.stream id).pcm = none := by
    have quiet := sound.quiet id inside List.not_mem_nil
    rw [← status] at quiet
    simpa [Stream.isActive, quiet] using active
  refine along_withHardware ?_
  refine Leads.then ((leads_acquireWake id).asideAlong (aside_acquireWake id)) fun _ => ?_
  rw [← direction]
  cases way : read.direction with
  | playback => exact along_wakePlayback sound few isOpen (direction.symm.trans way) empty
  | capture => exact along_wakeCapture sound few isOpen (direction.symm.trans way) empty

end Waking

end Act

end PhoneAudio
