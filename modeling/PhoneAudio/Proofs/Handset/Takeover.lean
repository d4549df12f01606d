import PhoneAudio.Handset.Takeover
import PhoneAudio.Proofs.Machine.Apart

/-!
# How takeovers end

What a takeover comes to on any state, whatever its waits do to the state
(`PhoneAudio.Takeover.settled_attempt`), and which guards it leaves behind
(`PhoneAudio.Takeover.attempt_watched`). The active stream of a direction is taken after the first
wait in which nobody else acts (`PhoneAudio.Act.unchanged_of_undisturbed`).
-/

namespace PhoneAudio

namespace Takeover

variable {σ ι γ : Type}

section Ends

variable (role : Role σ ι γ)

/-- One attempt: the occupant of the role is asked for its lock, and a wait gets hold of it. -/
structure Attempt (wait : ι → σ → γ × σ) (before : σ) (occupant : ι) (generation : UInt32)
    (guard : γ) (after : σ) : Prop where
  occupied : role.occupant before = some occupant
  asked : (role.request occupant before).1 = generation
  waited : wait occupant (role.request occupant before).2 = (guard, after)

/-- An occupant still fills the role, in a generation that it had before. -/
structure Unchanged (occupant : ι) (generation : UInt32) (state : σ) : Prop where
  occupied : role.occupant state = some occupant
  same : role.generation occupant state = generation

/-- Attempts one after the other that all missed. After each wait another occupant filled the role,
or none, or the occupant had changed its generation; its guard was given back. -/
inductive Missed : List (ι → σ → γ × σ) → σ → σ → Prop
  | none (state : σ) : Missed [] state state
  | more {wait : ι → σ → γ × σ} {waits : List (ι → σ → γ × σ)} {first after last : σ}
      {occupant : ι} {generation : UInt32} {guard : γ}
      (attempt : Attempt role wait first occupant generation guard after)
      (changed : role.occupant after ≠ some occupant ∨
        role.generation occupant after ≠ generation)
      (rest : Missed waits (role.release occupant guard after) last) :
      Missed (wait :: waits) first last

/-- How a takeover ends that starts in a state, with one wait for each attempt, after so many
others. -/
inductive Settled (waits : List (ι → σ → γ × σ)) (retries : UInt32) (first : σ) :
    Outcome ι γ → σ → Prop
  /-- Some attempts missed, and the next one found its occupant unchanged after the wait. -/
  | taken {earlier later : List (ι → σ → γ × σ)} {wait : ι → σ → γ × σ} {before last : σ}
      {occupant : ι} {generation : UInt32} {guard : γ} {counted : UInt32}
      (split : waits = earlier ++ wait :: later) (missed : Missed role earlier first before)
      (attempt : Attempt role wait before occupant generation guard last)
      (unchanged : Unchanged role occupant generation last)
      (count : counted.toNat = retries.toNat + earlier.length) :
      Settled waits retries first (.taken ⟨occupant, guard, counted⟩) last
  /-- Some attempts missed, and then nobody filled the role. -/
  | vacant {earlier later : List (ι → σ → γ × σ)} {wait : ι → σ → γ × σ} {last : σ}
      (split : waits = earlier ++ wait :: later) (missed : Missed role earlier first last)
      (empty : role.occupant last = Option.none) : Settled waits retries first .vacant last
  /-- More attempts missed than can be counted. -/
  | overflowed {earlier later : List (ι → σ → γ × σ)} {last : σ} (split : waits = earlier ++ later)
      (missed : Missed role earlier first last)
      (count : retries.toNat + earlier.length = UInt32.size) :
      Settled waits retries first .overflowed last
  /-- All attempts missed. -/
  | unsettled {last : σ} (missed : Missed role waits first last) :
      Settled waits retries first .unsettled last

variable {role}

/-- The attempt that a wait belongs to, when somebody fills the role. -/
theorem exists_attempt {first : σ} {occupant : ι} (wait : ι → σ → γ × σ)
    (occupied : role.occupant first = some occupant) :
    ∃ generation guard after, Attempt role wait first occupant generation guard after :=
  ⟨_, _, _, occupied, rfl, rfl⟩

/-- One more attempt ahead that missed. -/
theorem Settled.after_miss {wait : ι → σ → γ × σ} {waits : List (ι → σ → γ × σ)}
    {retries next : UInt32} (one : Word.next? retries = some next) {first after last : σ}
    {occupant : ι} {generation : UInt32} {guard : γ} {outcome : Outcome ι γ}
    (attempt : Attempt role wait first occupant generation guard after)
    (changed : role.occupant after ≠ some occupant ∨ role.generation occupant after ≠ generation)
    (settled : Settled role waits next (role.release occupant guard after) outcome last) :
    Settled role (wait :: waits) retries first outcome last := by
  have longer : ∀ earlier : List (ι → σ → γ × σ),
      next.toNat + earlier.length = retries.toNat + (wait :: earlier).length := by
    intro earlier
    rw [Word.toNat_of_next? one, List.length_cons]
    omega
  cases settled with
  | @taken earlier _ _ _ _ _ _ _ _ split missed next unchanged count =>
      rw [longer] at count
      exact .taken (congrArg (wait :: ·) split) (.more attempt changed missed) next unchanged count
  | @overflowed earlier _ _ split missed count =>
      rw [longer] at count
      exact .overflowed (congrArg (wait :: ·) split) (.more attempt changed missed) count
  | vacant split missed empty =>
      exact .vacant (congrArg (wait :: ·) split) (.more attempt changed missed) empty
  | unsettled missed => exact .unsettled (.more attempt changed missed)

/-- The last of attempts that all missed. -/
theorem Missed.exists_last {waits : List (ι → σ → γ × σ)} {wait : ι → σ → γ × σ} {first last : σ}
    (missed : Missed role (waits ++ [wait]) first last) :
    ∃ before occupant generation guard after,
      Attempt role wait before occupant generation guard after ∧
        (role.occupant after ≠ some occupant ∨ role.generation occupant after ≠ generation) := by
  induction waits generalizing first with
  | nil =>
      cases missed with
      | more attempt changed _ => exact ⟨_, _, _, _, _, attempt, changed⟩
  | cons _ _ ih =>
      cases missed with
      | more _ _ rest => exact ih rest

end Ends

section Guards

variable [DecidableEq γ]

/-- The guard that a takeover ends with, if it does with one. -/
def Outcome.guards : Outcome ι γ → List γ
  | .taken settled => [settled.guard]
  | .vacant | .overflowed | .unsettled => []

/-- A role on states that come with the guards held in them. -/
def Role.watched (role : Role σ ι γ) : Role (σ × List γ) ι γ where
  occupant state := role.occupant state.1
  request occupant state :=
    ((role.request occupant state.1).1, (role.request occupant state.1).2, state.2)
  generation occupant state := role.generation occupant state.1
  release occupant guard state := (role.release occupant guard state.1, state.2.erase guard)

/-- A wait on such states: its guard is held from then on. -/
def watching (wait : ι → σ → γ × σ) (occupant : ι) (state : σ × List γ) : γ × σ × List γ :=
  ((wait occupant state.1).1, (wait occupant state.1).2, (wait occupant state.1).1 :: state.2)

variable {role}

/-- An attempt is one while the guards that are held are watched. -/
theorem Attempt.watched {wait : ι → σ → γ × σ} {first after : σ} {occupant : ι}
    {generation : UInt32} {guard : γ}
    (attempted : Attempt role wait first occupant generation guard after) (held : List γ) :
    Attempt role.watched (watching wait) (first, held) occupant generation guard
      (after, guard :: held) := by
  refine ⟨attempted.occupied, attempted.asked, ?_⟩
  change watching wait occupant ((role.request occupant first).2, held) = _
  unfold watching
  rw [attempted.waited]

end Guards

section Attempts

variable [DecidableEq ι] {role : Role σ ι γ} {wait : ι → σ → γ × σ} {first after : σ}
  {occupant : ι} {generation : UInt32} {guard : γ} (waits : List (ι → σ → γ × σ)) (retries : UInt32)

/-- An occupant that is unchanged after the wait is taken. -/
theorem attempt_of_unchanged
    (attempted : Attempt role wait first occupant generation guard after)
    (unchanged : Unchanged role occupant generation after) :
    attempt role (wait :: waits) retries first = (.taken ⟨occupant, guard, retries⟩, after) := by
  rw [attempt, attempted.occupied]
  dsimp only
  rw [attempted.asked, attempted.waited]
  exact if_pos ⟨unchanged.occupied, unchanged.same⟩

/-- After a miss, the takeover starts anew, as long as the misses can be counted. -/
theorem attempt_of_changed
    (attempted : Attempt role wait first occupant generation guard after)
    (changed : ¬ Unchanged role occupant generation after) :
    attempt role (wait :: waits) retries first =
      match Word.next? retries with
      | none => (.overflowed, role.release occupant guard after)
      | some retries => attempt role waits retries (role.release occupant guard after) := by
  rw [attempt, attempted.occupied]
  dsimp only
  rw [attempted.asked, attempted.waited]
  exact if_neg fun unchanged => changed ⟨unchanged.1, unchanged.2⟩

/-- Without the same occupant in the same generation, one of both has changed. -/
theorem changed_of_not_unchanged (changed : ¬ Unchanged role occupant generation after) :
    role.occupant after ≠ some occupant ∨ role.generation occupant after ≠ generation :=
  Decidable.not_and_iff_or_not.mp fun unchanged => changed ⟨unchanged.1, unchanged.2⟩

end Attempts

variable [DecidableEq ι] (role : Role σ ι γ)

/-- **Takeovers.** However the waits change the state, a takeover ends with an occupant that is
unchanged since it was last asked, or with an empty role, or when all its attempts have missed, or
more of them than can be counted. -/
theorem settled_attempt (waits : List (ι → σ → γ × σ)) (retries : UInt32) (first : σ) :
    Settled role waits retries first (attempt role waits retries first).1
      (attempt role waits retries first).2 := by
  induction waits generalizing retries first with
  | nil => exact .unsettled (.none first)
  | cons wait waits ih =>
      cases occupied : role.occupant first with
      | none =>
          rw [attempt, occupied]
          exact .vacant (List.nil_append _).symm (.none first) occupied
      | some occupant =>
          obtain ⟨generation, guard, after, attempted⟩ :=
            exists_attempt wait occupied
          by_cases unchanged : Unchanged role occupant generation after
          · rw [attempt_of_unchanged waits retries attempted unchanged]
            exact .taken (List.nil_append _).symm (.none first) attempted unchanged rfl
          · have changed := changed_of_not_unchanged unchanged
            rw [attempt_of_changed waits retries attempted unchanged]
            cases counted : Word.next? retries with
            | none =>
                have missed := Missed.more attempted changed (.none _)
                exact .overflowed List.singleton_append.symm missed
                  (Word.next?_eq_none_iff.mp counted)
            | some next => exact .after_miss counted attempted changed (ih next _)

/-- **Guards.** Of all guards that a takeover got, it holds the one that it ends with, and no other:
none when the role was empty. -/
theorem attempt_watched [DecidableEq γ] (waits : List (ι → σ → γ × σ)) (retries : UInt32)
    (first : σ) (held : List γ) :
    attempt role.watched (waits.map watching) retries (first, held) =
      ((attempt role waits retries first).1, (attempt role waits retries first).2,
        (attempt role waits retries first).1.guards ++ held) := by
  induction waits generalizing retries first with
  | nil => rfl
  | cons wait waits ih =>
      rw [List.map_cons]
      cases occupied : role.occupant first with
      | none =>
          have empty : role.watched.occupant (first, held) = none := occupied
          rw [attempt, attempt, occupied, empty]
          rfl
      | some occupant =>
          obtain ⟨generation, guard, after, attempted⟩ :=
            exists_attempt wait occupied
          have watched := attempted.watched held
          by_cases unchanged : Unchanged role occupant generation after
          · rw [attempt_of_unchanged _ _ attempted unchanged,
              attempt_of_unchanged _ _ watched ⟨unchanged.occupied, unchanged.same⟩]
            rfl
          · have changed : ¬ Unchanged role.watched occupant generation (after, guard :: held) :=
              fun same => unchanged ⟨same.occupied, same.same⟩
            have given : role.watched.release occupant guard (after, guard :: held) =
                (role.release occupant guard after, held) :=
              congrArg (Prod.mk _) (List.erase_cons_head guard held)
            rw [attempt_of_changed _ _ attempted unchanged,
              attempt_of_changed _ _ watched changed, given]
            cases Word.next? retries with
            | none => rfl
            | some next => exact ih next _

end Takeover

/-- What the active streams and their generations are told from. -/
def Run.roles (run : Run) : Option StreamId × List StreamId × List (Bool × UInt32) :=
  (run.machine.hardware.output, run.machine.hardware.inputs,
    run.machine.streams.map fun stream => (stream.status.standby, stream.status.generation))

theorem Run.roles_stream (run : Run) (id : StreamId) :
    run.roles.2.2.getD id (true, 0) =
      ((run.machine.stream id).status.standby, (run.machine.stream id).status.generation) :=
  List.getD_map run.machine.streams default _

/-- Which stream is active is in the roles. -/
theorem Run.active_of_roles {first second : Run} (same : first.roles = second.roles)
    (direction : Direction) : first.machine.active direction = second.machine.active direction := by
  have awake : ∀ id, (first.machine.stream id).isActive = (second.machine.stream id).isActive := by
    intro id
    have status := (first.roles_stream id).symm.trans
      ((congrArg (fun roles => roles.2.2.getD id (true, 0)) same).trans (second.roles_stream id))
    exact congrArg (!·) (Prod.ext_iff.mp status).1
  have output : first.machine.hardware.output = second.machine.hardware.output :=
    congrArg Prod.fst same
  have inputs : first.machine.hardware.inputs = second.machine.hardware.inputs :=
    congrArg (fun roles => roles.2.1) same
  cases direction with
  | playback =>
      simp only [Machine.active, Machine.activePlayback, output, awake]
  | capture =>
      simp only [Machine.active, Machine.activeCapture, inputs, awake]

/-- The generations of streams are in the roles. -/
theorem Run.generation_of_roles {first second : Run} (same : first.roles = second.roles)
    (id : StreamId) : (first.machine.stream id).status.generation =
      (second.machine.stream id).status.generation := by
  have status := (first.roles_stream id).symm.trans
    ((congrArg (fun roles => roles.2.2.getD id (true, 0)) same).trans (second.roles_stream id))
  exact (Prod.ext_iff.mp status).2

namespace Act

theorem keeps_roles_changeStream (id : StreamId) {f : Stream → Stream}
    (standby : ∀ stream, (f stream).status.standby = stream.status.standby)
    (generation : ∀ stream, (f stream).status.generation = stream.status.generation) :
    Keeps Run.roles (changeStream id f) := by
  intro run
  refine Prod.ext rfl (Prod.ext rfl (map_modify_of_unseen (fun stream => ?_) _ _))
  rw [standby, generation]

theorem keeps_roles_setLocked (locked : Bool) (target : Lock) :
    Keeps Run.roles (setLocked locked target) := by
  cases target with
  | hardware => exact fun _ => rfl
  | stream id => exact keeps_roles_changeStream id (fun _ => rfl) fun _ => rfl

theorem keeps_roles_lock (target : Lock) : Keeps Run.roles (lock target) :=
  fun _ => keeps_roles_setLocked true target _

theorem keeps_roles_unlock (target : Lock) : Keeps Run.roles (unlock target) :=
  fun _ => keeps_roles_setLocked false target _

theorem keeps_roles_askForLock (id : StreamId) : Keeps Run.roles (askForLock id) :=
  keeps_roles_changeStream id (fun _ => rfl) fun _ => rfl

theorem keeps_roles_lockFor (id : StreamId) : Keeps Run.roles (lockFor id) := by
  apply (keeps_roles_lock _).bind
  intro _
  exact keeps_roles_changeStream id (fun _ => rfl) fun _ => rfl

/-- Waiting changes no role and no generation as long as nobody else acts. -/
theorem keeps_roles_waitFor (own : Option StreamId) (id : StreamId) :
    Keeps Run.roles (waitFor own (pure ()) id) := by
  apply (keeps_roles_unlock _).bind
  intro _
  cases own with
  | none =>
      apply (keeps_pure ()).bind
      intro _
      exact (keeps_roles_lockFor id).bind fun _ => keeps_roles_lock _
  | some own =>
      apply (keeps_roles_unlock _).bind
      intro _
      apply (keeps_pure ()).bind
      intro _
      apply (keeps_roles_lockFor id).bind
      intro _
      exact (keeps_roles_lock _).bind fun _ => keeps_roles_lock _

open Takeover (Attempt Unchanged)

/-- A wait in which nobody else acts leaves the occupant unchanged. -/
theorem unchanged_of_undisturbed {direction : Direction} {own : Option StreamId}
    {before after : Run} {id : StreamId} {generation : UInt32}
    (attempted : Attempt (activeRole direction) (waitFor own (pure ())) before id generation ()
      after) : Unchanged (activeRole direction) id generation after := by
  have waited : (waitFor own (pure ()) id (askForLock id before).2).2 = after :=
    congrArg Prod.snd attempted.waited
  have same : after.roles = before.roles := by
    rw [← waited, keeps_roles_waitFor own id, keeps_roles_askForLock id]
  constructor
  · exact (Run.active_of_roles same direction).trans attempted.occupied
  · exact (Run.generation_of_roles same id).trans attempted.asked

/-- A takeover of an active stream, whose last wait is undisturbed, does not stay unsettled. -/
theorem not_missed {direction : Direction} {own : Option StreamId} (others : List (Act Unit))
    (run last : Run) : ¬ Takeover.Missed (activeRole direction)
      ((others ++ [pure ()]).map (waitFor own)) run last := by
  intro missed
  rw [List.map_append, List.map_singleton] at missed
  obtain ⟨before, id, generation, _, after, attempted, changed⟩ := missed.exists_last
  have unchanged := unchanged_of_undisturbed attempted
  rcases changed with moved | aged
  · exact moved unchanged.occupied
  · exact aged unchanged.same

/-- Taking over while nobody else acts: the active stream is taken after one wait. -/
theorem takeOver_undisturbed (direction : Direction) (own : Option StreamId) (run : Run) :
    run.machine.active direction = none ∧ takeOver direction own [] run = (none, run) ∨
      ∃ id, run.machine.active direction = some id ∧ takeOver direction own [] run =
        (some ⟨id, (), 0⟩, (waitFor own (pure ()) id (askForLock id run).2).2) := by
  unfold takeOver
  dsimp only
  rw [List.nil_append, List.map_singleton]
  cases active : run.machine.active direction with
  | none =>
      have empty : (activeRole direction).occupant run = none := active
      left
      rw [Takeover.attempt, empty]
      exact ⟨rfl, rfl⟩
  | some id =>
      have occupied : (activeRole direction).occupant run = some id := active
      obtain ⟨generation, _, after, attempted⟩ :=
        Takeover.exists_attempt (waitFor own (pure ())) occupied
      have unchanged := unchanged_of_undisturbed attempted
      right
      refine ⟨id, rfl, ?_⟩
      rw [Takeover.attempt_of_unchanged _ _ attempted unchanged]
      exact congrArg (Prod.mk _) (congrArg Prod.snd attempted.waited).symm

end Act

end PhoneAudio
