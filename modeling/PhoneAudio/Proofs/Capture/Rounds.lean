import PhoneAudio.Proofs.Capture.Channels

/-!
# The rounds of a pull

A pull refills its decimator in rounds, as many as it takes (`PhoneAudio.Decimator.Gathers`). Every
round calls the source once, for at least one frame if the decimator takes in 20 frames at a time,
and brings one of the frames that are missing, at least. So every pull comes to an end after a
number of calls that depends on the frames that it asks for
(`PhoneAudio.Decimator.Sound.pullEnds`), and the bound that its rounds are given is never what ends
it.
-/

namespace PhoneAudio

/-- A call of a source: how many samples it was asked for, and what it delivered. -/
structure Source.Call where
  asked : Nat
  delivery : Delivery

/-- A source without frames. -/
def Source.silent : Source Unit := fun _ state =>
  (⟨[], .ok 0⟩, state)

namespace Decimator

open Resample

/-- How many frames the first stage has room for. -/
def room (decimator : Decimator) : Nat :=
  decimator.capacity - decimator.waiting

/-- The frames that a delivery brings that counts so many, no more than there is room for. -/
def arriving (decimator : Decimator) (got : Nat) (samples : List Int16) : List Frame :=
  Frame.ofSamples decimator.channels
    (padded (min got decimator.room * decimator.channels) samples)

variable {σ : Type} {source : Source σ} {decimator : Decimator} {state : σ}

/-- No more arrives than there is room for. -/
theorem length_arriving (positive : 0 < decimator.channels) (got : Nat) (samples : List Int16) :
    (decimator.arriving got samples).length = min got decimator.room := by
  rw [arriving, Frame.ofSamples_padded positive, Frame.length_split]

/-- The frames that arrive are the first of those that the delivery counts. -/
theorem arriving_eq_take (positive : 0 < decimator.channels) (got : Nat) (samples : List Int16) :
    decimator.arriving got samples =
      (Delivery.frameList decimator.channels ⟨samples, .ok got⟩).take decimator.room := by
  have fewer := Nat.min_le_left got decimator.room
  have all : (Delivery.frameList decimator.channels ⟨samples, .ok got⟩).length = got :=
    Delivery.length_frameList _ rfl
  rw [List.take_eq_take_min, all, Nat.min_comm, Delivery.frameList]
  dsimp only
  rw [Frame.take_split _ fewer, arriving, Frame.ofSamples_padded positive,
    ← take_padded (Nat.mul_le_mul_right _ fewer), Frame.split_take]

/-- Without room, nothing is asked for. -/
theorem refill_of_full (full : decimator.room = 0) :
    refill source decimator state = (.ok 0, decimator, state) :=
  if_pos full

/-- A failure of the source is handed on and leaves the decimator. -/
theorem refill_of_error (free : 0 < decimator.room) {samples : List Int16} {error : PcmError}
    {next : σ} (answered : source (decimator.room * decimator.channels) state =
      (⟨samples, .error error⟩, next)) :
    refill source decimator state = (.error error, decimator, next) := by
  have vacant : decimator.capacity - decimator.waiting ≠ 0 := Nat.ne_of_gt free
  rw [room] at answered
  simp only [refill, if_neg vacant, answered]

/-- A source that gives nothing leaves the decimator. -/
theorem refill_of_none (free : 0 < decimator.room) {samples : List Int16} {next : σ}
    (answered : source (decimator.room * decimator.channels) state = (⟨samples, .ok 0⟩, next)) :
    refill source decimator state = (.ok 0, decimator, next) := by
  have vacant : decimator.capacity - decimator.waiting ≠ 0 := Nat.ne_of_gt free
  rw [room] at answered
  simp only [refill, if_neg vacant, answered]

/-- What a source gives is fed to the stages. -/
theorem refill_of_some (free : 0 < decimator.room) {samples : List Int16} {got : Nat} {next : σ}
    (answered : source (decimator.room * decimator.channels) state =
      (⟨samples, .ok (got + 1)⟩, next)) :
    refill source decimator state =
      (.ok (got + 1), decimator.feed (decimator.arriving (got + 1) samples), next) := by
  have vacant : decimator.capacity - decimator.waiting ≠ 0 := Nat.ne_of_gt free
  unfold arriving
  rw [room] at answered ⊢
  simp only [refill, if_neg vacant, answered]

/-- What refilling until so many more frames are taken out comes to, in as many rounds as it takes:
the calls of the source, the frames taken out with the failure, if there was one, and the states in
the end. It is over when no more frames are lacking, or when the source gives none or fails. -/
inductive Gathers (source : Source σ) : Nat → Decimator → σ → List Source.Call →
    (List Frame × Option PcmError) × Decimator × σ → Prop
  | enough (decimator : Decimator) (state : σ) :
      Gathers source 0 decimator state [] (([], none), decimator, state)
  | crowded {wanted : Nat} {decimator : Decimator} (state : σ) (lacking : 0 < wanted)
      (full : decimator.room = 0) :
      Gathers source wanted decimator state [] (([], none), decimator, state)
  | failed {wanted : Nat} {decimator : Decimator} {state next : σ} {samples : List Int16}
      {error : PcmError} (lacking : 0 < wanted) (free : 0 < decimator.room)
      (answered : source (decimator.room * decimator.channels) state =
        (⟨samples, .error error⟩, next)) :
      Gathers source wanted decimator state
        [⟨decimator.room * decimator.channels, samples, .error error⟩]
        (([], some error), decimator, next)
  | dry {wanted : Nat} {decimator : Decimator} {state next : σ} {samples : List Int16}
      (lacking : 0 < wanted) (free : 0 < decimator.room)
      (answered : source (decimator.room * decimator.channels) state = (⟨samples, .ok 0⟩, next)) :
      Gathers source wanted decimator state
        [⟨decimator.room * decimator.channels, samples, .ok 0⟩] (([], none), decimator, next)
  | round {wanted got : Nat} {decimator fed : Decimator} {state next : σ}
      {samples : List Int16} {calls : List Source.Call} {more : List Frame}
      {failure : Option PcmError} {final : Decimator × σ} (lacking : 0 < wanted)
      (free : 0 < decimator.room)
      (answered : source (decimator.room * decimator.channels) state =
        (⟨samples, .ok (got + 1)⟩, next))
      (arrived : fed = decimator.feed (decimator.arriving (got + 1) samples))
      (rest : Gathers source (wanted - (fed.takeFinished wanted).1.length)
        (fed.takeFinished wanted).2 next calls ((more, failure), final)) :
      Gathers source wanted decimator state
        (⟨decimator.room * decimator.channels, samples, .ok (got + 1)⟩ :: calls)
        (((fed.takeFinished wanted).1 ++ more, failure), final)

/-- A bound on the rounds that is not below the number of calls ends nothing early. -/
theorem Gathers.gather_eq {wanted : Nat} {calls : List Source.Call}
    {ended : (List Frame × Option PcmError) × Decimator × σ}
    (gathers : Gathers source wanted decimator state calls ended) {rounds : Nat}
    (enough : calls.length ≤ rounds) : gather source rounds wanted decimator state = ended := by
  induction gathers generalizing rounds with
  | enough decimator state => cases rounds <;> rfl
  | crowded state lacking full =>
      cases rounds with
      | zero => rfl
      | succ rounds =>
          rw [gather, if_neg (Nat.ne_of_gt lacking), refill_of_full full]
          rfl
  | failed lacking free answered =>
      obtain ⟨rounds, rfl⟩ := Nat.exists_eq_add_of_le' enough
      rw [List.length_singleton, gather, if_neg (Nat.ne_of_gt lacking),
        refill_of_error free answered]
  | dry lacking free answered =>
      obtain ⟨rounds, rfl⟩ := Nat.exists_eq_add_of_le' enough
      rw [List.length_singleton, gather, if_neg (Nat.ne_of_gt lacking),
        refill_of_none free answered]
      rfl
  | round lacking free answered arrived rest ih =>
      cases rounds with
      | zero => exact absurd enough (Nat.not_succ_le_zero _)
      | succ rounds =>
          subst arrived
          rw [gather, if_neg (Nat.ne_of_gt lacking), refill_of_some free answered]
          simp only [ih (Nat.le_of_succ_le_succ enough)]

/-- Every call asks for one frame at least, and for no more than the decimator takes in. -/
theorem Gathers.asked {wanted : Nat} {calls : List Source.Call}
    {ended : (List Frame × Option PcmError) × Decimator × σ}
    (gathers : Gathers source wanted decimator state calls ended) :
    ∀ call ∈ calls, ∃ frames, 0 < frames ∧ frames ≤ decimator.capacity ∧
      call.asked = frames * decimator.channels := by
  have now : ∀ {decimator : Decimator}, 0 < decimator.room →
      ∃ frames, 0 < frames ∧ frames ≤ decimator.capacity ∧
        decimator.room * decimator.channels = frames * decimator.channels :=
    fun free => ⟨_, free, Nat.sub_le .., rfl⟩
  induction gathers with
  | enough | crowded => exact List.forall_mem_nil _
  | failed lacking free answered | dry lacking free answered =>
      exact List.forall_mem_singleton.mpr (now free)
  | round lacking free answered arrived rest ih =>
      subst arrived
      exact List.forall_mem_cons.mpr ⟨now free, ih⟩

/-- A decimator to a rate for a channel count, with its stages in order, that was fed some recording
and handed some frames out since it was empty. -/
structure Sound (rate : UInt32) (channels capacity : Nat) (decimator : Decimator) : Prop where
  channels_eq : decimator.channels = channels
  capacity_eq : decimator.capacity = capacity
  width : channels = 1 ∨ channels = 2
  offered : rate ∈ rates
  kinds : decimator.stages.map Prod.fst = plan rate
  serves : ∃ recording returned, decimator.Serves recording returned

namespace Sound

variable {rate : UInt32} {channels capacity : Nat}

theorem positive (sound : decimator.Sound rate channels capacity) : 0 < decimator.channels := by
  rw [sound.channels_eq]
  obtain rfl | rfl := sound.width <;> decide

/-- Feeding a sound decimator leaves it sound. -/
theorem feed (sound : decimator.Sound rate channels capacity) (frames : List Frame) :
    (decimator.feed frames).Sound rate channels capacity := by
  refine ⟨sound.channels_eq, sound.capacity_eq, sound.width, sound.offered, ?_, ?_⟩
  · exact (map_fst_pass decimator.channels decimator.stages frames).trans sound.kinds
  · obtain ⟨recording, returned, serves⟩ := sound.serves
    exact ⟨_, _, serves.feed frames⟩

/-- Taking out frames leaves it sound. -/
theorem takeFinished (sound : decimator.Sound rate channels capacity) (wanted : Nat) :
    (decimator.takeFinished wanted).2.Sound rate channels capacity := by
  refine ⟨sound.channels_eq, sound.capacity_eq, sound.width, sound.offered, sound.kinds, ?_⟩
  obtain ⟨recording, returned, serves⟩ := sound.serves
  exact ⟨_, _, serves.takeFinished wanted⟩

/-- A reset leaves it sound. -/
theorem reset (sound : decimator.Sound rate channels capacity) :
    decimator.reset.Sound rate channels capacity := by
  refine ⟨sound.channels_eq, sound.capacity_eq, sound.width, sound.offered, ?_, [], [], ?_⟩
  · rw [← sound.kinds, Decimator.reset, List.map_map]
    rfl
  · exact serves_reset decimator

/-- As long as a frame is wanted, one is missing. -/
theorem missing_pos (sound : decimator.Sound rate channels capacity) {wanted : Nat}
    (lacking : 0 < wanted) : 0 < missing decimator.stages wanted := by
  obtain ⟨recording, returned, serves⟩ := sound.serves
  exact Holds.missing_pos serves lacking

/-- The first stage halves the rate, and holds less than the 20 frames that it takes to make one. -/
theorem waiting_lt (sound : decimator.Sound rate channels capacity) : decimator.waiting < 20 := by
  obtain ⟨recording, returned, serves⟩ := sound.serves
  have kinds := sound.kinds
  have first : (plan rate).head? = some .half := by
    rw [plan_of_mem sound.offered]
    repeat' split
    all_goals rfl
  unfold waiting
  cases stages : decimator.stages with
  | nil => exact Nat.zero_lt_succ _
  | cons entry rest =>
      obtain ⟨stage, held⟩ := entry
      rw [stages] at kinds
      rw [← kinds] at first
      cases first
      have holds : Holds decimator.channels ((.half, held) :: rest) recording
          (returned ++ decimator.finished) := stages ▸ serves
      dsimp only
      rw [holds.1, List.length_drop, Stage.consumed_eq]
      simp only [Stage.spent, Stage.rounds, Stage.ahead]
      omega

/-- A decimator that takes in 20 frames at a time always has room for one. -/
theorem room_pos (sound : decimator.Sound rate channels capacity) (roomy : 20 ≤ capacity) :
    0 < decimator.room := by
  have waiting := sound.waiting_lt
  have most := sound.capacity_eq
  unfold room
  omega

end Sound

/-- A decimator that was built is sound. -/
theorem sound_toRate {rate : UInt32} {channels : UInt16} {capacity : Nat}
    (built : toRate rate channels capacity = .ok decimator) :
    decimator.Sound rate channels.toNat capacity := by
  unfold toRate at built
  by_cases offered : rates.contains rate = true
  · rw [if_neg (not_not_intro offered)] at built
    by_cases strange : channels ≠ 1 ∧ channels ≠ 2
    · rw [if_pos strange] at built
      cases built
    · rw [if_neg strange] at built
      cases built
      refine ⟨rfl, rfl, ?_, List.contains_iff_mem.mp offered, ?_, [], [], holds_nil _ _⟩
      · by_cases mono : channels = 1
        · exact .inl (congrArg UInt16.toNat mono)
        · have stereo : channels = 2 := not_not.mp fun other => strange ⟨mono, other⟩
          exact .inr (congrArg UInt16.toNat stereo)
      · rw [List.map_map]
        exact List.map_id _
  · rw [if_pos offered] at built
    cases built

/-- A decimator that was built for a rate, a channel count and a capacity, and then pulled through
any sources and reset, in any order. -/
inductive Reachable (rate : UInt32) (channels : UInt16) (capacity : Nat) : Decimator → Prop
  | built {decimator : Decimator} (built : toRate rate channels capacity = .ok decimator) :
      Reachable rate channels capacity decimator
  | pulled {decimator : Decimator} (earlier : Reachable rate channels capacity decimator)
      {σ : Type} (source : Source σ) (wanted : Nat) (state : σ) :
      Reachable rate channels capacity (through source wanted (decimator, state)).2.1
  | reset {decimator : Decimator} (earlier : Reachable rate channels capacity decimator) :
      Reachable rate channels capacity decimator.reset

section Pulls

variable {rate : UInt32} {channels capacity : Nat}

/-- More frames that are wanted are no fewer that are missing. -/
theorem missing_mono (stages : List (Stage × List Frame)) {less more : Nat} (le : less ≤ more) :
    missing stages less ≤ missing stages more := by
  induction stages with
  | nil => exact le
  | cons entry rest ih => exact inputFor_mono entry.1 entry.2.length ih

/-- The rounds that a request is given suffice: every round brings a frame that is missing. -/
theorem Sound.gathers (sound : decimator.Sound rate channels capacity) (source : Source σ)
    {rounds wanted : Nat} (enough : missing decimator.stages wanted ≤ rounds)
    (empty : 0 < wanted → decimator.finished = []) (state : σ) :
    ∃ calls, Gathers source wanted decimator state calls
        (gather source rounds wanted decimator state) ∧
      calls.length ≤ missing decimator.stages wanted := by
  induction rounds generalizing wanted decimator state with
  | zero =>
      have stopped : wanted = 0 := by
        by_contra some
        have lacking := sound.missing_pos (Nat.pos_of_ne_zero some)
        omega
      subst stopped
      exact ⟨[], .enough decimator state, Nat.zero_le _⟩
  | succ rounds ih =>
      by_cases stopped : wanted = 0
      · subst stopped
        exact ⟨[], .enough decimator state, Nat.zero_le _⟩
      have lacking := Nat.pos_of_ne_zero stopped
      have some := sound.missing_pos lacking
      by_cases full : decimator.room = 0
      · have gathers : Gathers source wanted decimator state [] _ := .crowded state lacking full
        exact ⟨[], gathers.gather_eq (Nat.zero_le (rounds + 1)) ▸ gathers, Nat.zero_le _⟩
      have free := Nat.pos_of_ne_zero full
      rcases answered : source (decimator.room * decimator.channels) state with
        ⟨⟨samples, outcome⟩, next⟩
      match outcome with
      | .error error =>
          have gathers := Gathers.failed lacking free answered
          rw [gathers.gather_eq (Nat.le_add_left 1 rounds)]
          exact ⟨_, gathers, some⟩
      | .ok 0 =>
          have gathers := Gathers.dry lacking free answered
          rw [gathers.gather_eq (Nat.le_add_left 1 rounds)]
          exact ⟨_, gathers, some⟩
      | .ok (got + 1) =>
          obtain ⟨fed, arrived⟩ :
              ∃ fed, fed = decimator.feed (decimator.arriving (got + 1) samples) := ⟨_, rfl⟩
          have made : fed.finished = (pass decimator.channels decimator.stages
              (decimator.arriving (got + 1) samples)).2 := by
            rw [arrived, feed_eq]
            dsimp only
            rw [empty lacking, List.nil_append]
          have left : wanted - (fed.takeFinished wanted).1.length =
              wanted - (pass decimator.channels decimator.stages
                (decimator.arriving (got + 1) samples)).2.length := by
            rw [Decimator.takeFinished, made, List.length_take]
            omega
          have stages : (fed.takeFinished wanted).2.stages = (pass decimator.channels
              decimator.stages (decimator.arriving (got + 1) samples)).1 := by
            rw [arrived]
            rfl
          have come : 1 ≤ (decimator.arriving (got + 1) samples).length := by
            rw [length_arriving sound.positive]
            omega
          -- Every round brings a frame, and so one of those that are missing.
          have fewer := missing_pass decimator.channels decimator.stages
            (decimator.arriving (got + 1) samples) wanted
          rw [← left, ← stages] at fewer
          obtain ⟨calls, rest, few⟩ := ih (arrived ▸ (sound.feed _).takeFinished wanted)
            (Nat.le_trans fewer (by omega))
            (fun still => List.drop_eq_nil_of_le (by rw [made]; omega)) next
          rcases ended : gather source rounds (wanted - (fed.takeFinished wanted).1.length)
            (fed.takeFinished wanted).2 next with ⟨⟨more, failure⟩, final⟩
          rw [ended] at rest
          have shorter : calls.length + 1 ≤ missing decimator.stages wanted := by omega
          have gathers := Gathers.round lacking free answered arrived rest
          rw [gathers.gather_eq (Nat.le_trans shorter enough)]
          exact ⟨_, gathers, shorter⟩

/-- What was gathered from a sound decimator leaves it sound. -/
theorem Gathers.sound {wanted : Nat} {calls : List Source.Call} {taken : List Frame}
    {failure : Option PcmError} {after : Decimator} {final : σ}
    (gathers : Gathers source wanted decimator state calls ((taken, failure), after, final))
    (sound : decimator.Sound rate channels capacity) : after.Sound rate channels capacity := by
  generalize ended : ((taken, failure), after, final) = outcome at gathers
  induction gathers generalizing taken with
  | enough | crowded | failed | dry =>
      cases ended
      exact sound
  | round lacking free answered arrived rest ih =>
      cases ended
      subst arrived
      exact ih ((sound.feed _).takeFinished _) rfl

/-- A sound decimator with room for 20 frames falls short without a failure only after a call that
gave nothing. -/
theorem Gathers.gave_nothing {wanted : Nat} {calls : List Source.Call} {taken : List Frame}
    {final : Decimator × σ}
    (gathers : Gathers source wanted decimator state calls ((taken, none), final))
    (sound : decimator.Sound rate channels capacity) (roomy : 20 ≤ capacity)
    (short : taken.length < wanted) :
    ∃ call, calls.getLast? = some call ∧ call.delivery.frames = .ok 0 := by
  generalize ended : ((taken, none), final) = outcome at gathers
  induction gathers generalizing taken with
  | enough =>
      cases ended
      exact absurd short (Nat.not_lt_zero _)
  | crowded state lacking full => exact absurd (sound.room_pos roomy) (by omega)
  | failed => cases ended
  | dry => exact ⟨_, rfl, rfl⟩
  | @round wanted got decimator fed state next samples calls more failure final lacking free
      answered arrived rest ih =>
      cases ended
      subst arrived
      rw [List.length_append] at short
      obtain ⟨call, last, nothing⟩ := ih ((sound.feed _).takeFinished _) (by omega) rfl
      refine ⟨call, ?_, nothing⟩
      rw [List.getLast?_cons, last, Option.getD_some]

/-- Frames that a pull takes out before its first round leave nothing finished that it lacks. -/
theorem finished_takeFinished (decimator : Decimator) {wanted : Nat}
    (lacking : 0 < wanted - (decimator.takeFinished wanted).1.length) :
    (decimator.takeFinished wanted).2.finished = [] := by
  rw [takeFinished, List.length_take] at lacking
  exact List.drop_eq_nil_of_le (by omega)

/-- What a pull comes to: it takes finished frames out, gathers the frames that are lacking with
these calls of the source, and delivers them all, or what it took out before the failure. -/
def Pulls (source : Source σ) (decimator : Decimator) (state : σ) (wanted : Nat)
    (calls : List Source.Call) (outcome : Delivery × Decimator × σ) : Prop :=
  let frames := wanted / decimator.channels
  let taken := (decimator.takeFinished frames).1
  ∃ more failure, Gathers source (frames - taken.length) (decimator.takeFinished frames).2 state
      calls ((more, failure), outcome.2) ∧
    outcome.1 = ⟨Frame.toSamples (taken ++ more),
      failure.elim (.ok (taken ++ more).length) .error⟩

/-- The frames that a stage lacks at most, whatever it holds. -/
theorem inputFor_le (stage : Stage) (held wanted : Nat) :
    stage.inputFor held wanted ≤ stage.inputFor 0 wanted := by
  cases stage <;> simp only [Stage.inputFor, Nat.sub_zero] <;> split <;> omega

/-- The frames that stages lack at most, whatever they hold. -/
theorem missing_le (stages : List (Stage × List Frame)) (wanted : Nat) :
    missing stages wanted ≤ missing (stages.map fun entry => (entry.1, [])) wanted := by
  induction stages with
  | nil => exact Nat.le_refl _
  | cons entry rest ih => exact Nat.le_trans (inputFor_le ..) (inputFor_mono entry.1 0 ih)

/-- The lowest rate lacks most: four frames for every frame of the interpolation, which takes 441
of them for 320. -/
theorem Sound.missing_le (sound : decimator.Sound rate channels capacity) (wanted : Nat) :
    missing decimator.stages wanted ≤ 1764 * ((wanted + 319) / 320) + 146 := by
  refine Nat.le_trans (Decimator.missing_le ..) ?_
  have blank : (decimator.stages.map fun entry => (entry.1, ([] : List Frame))) =
      (plan rate).map fun stage => (stage, []) := by
    rw [← sound.kinds, List.map_map]
    rfl
  rw [blank, plan_of_mem sound.offered]
  by_cases none : wanted = 0
  · subst none
    repeat' split
    all_goals exact Nat.zero_le _
  · repeat' split
    all_goals
      simp only [List.map_cons, List.map_nil, missing, Stage.inputFor, none, ↓reduceIte, blockIn,
        blockOut, lookahead, List.length_nil, Nat.sub_zero, Nat.add_one_sub_one,
        Nat.add_eq_zero_iff, reduceCtorEq, and_false, and_self]
      omega

/-- Every pull ends by itself, after no more calls of the source than frames were missing. -/
theorem Sound.pulls (sound : decimator.Sound rate channels capacity) (source : Source σ)
    (wanted : Nat) (state : σ) :
    ∃ calls, Pulls source decimator state wanted calls (through source wanted (decimator, state)) ∧
      calls.length ≤ missing decimator.stages (wanted / decimator.channels) := by
  simp only [Pulls, through]
  generalize wanted / decimator.channels = frames
  have drained := sound.takeFinished frames
  have fewer : missing (decimator.takeFinished frames).2.stages
      (frames - (decimator.takeFinished frames).1.length) ≤ missing decimator.stages frames :=
    missing_mono decimator.stages (Nat.sub_le ..)
  obtain ⟨calls, gathers, few⟩ := drained.gathers source (Nat.le_refl _)
    decimator.finished_takeFinished state
  exact ⟨calls, ⟨_, _, gathers, rfl⟩, Nat.le_trans few fewer⟩

/-- A pull leaves a sound decimator sound, whatever the source does. -/
theorem Sound.through (sound : decimator.Sound rate channels capacity) (source : Source σ)
    (wanted : Nat) (state : σ) :
    (through source wanted (decimator, state)).2.1.Sound rate channels capacity := by
  obtain ⟨calls, ⟨more, failure, gathers, delivered⟩, few⟩ := sound.pulls source wanted state
  exact gathers.sound (sound.takeFinished _)

/-- Every decimator that is reached is sound. -/
theorem Reachable.sound {channels : UInt16}
    (reachable : Reachable rate channels capacity decimator) :
    decimator.Sound rate channels.toNat capacity := by
  induction reachable with
  | built built => exact sound_toRate built
  | pulled earlier source wanted state ih => exact ih.through source wanted state
  | reset earlier ih => exact ih.reset

/-- How a pull ends: by itself, after a number of calls that depends on the frames that it wants,
each for one frame at least. It falls short only when the last call gave nothing. -/
structure PullEnds (source : Source σ) (decimator : Decimator) (state : σ) (wanted : Nat)
    (calls : List Source.Call) : Prop where
  pulls : Pulls source decimator state wanted calls
    (Decimator.through source wanted (decimator, state))
  few : calls.length ≤ 1764 * ((wanted / decimator.channels + 319) / 320) + 146
  asked : ∀ call ∈ calls, ∃ frames, 0 < frames ∧ frames ≤ decimator.capacity ∧
    call.asked = frames * decimator.channels
  short : ∀ got, (Decimator.through source wanted (decimator, state)).1.frames = .ok got →
    got < wanted / decimator.channels →
      ∃ call, calls.getLast? = some call ∧ call.delivery.frames = .ok 0

/-- **Pulls end**, from any source. -/
theorem Sound.pullEnds (sound : decimator.Sound rate channels capacity) (roomy : 20 ≤ capacity)
    (source : Source σ) (wanted : Nat) (state : σ) :
    ∃ calls, PullEnds source decimator state wanted calls := by
  obtain ⟨calls, pulls, few⟩ := sound.pulls source wanted state
  obtain ⟨more, failure, gathers, delivered⟩ := pulls
  have drained := sound.takeFinished (wanted / decimator.channels)
  refine ⟨calls, ⟨more, failure, gathers, delivered⟩, Nat.le_trans few (sound.missing_le _),
    gathers.asked, fun got counted less => ?_⟩
  rw [delivered] at counted
  cases failure with
  | some error => cases counted
  | none =>
      cases counted
      rw [List.length_append] at less
      exact gathers.gave_nothing drained roomy (by omega)

end Pulls

end Decimator

end PhoneAudio
