import PhoneAudio.Bench.ScriptedSource
import PhoneAudio.Proofs.Capture.Rounds

/-!
# Pulls that fail

A pull fails with the failure of its last call. What its earlier calls delivered has arrived by then
(`PhoneAudio.Decimator.Arrives`), and the frames that the stages made of it, and those that were
finished before, were taken out for a caller who gets none of them. So nothing is lost exactly when
there were no such frames (`PhoneAudio.Decimator.Reachable.failedPull`): otherwise later pulls
miss them.
-/

namespace PhoneAudio

/-- A source that first makes deliveries that are waiting. -/
def Source.replaying {σ : Type} (source : Source σ) : Source (List Delivery × σ) :=
  fun wanted state =>
    match state with
    | (delivery :: waiting, state) => (delivery, waiting, state)
    | ([], state) =>
      let (delivery, state) := source wanted state
      (delivery, [], state)

namespace Decimator

open Resample

/-- What is held and finished once deliveries have arrived, each of which brings frames for which
there is room. -/
inductive Arrives : Decimator → List Delivery → Decimator → Prop
  | none (decimator : Decimator) : Arrives decimator [] decimator
  | next {decimator after : Decimator} {samples : List Int16} {got : Nat}
      {waiting : List Delivery} (free : 0 < decimator.room)
      (rest : Arrives (decimator.feed (decimator.arriving (got + 1) samples)) waiting after) :
      Arrives decimator (⟨samples, .ok (got + 1)⟩ :: waiting) after

variable {σ : Type} {source : Source σ} {decimator last : Decimator} {state : σ}
  {waiting : List Delivery}

/-- What arrives makes frames that do not depend on those that are finished, and makes them last. -/
theorem Arrives.makes (arrives : Arrives decimator waiting last) :
    ∃ made, last.finished = decimator.finished ++ made ∧ ∀ frames,
      Arrives { decimator with finished := frames } waiting
        { last with finished := frames ++ made } := by
  induction arrives with
  | none decimator =>
      refine ⟨[], (List.append_nil _).symm, fun frames => ?_⟩
      rw [List.append_nil]
      exact .none _
  | @next decimator last samples got waiting free rest ih =>
      obtain ⟨made, grown, other⟩ := ih
      rw [feed_eq] at grown other
      refine ⟨(pass decimator.channels decimator.stages
        (decimator.arriving (got + 1) samples)).2 ++ made, ?_, fun frames => .next free ?_⟩
      · rw [grown, List.append_assoc]
      · rw [← List.append_assoc]
        exact other _

/-- A decimator is sound once deliveries have arrived. -/
theorem Arrives.sound {rate : UInt32} {channels capacity : Nat}
    (arrives : Arrives decimator waiting last) (sound : decimator.Sound rate channels capacity) :
    last.Sound rate channels capacity := by
  induction arrives with
  | none decimator => exact sound
  | next free rest ih => exact ih (sound.feed _)

theorem Arrives.channels_eq {rate : UInt32} {channels capacity : Nat}
    (arrives : Arrives decimator waiting last) (sound : decimator.Sound rate channels capacity) :
    last.channels = decimator.channels :=
  (arrives.sound sound).channels_eq.trans sound.channels_eq.symm

/-- All that is finished is taken out as long as some of what is wanted is lacking. -/
theorem takeFinished_of_lacking {wanted : Nat}
    (lacking : 0 < wanted - (decimator.takeFinished wanted).1.length) :
    decimator.takeFinished wanted = (decimator.finished, { decimator with finished := [] }) := by
  have empty := decimator.finished_takeFinished lacking
  rw [takeFinished, List.length_take] at lacking
  unfold takeFinished at empty ⊢
  dsimp only at empty
  rw [empty, List.take_of_length_le (by omega)]

/-- Gathering only fails while something is wanted. -/
theorem Gathers.lacking {wanted : Nat} {calls : List Source.Call} {taken : List Frame}
    {error : PcmError} {final : Decimator × σ}
    (gathers : Gathers source wanted decimator state calls ((taken, some error), final)) :
    0 < wanted := by
  cases gathers <;> assumption

/-- Frames that were gathered before a failure are those that the deliveries until then made, and
they are gone. -/
theorem Gathers.arrives {wanted : Nat} {calls : List Source.Call} {taken : List Frame}
    {error : PcmError} {after : Decimator} {final : σ}
    (gathers : Gathers source wanted decimator state calls ((taken, some error), after, final))
    (empty : decimator.finished = []) :
    ∃ arrived failing last, calls = arrived ++ [failing] ∧ failing.delivery.frames = .error error ∧
      Arrives decimator (arrived.map Source.Call.delivery) last ∧ last.finished = taken ∧
      after = { last with finished := [] } := by
  generalize ended : ((taken, some error), after, final) = outcome at gathers
  induction gathers generalizing taken with
  | enough | crowded | dry => cases ended
  | @failed _ decimator =>
      cases ended
      refine ⟨[], _, _, rfl, rfl, .none _, empty, ?_⟩
      rw [← empty]
  | @round wanted got decimator fed state next samples calls more failure final lacking free
      answered come rest ih =>
      cases ended
      rw [takeFinished_of_lacking rest.lacking] at ih ⊢
      obtain ⟨arrived, failing, last, same, failed, arrives, made, left⟩ := ih rfl rfl
      obtain ⟨later, grown, earlier⟩ := arrives.makes
      rw [List.nil_append] at grown
      refine ⟨_ :: arrived, failing, { last with finished := fed.finished ++ later },
        congrArg _ same, failed, .next free ?_, ?_, left⟩
      · rw [← come]
        exact earlier fed.finished
      · rw [← made, grown]

/-- A pull that fails leaves what arrived, without the frames that are finished. -/
theorem Pulls.arrives {wanted : Nat} {calls : List Source.Call} {samples : List Int16}
    {error : PcmError} {after : Decimator} {final : σ}
    (pulls : Pulls source decimator state wanted calls (⟨samples, .error error⟩, after, final)) :
    ∃ arrived failing last, calls = arrived ++ [failing] ∧
      failing.delivery.frames = .error error ∧
      Arrives decimator (arrived.map Source.Call.delivery) last ∧
      samples = Frame.toSamples last.finished ∧ after = { last with finished := [] } := by
  obtain ⟨more, failure, gathers, delivered⟩ := pulls
  cases failure with
  | none => cases delivered
  | some other =>
      cases delivered
      have drained := takeFinished_of_lacking gathers.lacking
      rw [drained] at gathers ⊢
      obtain ⟨arrived, failing, last, rfl, failed, arrives, rfl, left⟩ := gathers.arrives rfl
      obtain ⟨made, grown, earlier⟩ := arrives.makes
      rw [List.nil_append] at grown
      refine ⟨arrived, failing, _, rfl, failed, earlier decimator.finished, ?_, left⟩
      rw [grown]

/-- A failure of a call is the failure in the end. -/
theorem Gathers.failure_eq {wanted : Nat} {calls : List Source.Call} {taken : List Frame}
    {failure : Option PcmError} {final : Decimator × σ}
    (gathers : Gathers source wanted decimator state calls ((taken, failure), final))
    {call : Source.Call} (member : call ∈ calls) {error : PcmError}
    (failed : call.delivery.frames = .error error) : failure = some error := by
  generalize ended : ((taken, failure), final) = outcome at gathers
  induction gathers generalizing taken with
  | enough | crowded => cases member
  | failed =>
      cases ended
      rw [List.mem_singleton.mp member] at failed
      cases failed
      rfl
  | dry =>
      rw [List.mem_singleton.mp member] at failed
      cases failed
  | round lacking free answered come rest ih =>
      cases ended
      obtain rfl | later := List.mem_cons.mp member
      · cases failed
      · exact ih later rfl

/-- How gathering ends is determined by its source and where it starts. -/
theorem Gathers.unique {wanted : Nat} {calls others : List Source.Call}
    {ended result : (List Frame × Option PcmError) × Decimator × σ}
    (first : Gathers source wanted decimator state calls ended)
    (second : Gathers source wanted decimator state others result) : ended = result :=
  (first.gather_eq (Nat.le_max_left ..)).symm.trans (second.gather_eq (Nat.le_max_right ..))

/-- How a pull ends is determined by its source and where it starts. -/
theorem Pulls.unique {wanted : Nat} {calls others : List Source.Call}
    {outcome result : Delivery × Decimator × σ}
    (first : Pulls source decimator state wanted calls outcome)
    (second : Pulls source decimator state wanted others result) : outcome = result := by
  obtain ⟨more, failure, gathers, delivered⟩ := first
  obtain ⟨further, other, regathers, redelivered⟩ := second
  have same := gathers.unique regathers
  simp only [Prod.mk.injEq] at same
  obtain ⟨⟨rfl, rfl⟩, left⟩ := same
  exact Prod.ext (delivered.trans redelivered.symm) left

section Replaying

variable {τ : Type} {later : Source τ} {next rest : τ}

/-- Once no delivery is waiting, the source itself is called. -/
theorem Gathers.replaying {wanted : Nat} {calls : List Source.Call}
    {answer : List Frame × Option PcmError} {left : Decimator}
    (gathers : Gathers later wanted decimator next calls (answer, left, rest)) :
    Gathers later.replaying wanted decimator ([], next) calls (answer, left, [], rest) := by
  generalize ended : (answer, left, rest) = outcome at gathers
  have same {wanted : Nat} {state next : τ} {delivery : Delivery}
      (answered : later wanted state = (delivery, next)) :
      later.replaying wanted ([], state) = (delivery, [], next) := by
    simp only [Source.replaying, answered]
  induction gathers generalizing answer with
  | enough =>
      cases ended
      exact .enough _ _
  | crowded state lacking full =>
      cases ended
      exact .crowded _ lacking full
  | failed lacking free answered =>
      cases ended
      exact .failed lacking free (same answered)
  | dry lacking free answered =>
      cases ended
      exact .dry lacking free (same answered)
  | round lacking free answered come rest ih =>
      cases ended
      exact .round lacking free (same answered) come (ih rfl)

/-- Frames that are finished before others are taken out before them. -/
theorem takeFinished_append {wanted : Nat} (decimator : Decimator) {front : List Frame}
    (short : front.length ≤ wanted) :
    ({ decimator with finished := front ++ decimator.finished } : Decimator).takeFinished wanted =
      (front ++ (decimator.takeFinished (wanted - front.length)).1,
        (decimator.takeFinished (wanted - front.length)).2) := by
  simp only [takeFinished, List.take_append, List.drop_append, List.take_of_length_le short,
    List.drop_of_length_le short, List.nil_append]

/-- A pull takes the same frames out whether deliveries have arrived or are still waiting. -/
theorem Arrives.gathers (arrives : Arrives decimator waiting last) {frames : Nat}
    {calls : List Source.Call} {more : List Frame} {failure : Option PcmError} {left : Decimator}
    (gathers : Gathers later (frames - (last.takeFinished frames).1.length)
      (last.takeFinished frames).2 next calls ((more, failure), left, rest)) :
    ∃ others further pending still,
      Gathers later.replaying (frames - (decimator.takeFinished frames).1.length)
        (decimator.takeFinished frames).2 (waiting, next) others
        ((further, failure), pending, still, rest) ∧
      (decimator.takeFinished frames).1 ++ further = (last.takeFinished frames).1 ++ more ∧
      Arrives pending still left := by
  induction arrives with
  | none decimator => exact ⟨_, _, _, _, gathers.replaying, rfl, .none _⟩
  | @next decimator last samples got waiting free arrives ih =>
      by_cases plenty : frames ≤ decimator.finished.length
      · obtain ⟨made, grown, other⟩ := (Arrives.next free arrives).makes
        have taken : (last.takeFinished frames).1 = (decimator.takeFinished frames).1 := by
          simp only [takeFinished, grown, List.take_append_of_le_length plenty]
        have kept : (last.takeFinished frames).2 =
            { last with finished := decimator.finished.drop frames ++ made } := by
          simp only [takeFinished, grown, List.drop_append_of_le_length plenty]
        have served : frames - (decimator.takeFinished frames).1.length = 0 := by
          rw [takeFinished, List.length_take]
          omega
        rw [taken, kept, served] at gathers
        rw [taken, served]
        have ended := gathers.unique (.enough _ _)
        cases ended
        exact ⟨_, _, _, _, .enough _ _, rfl, other _⟩
      · obtain ⟨others, further, pending, still, regathers, same, later⟩ := ih gathers
        have lacking : 0 < frames - (decimator.takeFinished frames).1.length := by
          rw [takeFinished, List.length_take]
          omega
        -- The round feeds the decimator once its finished frames were taken out.
        obtain ⟨fed, come⟩ : ∃ fed, fed = Decimator.feed { decimator with finished := [] }
          (decimator.arriving (got + 1) samples) := ⟨_, rfl⟩
        have behind : decimator.feed (decimator.arriving (got + 1) samples) =
            { fed with finished := decimator.finished ++ fed.finished } := by
          rw [come]
          rfl
        rw [behind, fed.takeFinished_append (Nat.le_of_not_le plenty)] at regathers same
        rw [List.length_append, ← Nat.sub_sub] at regathers
        rw [List.append_assoc] at same
        have drained := takeFinished_of_lacking lacking
        rw [drained] at lacking ⊢
        exact ⟨_, _, _, _, .round lacking free rfl come regathers, same, later⟩

/-- A pull delivers the same whether deliveries have arrived or are still waiting, and so do those
after it. -/
theorem Arrives.through {rate : UInt32} {channels capacity : Nat}
    (arrives : Arrives decimator waiting last) (sound : decimator.Sound rate channels capacity)
    (later : Source τ) (wanted : Nat) (next : τ) :
    ∃ pending still, through later.replaying wanted (decimator, waiting, next) =
        ((through later wanted (last, next)).1, pending, still,
          (through later wanted (last, next)).2.2) ∧
      Arrives pending still (through later wanted (last, next)).2.1 := by
  obtain ⟨calls, pulls, -⟩ := (arrives.sound sound).pulls later wanted next
  obtain ⟨used, repulls, -⟩ := sound.pulls later.replaying wanted (waiting, next)
  generalize Decimator.through later wanted (last, next) = outcome at pulls ⊢
  obtain ⟨more, failure, gathers, delivered⟩ := pulls
  rw [arrives.channels_eq sound] at gathers delivered
  obtain ⟨others, further, pending, still, regathers, same, left⟩ := arrives.gathers gathers
  rw [← same] at delivered
  exact ⟨pending, still, repulls.unique ⟨further, failure, regathers, delivered⟩, left⟩

/-- Pulls deliver the same whether deliveries have arrived or are still waiting. -/
theorem Arrives.pulls {rate : UInt32} {channels capacity : Nat}
    (arrives : Arrives decimator waiting last) (sound : decimator.Sound rate channels capacity)
    (later : Source τ) (next : τ) (requests : List Nat) :
    (pulls later requests (last, next)).1 =
      (pulls later.replaying requests (decimator, waiting, next)).1 := by
  induction requests generalizing decimator waiting last next with
  | nil => rfl
  | cons frames requests ih =>
      obtain ⟨pending, still, equal, left⟩ :=
        arrives.through sound later (frames * last.channels) next
      have pulled := sound.through later.replaying (frames * last.channels) (waiting, next)
      rw [equal] at pulled
      rw [Decimator.pulls, Decimator.pulls, ← arrives.channels_eq sound, equal]
      exact congrArg _ (ih left pulled _)

end Replaying

/-- Later pulls, through any source, deliver what they would have delivered without a pull that
received these deliveries, had the deliveries come to the later pulls instead. -/
def LosesNothing (decimator after : Decimator) (arrived : List Delivery) : Prop :=
  ∀ {τ : Type} (later : Source τ) (next : τ) (requests : List Nat),
    (pulls later requests (after, next)).1 =
      (pulls later.replaying requests (decimator, arrived, next)).1

/-- What a pull comes to in which a call failed: it fails with the failure of that call, its last.
The frames that were finished are lost, and later pulls deliver what is to come after them. -/
structure FailedPull (source : Source σ) (decimator : Decimator) (state : σ) (wanted : Nat)
    (arrived : List Source.Call) (error : PcmError) (lost : List Frame) : Prop where
  reported : (through source wanted (decimator, state)).1 = ⟨Frame.toSamples lost, .error error⟩
  counted : ∀ call ∈ arrived, ∃ got, call.delivery.frames = .ok (got + 1)
  nothing : (through source wanted (decimator, state)).2.1.finished = []
  missed : LosesNothing decimator
    { (through source wanted (decimator, state)).2.1 with finished := lost }
    (arrived.map Source.Call.delivery)
  lossless : LosesNothing decimator (through source wanted (decimator, state)).2.1
    (arrived.map Source.Call.delivery) ↔ lost = []

/-- What has arrived was counted, and was something. -/
theorem Arrives.counted (arrives : Arrives decimator waiting last) :
    ∀ delivery ∈ waiting, ∃ got, delivery.frames = .ok (got + 1) := by
  induction arrives with
  | none decimator => exact List.forall_mem_nil _
  | next free rest ih => exact List.forall_mem_cons.mpr ⟨⟨_, rfl⟩, ih⟩

/-- Nothing is gathered from a source that has nothing. -/
theorem Gathers.of_silent {wanted : Nat} {state : Unit} {calls : List Source.Call}
    {more : List Frame} {failure : Option PcmError} {final : Decimator × Unit}
    (gathers : Gathers .silent wanted decimator state calls ((more, failure), final)) :
    more = [] ∧ failure = none := by
  cases gathers with
  | enough | crowded | dry => exact ⟨rfl, rfl⟩
  | failed lacking free answered | round lacking free answered => cases answered

section Sound

variable {rate : UInt32} {channels capacity : Nat}

/-- A source without frames leaves only those that are finished. -/
theorem Sound.pulls_silent (sound : decimator.Sound rate channels capacity) (frames : Nat) :
    (Decimator.pulls .silent [frames] (decimator, ())).1 =
      [⟨Frame.toSamples (decimator.finished.take frames),
        .ok (decimator.finished.take frames).length⟩] := by
  obtain ⟨calls, ⟨more, failure, gathers, delivered⟩, -⟩ :=
    sound.pulls .silent (frames * decimator.channels) ()
  obtain ⟨rfl, rfl⟩ := gathers.of_silent
  rw [Nat.mul_div_cancel _ sound.positive, List.append_nil] at delivered
  exact congrArg (· :: []) delivered

/-- Finished frames that a decimator does without are lost for good. -/
theorem Sound.finished_eq_nil (sound : last.Sound rate channels capacity)
    (kept : LosesNothing decimator last waiting)
    (dropped : LosesNothing decimator { last with finished := [] } waiting) :
    last.finished = [] := by
  have same := (kept .silent () [1]).trans (dropped .silent () [1]).symm
  have bare := sound.takeFinished last.finished.length
  rw [Decimator.takeFinished, List.drop_length] at bare
  rw [sound.pulls_silent, bare.pulls_silent, List.take_nil] at same
  have counted := congrArg Delivery.frames (List.head_eq_of_cons_eq same)
  rw [Except.ok.injEq, List.length_take, List.length_nil] at counted
  exact List.eq_nil_of_length_eq_zero (by omega)

/-- **A pull that fails** loses the frames that are finished, and nothing else. -/
theorem Sound.pull_fails (sound : decimator.Sound rate channels capacity) {wanted : Nat}
    {calls : List Source.Call} (pulls : Pulls source decimator state wanted calls
      (Decimator.through source wanted (decimator, state)))
    {call : Source.Call} (member : call ∈ calls) {error : PcmError}
    (failed : call.delivery.frames = .error error) :
    ∃ arrived lost, calls = arrived ++ [call] ∧
      FailedPull source decimator state wanted arrived error lost := by
  rcases ended : Decimator.through source wanted (decimator, state) with
    ⟨⟨samples, outcome⟩, after, final⟩
  rw [ended] at pulls
  have reported : outcome = .error error := by
    obtain ⟨more, failure, gathers, delivered⟩ := pulls
    rw [gathers.failure_eq member failed] at delivered
    cases delivered
    rfl
  subst reported
  obtain ⟨arrived, failing, last, rfl, failure, arrives, rfl, rfl⟩ := pulls.arrives
  have counted (call : Source.Call) (member : call ∈ arrived) :
      ∃ got, call.delivery.frames = .ok (got + 1) :=
    arrives.counted _ (List.mem_map_of_mem member)
  have same : call = failing := by
    obtain earlier | now := List.mem_append.mp member
    · obtain ⟨got, some⟩ := counted call earlier
      rw [some] at failed
      cases failed
    · exact List.mem_singleton.mp now
  subst same
  have kept : LosesNothing decimator last (arrived.map Source.Call.delivery) :=
    fun later next requests => arrives.pulls sound later next requests
  refine ⟨arrived, last.finished, rfl, ?_⟩
  constructor
  · rw [ended]
  · exact counted
  · rw [ended]
  · rw [ended]
    exact kept
  · rw [ended]
    refine ⟨fun dropped => (arrives.sound sound).finished_eq_nil kept dropped, fun none => ?_⟩
    rw [none.symm]
    exact kept

end Sound

/-- A pull that reports a failure was made of calls one of which failed. -/
theorem Pulls.exists_failure {wanted : Nat} {calls : List Source.Call}
    {outcome : Delivery × Decimator × σ} (pulls : Pulls source decimator state wanted calls outcome)
    {error : PcmError} (reported : outcome.1.frames = .error error) :
    ∃ call ∈ calls, call.delivery.frames = .error error := by
  obtain ⟨⟨samples, frames⟩, after, final⟩ := outcome
  cases reported
  obtain ⟨arrived, failing, last, rfl, failed, -⟩ := pulls.arrives
  exact ⟨failing, List.mem_append_right _ (List.mem_singleton_self _), failed⟩

/-- **Pulls that fail** report the failure of their last call. Nothing is lost exactly when no
frames were finished before, and none are made of what arrived. -/
theorem Reachable.failedPull {rate : UInt32} {channels : UInt16} {capacity : Nat}
    (reachable : Reachable rate channels capacity decimator) (source : Source σ) (wanted : Nat)
    (state : σ) :
    ∃ calls, Pulls source decimator state wanted calls (through source wanted (decimator, state)) ∧
      ∀ call ∈ calls, ∀ error, call.delivery.frames = .error error →
        ∃ arrived lost, calls = arrived ++ [call] ∧
          FailedPull source decimator state wanted arrived error lost := by
  obtain ⟨calls, pulls, -⟩ := reachable.sound.pulls source wanted state
  exact ⟨calls, pulls, fun call member error failed =>
    reachable.sound.pull_fails pulls member failed⟩

/-- A ramp that comes 24 samples at a time, and whose second call fails. -/
def ramp : Bench.ScriptedSource where
  channels := 1
  limits := [24]
  failures := [(1, .disconnected)]
  samples := (List.range 80).map fun i => Int16.ofNat (100 * i)

/-- Three samples at half the rate were made of the first call, and one was asked for. -/
def halfway : Delivery × Decimator × Bench.ScriptedSource :=
  through Bench.ScriptedSource.pull 1 (⟨22050, 1, 1024, [(.half, [])], []⟩, ramp)

theorem reachable_halfway : Reachable 22050 1 1024 halfway.2.1 :=
  .pulled (.built (by decide +kernel)) Bench.ScriptedSource.pull 1 ramp

theorem reported_halfway :
    (through Bench.ScriptedSource.pull 3 halfway.2).1.frames = .error .disconnected := by
  decide +kernel

/-- The other two are lost when the second call fails. -/
theorem Reachable.failedPull_halfway :
    (through Bench.ScriptedSource.pull 3 halfway.2).1.samples = [1150, 1350] ∧
      ∃ calls, Pulls Bench.ScriptedSource.pull halfway.2.1 halfway.2.2 3 calls
          (through Bench.ScriptedSource.pull 3 halfway.2) ∧
        ∃ call ∈ calls, call.delivery.frames = .error .disconnected ∧
          ∃ arrived lost, calls = arrived ++ [call] ∧
            FailedPull Bench.ScriptedSource.pull halfway.2.1 halfway.2.2 3 arrived .disconnected
              lost := by
  obtain ⟨calls, pulls, fails⟩ :=
    reachable_halfway.failedPull Bench.ScriptedSource.pull 3 halfway.2.2
  obtain ⟨call, member, failed⟩ := pulls.exists_failure reported_halfway
  exact ⟨by decide +kernel, calls, pulls, call, member, failed, fails call member _ failed⟩

/-- A pull that fails can lose frames. -/
theorem not_losesNothing :
    ¬ ∀ {rate : UInt32} {channels : UInt16} {capacity : Nat} {decimator : Decimator},
      Reachable rate channels capacity decimator →
        ∀ {σ : Type} (source : Source σ) (state : σ) (wanted : Nat) (arrived : List Source.Call)
          (call : Source.Call) (error : PcmError),
          Pulls source decimator state wanted (arrived ++ [call])
              (through source wanted (decimator, state)) →
            call.delivery.frames = .error error →
              LosesNothing decimator (through source wanted (decimator, state)).2.1
                (arrived.map Source.Call.delivery) := by
  intro lossless
  obtain ⟨calls, pulls, -⟩ :=
    reachable_halfway.sound.pulls Bench.ScriptedSource.pull 3 halfway.2.2
  obtain ⟨call, member, failed⟩ := pulls.exists_failure reported_halfway
  obtain ⟨arrived, lost, rfl, failure⟩ :=
    reachable_halfway.sound.pull_fails pulls member failed
  have none := failure.lossless.mp
    (lossless reachable_halfway _ _ _ _ _ _ pulls failed)
  have taken : (through Bench.ScriptedSource.pull 3 (halfway.2.1, halfway.2.2)).1.samples =
      [1150, 1350] := by decide +kernel
  rw [failure.reported, none] at taken
  cases taken

end Decimator

end PhoneAudio
