import PhoneAudio.Proofs.Capture.Reports
import PhoneAudio.Proofs.Capture.Rounds

/-!
# Sources that always give something

A source gives something if it delivers a frame, or fails, whenever it is asked for one
(`PhoneAudio.Source.Gives`). A downmix gives something if its source does, and so does a decimator
that takes in 20 frames at a time. So a read through a pipeline whose filters are that large fails
only when its source does (`PhoneAudio.Act.collect_reports_of_gives`). Over a source that neither
fails nor runs dry such a decimator delivers all that it is asked for
(`PhoneAudio.Decimator.Sound.complete`).
-/

namespace PhoneAudio

/-- In the states that it keeps to, a source that is asked for a frame delivers one or fails. -/
structure Source.Gives {σ : Type} (source : Source σ) (channels : Nat) (keeps : σ → Prop) :
    Prop where
  stays : ∀ wanted state, keeps state → keeps (source wanted state).2
  some : ∀ frames state, keeps state → 0 < frames →
    (source (frames * channels) state).1.frames ≠ .ok 0

/-- In the states that it keeps to, a source that is asked for a frame delivers one. -/
structure Source.Supplies {σ : Type} (source : Source σ) (channels : Nat) (keeps : σ → Prop) :
    Prop where
  stays : ∀ wanted state, keeps state → keeps (source wanted state).2
  some : ∀ frames state, keeps state → 0 < frames →
    ∃ got, (source (frames * channels) state).1.frames = .ok (got + 1)

variable {σ : Type} {source : Source σ} {channels : Nat} {keeps : σ → Prop}

/-- Whether a downmix, or none, gives frames with so many channels. -/
def Downmix.Feeds (channels : Nat) : Option Downmix → Prop
  | none => channels = 2
  | some downmix => channels = 1 ∧ 0 < downmix.capacity

theorem Downmix.gives_optionally (gives : source.Gives 2 keeps) :
    (Source.optionally Downmix.through source).Gives channels fun state =>
      Feeds channels state.1 ∧ keeps state.2 where
  stays := by
    rintro wanted ⟨downmix, state⟩ ⟨feeds, kept⟩
    cases downmix with
    | none => exact ⟨feeds, gives.stays wanted state kept⟩
    | some downmix => exact ⟨feeds, gives.stays (2 * min wanted downmix.capacity) state kept⟩
  some := by
    rintro frames ⟨downmix, state⟩ ⟨feeds, kept⟩ asked
    cases downmix with
    | none =>
        rw [show channels = 2 from feeds]
        exact gives.some frames state kept asked
    | some downmix =>
        obtain ⟨rfl, large⟩ := feeds
        have most : 0 < min (frames * 1) downmix.capacity := by omega
        have given := gives.some _ state kept most
        rw [Nat.mul_comm] at given
        exact given

namespace Decimator

/-- A decimator for a channel count that has room for 20 frames. -/
def Lively (channels : Nat) (decimator : Decimator) : Prop :=
  ∃ rate capacity, 20 ≤ capacity ∧ decimator.Sound rate channels capacity

theorem Lively.reset {decimator : Decimator} (lively : decimator.Lively channels) :
    decimator.reset.Lively channels := by
  obtain ⟨rate, capacity, roomy, sound⟩ := lively
  exact ⟨rate, capacity, roomy, sound.reset⟩

/-- Every call of a gathering gets something from a source that gives. -/
theorem Gathers.given {wanted : Nat} {decimator : Decimator} {state : σ}
    {calls : List Source.Call} {ended : (List Frame × Option PcmError) × Decimator × σ}
    (gathers : Gathers source wanted decimator state calls ended)
    (gives : source.Gives decimator.channels keeps) (kept : keeps state) :
    keeps ended.2.2 ∧ ∀ call ∈ calls, call.delivery.frames ≠ .ok 0 := by
  induction gathers with
  | enough | crowded => exact ⟨kept, List.forall_mem_nil _⟩
  | @failed _ decimator state _ _ _ lacking free answered =>
      have next := gives.stays (decimator.room * decimator.channels) state kept
      rw [answered] at next
      exact ⟨next, List.forall_mem_singleton.mpr nofun⟩
  | dry lacking free answered =>
      have given := gives.some _ _ kept free
      rw [answered] at given
      exact absurd rfl given
  | @round _ _ decimator _ state _ _ _ _ _ _ lacking free answered arrived rest ih =>
      subst arrived
      have next := gives.stays (decimator.room * decimator.channels) state kept
      rw [answered] at next
      obtain ⟨last, later⟩ := ih gives next
      exact ⟨last, List.forall_mem_cons.mpr ⟨nofun, later⟩⟩

/-- A decimator with room for 20 frames gives something if its source does. -/
theorem gives_through (gives : source.Gives channels keeps) :
    (through source).Gives channels fun state => state.1.Lively channels ∧ keeps state.2 where
  stays := by
    rintro wanted ⟨decimator, state⟩ ⟨⟨rate, capacity, roomy, sound⟩, kept⟩
    obtain ⟨calls, ⟨more, failure, gathers, -⟩, -⟩ := sound.pulls source wanted state
    have width : (decimator.takeFinished (wanted / decimator.channels)).2.channels = channels :=
      sound.channels_eq
    exact ⟨⟨rate, capacity, roomy, sound.through source wanted state⟩,
      (gathers.given (width ▸ gives) kept).1⟩
  some := by
    rintro frames ⟨decimator, state⟩ ⟨⟨rate, capacity, roomy, sound⟩, kept⟩ asked nothing
    obtain ⟨calls, ⟨more, failure, gathers, delivered⟩, -⟩ :=
      sound.pulls source (frames * channels) state
    have count : frames * channels / decimator.channels = frames := by
      rw [sound.channels_eq, Nat.mul_div_cancel _ (sound.channels_eq ▸ sound.positive)]
    have drained := sound.takeFinished frames
    rw [count] at gathers delivered
    rw [delivered] at nothing
    cases failure with
    | some error => cases nothing
    | none =>
        have empty : ((decimator.takeFinished frames).1 ++ more).length = 0 := by
          injection nothing
        have none := List.append_eq_nil_iff.mp (List.eq_nil_of_length_eq_zero empty)
        have short : more.length < frames - (decimator.takeFinished frames).1.length := by
          rw [none.1, none.2]
          exact asked
        -- The pull fell short, and so its last call gave nothing.
        obtain ⟨call, last, dry⟩ := gathers.gave_nothing drained roomy short
        have width : (decimator.takeFinished frames).2.channels = channels := drained.channels_eq
        exact (gathers.given (width ▸ gives) kept).2 call (List.mem_of_getLast? last) dry

/-- What is gathered from a source that gives is as much as is wanted. -/
theorem Gathers.complete {rate : UInt32} {capacity wanted : Nat} {decimator : Decimator} {state : σ}
    {calls : List Source.Call} {taken : List Frame} {failure : Option PcmError}
    {final : Decimator × σ}
    (gathers : Gathers source wanted decimator state calls ((taken, failure), final))
    (sound : decimator.Sound rate channels capacity) (roomy : 20 ≤ capacity)
    (supplies : source.Supplies channels keeps) (kept : keeps state) :
    taken.length = wanted ∧ failure = none := by
  generalize ended : ((taken, failure), final) = outcome at gathers
  induction gathers generalizing taken with
  | enough =>
      cases ended
      exact ⟨rfl, rfl⟩
  | crowded state lacking full => exact absurd (sound.room_pos roomy) (by omega)
  | failed lacking free answered | dry lacking free answered =>
      obtain ⟨got, given⟩ := supplies.some _ _ kept free
      rw [← sound.channels_eq, answered] at given
      cases given
  | @round wanted got decimator fed state next samples calls more failure last lacking free
      answered arrived rest ih =>
      cases ended
      subst arrived
      have stays := supplies.stays (decimator.room * decimator.channels) state kept
      rw [answered] at stays
      obtain ⟨length, succeeded⟩ := ih ((sound.feed _).takeFinished wanted) stays rfl
      refine ⟨?_, succeeded⟩
      have first : ((decimator.feed (decimator.arriving (got + 1) samples)).takeFinished
          wanted).1.length ≤ wanted := List.length_take_le ..
      rw [List.length_append, length, Nat.add_sub_of_le first]

/-- **Full pulls.** From a source that neither fails nor runs dry, a decimator with room for 20
frames delivers as many frames as it is asked for. -/
theorem Sound.complete {rate : UInt32} {capacity : Nat} {decimator : Decimator}
    (sound : decimator.Sound rate channels capacity) (roomy : 20 ≤ capacity)
    (supplies : source.Supplies channels keeps) {state : σ} (kept : keeps state) (wanted : Nat) :
    (Decimator.through source wanted (decimator, state)).1.frames = .ok (wanted / channels) := by
  obtain ⟨calls, ⟨more, failure, gathers, delivered⟩, -⟩ := sound.pulls source wanted state
  rw [sound.channels_eq] at gathers delivered
  obtain ⟨length, rfl⟩ := gathers.complete (sound.takeFinished _) roomy supplies kept
  have first : (decimator.takeFinished (wanted / channels)).1.length ≤ wanted / channels :=
    List.length_take_le ..
  rw [delivered, List.length_append, length, Nat.add_sub_of_le first]
  rfl

end Decimator

namespace Pipeline

/-- A pipeline whose filters give frames with so many channels, and have room for 20 frames. -/
structure Lively (channels : Nat) (pipeline : Pipeline) : Prop where
  feeds : Downmix.Feeds channels pipeline.downmix
  decimates : ∀ decimator, pipeline.decimator = some decimator → decimator.Lively channels

theorem Lively.reset {pipeline : Pipeline} (lively : pipeline.Lively channels) :
    pipeline.reset.Lively channels := by
  refine ⟨lively.feeds, fun decimator found => ?_⟩
  obtain ⟨earlier, there, rfl⟩ := Option.map_eq_some_iff.mp found
  exact (lively.decimates earlier there).reset

/-- A pipeline gives something if its source does. -/
theorem gives_through (gives : source.Gives 2 keeps) :
    (through source).Gives channels fun state =>
      state.1.Lively channels ∧ keeps state.2 := by
  have mixed : (Source.optionally Downmix.through source).Gives channels fun state =>
      Downmix.Feeds channels state.1 ∧ keeps state.2 := Downmix.gives_optionally gives
  have decimated := Decimator.gives_through mixed
  constructor
  · rintro wanted ⟨⟨downmix, decimator⟩, state⟩ ⟨lively, kept⟩
    cases decimator with
    | none =>
        obtain ⟨feeds, next⟩ := mixed.stays wanted (downmix, state) ⟨lively.feeds, kept⟩
        exact ⟨⟨feeds, nofun⟩, next⟩
    | some decimator =>
        obtain ⟨after, feeds, next⟩ := decimated.stays wanted (decimator, downmix, state)
          ⟨lively.decimates decimator rfl, lively.feeds, kept⟩
        exact ⟨⟨feeds, fun _ same => Option.some_inj.mp same ▸ after⟩, next⟩
  · rintro frames ⟨⟨downmix, decimator⟩, state⟩ ⟨lively, kept⟩ asked
    cases decimator with
    | none => exact mixed.some frames (downmix, state) ⟨lively.feeds, kept⟩ asked
    | some decimator =>
        exact decimated.some frames (decimator, downmix, state)
          ⟨lively.decimates decimator rfl, lively.feeds, kept⟩ asked

/-- A pipeline that was built with enough room never runs dry. -/
theorem lively_ofFormat {format : StreamFormat} {capacity : Nat} {pipeline : Pipeline}
    (roomy : 20 ≤ capacity) (built : ofFormat format capacity = .ok pipeline) :
    pipeline.Lively format.channels.toNat := by
  unfold ofFormat at built
  rcases mixing : downmixFor format.channels capacity with _ | downmix
  · rw [mixing] at built
    cases built
  rcases reducing : decimatorFor format.rate format.channels capacity with _ | decimator
  · rw [mixing, reducing] at built
    cases built
  rw [mixing, reducing] at built
  cases built
  refine ⟨?_, ?_⟩
  · unfold downmixFor Downmix.ofChannels at mixing
    by_cases stereo : format.channels = StreamFormat.hardware.channels
    · rw [if_pos stereo] at mixing
      cases mixing
      exact congrArg UInt16.toNat stereo
    · rw [if_neg stereo] at mixing
      by_cases mono : format.channels = 1 ∧ StreamFormat.hardware.channels = 2
      · rw [if_pos mono] at mixing
        cases mixing
        exact ⟨congrArg UInt16.toNat mono.1, Nat.lt_of_lt_of_le (Nat.succ_pos 19) roomy⟩
      · rw [if_neg mono] at mixing
        cases mixing
  · rintro filter rfl
    unfold decimatorFor at reducing
    by_cases native : format.rate = StreamFormat.hardware.rate
    · rw [if_pos native] at reducing
      cases reducing
    · rw [if_neg native] at reducing
      rcases made : Decimator.toRate format.rate format.channels capacity with _ | decimator
      · rw [made] at reducing
        cases reducing
      · rw [made] at reducing
        cases reducing
        exact ⟨_, _, roomy, Decimator.sound_toRate made⟩

end Pipeline

/-- **Collecting** from a source that always gives something fails only when the source fails, with
the same failure. -/
theorem Act.collect_reports_of_gives {meets : σ → List PcmError → σ → Prop}
    (meeting : Meeting meets) (reports : source.Reports meets) (gives : source.Gives channels keeps)
    (pulls frames : Nat) (buffer : List Int16) (state : σ) (kept : keeps state) :
    ∃ met, meets state met (collect source channels pulls frames buffer state).2 ∧
      failures (collect source channels pulls frames buffer state).1.1 = met.map .pcm := by
  have dries : ∀ frames state, keeps state → 0 < frames →
      (source (frames * channels) state).1.frames = .ok 0 → False :=
    fun frames state kept asked nothing => gives.some frames state kept asked nothing
  obtain ⟨met, moved, same | ⟨⟨⟩, -⟩⟩ := collect_reports_or_dry meeting reports channels keeps False
    gives.stays dries pulls frames buffer state kept
  exact ⟨met, moved, same⟩

end PhoneAudio
