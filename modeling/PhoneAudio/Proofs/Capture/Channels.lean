import PhoneAudio.Proofs.Capture.Streaming

/-!
# Channels of a decimator

The channels of a recording go through a decimator side by side: what a decimator makes of one of
them is what a mono decimator makes of that channel alone (`PhoneAudio.Decimator.handOut_solo`). So
a stereo decimator is two mono decimators (`PhoneAudio.Decimator.pulls_stereo`): pulled for the same
numbers of frames, all three ask their sources for the same numbers of frames and answer alike, and
the stereo samples are the mono ones in turn.
-/

namespace PhoneAudio

namespace Frame

/-- The mono frames of one channel. -/
def solo (channel : Nat) (frames : List Frame) : List Frame :=
  frames.map fun frame => [frame.getD channel 0]

/-- The samples of one channel in so many frames of interleaved samples, with silence where there
are fewer. -/
def track (channels channel count : Nat) (samples : List Int16) : List Int16 :=
  (List.range count).map fun place => samples.getD (place * channels + channel) 0

/-- The samples of two channels in turn. -/
def interleave : List Int16 → List Int16 → List Int16
  | left :: lefts, right :: rights => left :: right :: interleave lefts rights
  | _, _ => []

@[simp] theorem length_solo (channel : Nat) (frames : List Frame) :
    (solo channel frames).length = frames.length :=
  List.length_map ..

theorem solo_append (channel : Nat) (frames more : List Frame) :
    solo channel (frames ++ more) = solo channel frames ++ solo channel more :=
  List.map_append ..

theorem solo_take (channel count : Nat) (frames : List Frame) :
    solo channel (frames.take count) = (solo channel frames).take count :=
  List.map_take ..

theorem solo_drop (channel count : Nat) (frames : List Frame) :
    solo channel (frames.drop count) = (solo channel frames).drop count :=
  List.map_drop ..

/-- One sample for each frame. -/
theorem length_toSamples_solo (channel : Nat) (frames : List Frame) :
    (toSamples (solo channel frames)).length = frames.length := by
  have widths : ∀ frame ∈ solo channel frames, frame.length = 1 := by
    intro frame member
    obtain ⟨_, _, rfl⟩ := List.mem_map.mp member
    rfl
  rw [length_toSamples widths, length_solo, Nat.mul_one]

/-- Stereo frames are the samples of their two channels in turn. -/
theorem toSamples_eq_interleave {frames : List Frame}
    (widths : ∀ frame ∈ frames, frame.length = 2) :
    toSamples frames = interleave (toSamples (solo 0 frames)) (toSamples (solo 1 frames)) := by
  induction frames with
  | nil => rfl
  | cons frame frames ih =>
      have later := ih fun other member => widths other (List.mem_cons_of_mem _ member)
      match frame, widths frame (List.mem_cons_self ..) with
      | [left, right], _ => exact congrArg (left :: right :: ·) later

/-- The frames of a channel are cut from its track. -/
theorem solo_split {channels channel : Nat} (inside : channel < channels) (count : Nat)
    (samples : List Int16) :
    solo channel (split channels count samples) =
      split 1 count (track channels channel count samples) := by
  induction count generalizing samples with
  | zero => rfl
  | succ count ih =>
      have first : (samples.take channels).getD channel 0 = samples.getD channel 0 := by
        simp only [List.getD_eq_getElem?_getD, List.getElem?_take_of_lt inside]
      have rest : track channels channel (count + 1) samples =
          samples.getD channel 0 :: track channels channel count (samples.drop channels) := by
        unfold track
        rw [List.range_succ_eq_map, List.map_cons, List.map_map, Nat.zero_mul, Nat.zero_add]
        congr 1
        apply List.map_congr_left
        intro place _
        simp only [Function.comp_apply, List.getD_eq_getElem?_getD, List.getElem?_drop,
          Nat.succ_mul, Nat.add_comm, Nat.add_left_comm]
      rw [rest]
      change [(samples.take channels).getD channel 0] ::
        solo channel (split channels count (samples.drop channels)) = _
      rw [ih, first]
      rfl

end Frame

/-- Silence behind samples is not heard. -/
theorem getD_padded {count place : Nat} (inside : place < count) (samples : List Int16) :
    (padded count samples).getD place 0 = samples.getD place 0 := by
  unfold padded
  by_cases written : place < samples.length
  · have taken : place < (samples.take count).length := by
      rw [List.length_take]
      omega
    simp only [List.getD_eq_getElem?_getD, List.getElem?_append_left taken,
      List.getElem?_take_of_lt inside]
  · rw [Nat.not_lt] at written
    have behind : (samples.take count).length ≤ place := by
      rw [List.length_take]
      omega
    rw [List.getD_eq_default samples 0 written, List.getD_eq_getElem?_getD,
      List.getElem?_append_right behind, List.getElem?_replicate]
    split <;> rfl

/-- The frames that a channel's track gives are those of the channel in all samples. -/
theorem Frame.ofSamples_track {channels channel count room : Nat} (inside : channel < channels)
    (fits : count ≤ room) (samples : List Int16) :
    ofSamples 1 (padded count (track channels channel room samples)) =
      solo channel (ofSamples channels (padded (count * channels) samples)) := by
  have positive : 0 < channels := Nat.zero_lt_of_lt inside
  have whole : padded count (track channels channel room samples) =
      track channels channel count (padded (count * channels) samples) := by
    have length : (track channels channel room samples).length = room := by
      rw [track, List.length_map, List.length_range]
    rw [padded, length, Nat.sub_eq_zero_of_le fits, List.replicate_zero,
      List.append_nil, track, ← List.map_take, List.take_range, Nat.min_eq_left fits]
    apply List.map_congr_left
    intro place member
    have before : place * channels + channel < count * channels := by
      have next : (place + 1) * channels ≤ count * channels :=
        Nat.mul_le_mul_right channels (List.mem_range.mp member)
      rw [Nat.succ_mul] at next
      omega
    exact (getD_padded before samples).symm
  have counted : (track channels channel count (padded (count * channels) samples)).length =
      count := by
    rw [track, List.length_map, List.length_range]
  rw [whole, ofSamples, ofSamples_padded positive, counted, Nat.div_one, solo_split inside]

namespace Resample

/-- The one channel of the mono frames reads as the channel that they were taken of. -/
theorem sampleAt_solo (channel : Nat) (frames : List Frame) (place : Nat) :
    sampleAt (Frame.solo channel frames) 0 place = sampleAt frames channel place := by
  unfold sampleAt Frame.solo
  simp only [List.getD_eq_getElem?_getD, List.getElem?_map]
  cases frames[place]? <;> rfl

/-- **A stage does not mix channels.** -/
theorem Stage.run_solo (stage : Stage) {channels channel : Nat} (inside : channel < channels)
    (frames : List Frame) :
    stage.run 1 (Frame.solo channel frames) = Frame.solo channel (stage.run channels frames) := by
  rw [run_eq_batch, run_eq_batch, batch, batch, Frame.length_solo]
  conv_rhs => rw [Frame.solo, List.map_map]
  apply List.map_congr_left
  intro k _
  have samples : sampleAt (Frame.solo channel frames) 0 = sampleAt frames channel :=
    funext (sampleAt_solo channel frames)
  have width : channel < (List.range channels).length := by rwa [List.length_range]
  simp only [Function.comp_apply, frame, List.range_one, List.map_cons, List.map_nil, samples,
    List.getD_eq_getElem?_getD, List.getElem?_map, List.getElem?_range inside, Option.map_some,
    Option.getD_some]

end Resample

/-- Deliveries of as many samples on two channels as one. -/
def Delivery.interleave (left right : Delivery) : Delivery :=
  ⟨Frame.interleave left.samples right.samples, left.frames⟩

namespace Source

variable {σ τ : Type}

/-- A mono source that gives one channel of another source, in states that are alike: asked for as
many frames, both answer the same. -/
structure Tracks (source : Source σ) (mono : Source τ) (channels channel : Nat)
    (alike : σ → τ → Prop) : Prop where
  answer : ∀ wanted state twin, alike state twin → (mono wanted twin).1 =
    ⟨Frame.track channels channel wanted (source (wanted * channels) state).1.samples,
      (source (wanted * channels) state).1.frames⟩
  next : ∀ wanted state twin, alike state twin →
    alike (source (wanted * channels) state).2 (mono wanted twin).2

/-- One channel of a source, asked for as many frames. -/
def track (channels channel : Nat) (source : Source σ) : Source σ := fun wanted state =>
  let (delivery, state) := source (wanted * channels) state
  (⟨Frame.track channels channel wanted delivery.samples, delivery.frames⟩, state)

/-- A source with a record of what it was asked for. -/
def asked (source : Source σ) : Source (σ × List Nat) := fun wanted state =>
  let (delivery, next) := source wanted state.1
  (delivery, next, state.2 ++ [wanted])

/-- One channel of a source is asked for as many frames as the source. -/
theorem tracks_asked (channels channel : Nat) (source : Source σ) :
    source.asked.Tracks (source.track channels channel).asked channels channel
      fun state twin => state.1 = twin.1 ∧ state.2 = twin.2.map (· * channels) := by
  refine ⟨?_, ?_⟩
  · rintro wanted ⟨state, asked⟩ ⟨_, heard⟩ ⟨rfl, _⟩
    rfl
  · rintro wanted ⟨state, log⟩ ⟨_, heard⟩ ⟨rfl, same⟩
    refine ⟨rfl, ?_⟩
    change log ++ [wanted * channels] = (heard ++ [wanted]).map (· * channels)
    rw [List.map_append, show log = heard.map (· * channels) from same]
    rfl

end Source

namespace Decimator

open Resample

/-- Stages with one channel of the frames they hold. -/
def soloStages (channel : Nat) (stages : List (Stage × List Frame)) : List (Stage × List Frame) :=
  stages.map fun entry => (entry.1, Frame.solo channel entry.2)

/-- A mono decimator with one channel of the frames that a decimator holds. -/
def solo (channel : Nat) (decimator : Decimator) : Decimator :=
  { decimator with
    channels := 1
    stages := soloStages channel decimator.stages
    finished := Frame.solo channel decimator.finished }

@[simp] theorem channels_solo (channel : Nat) (decimator : Decimator) :
    (decimator.solo channel).channels = 1 :=
  rfl

@[simp] theorem capacity_solo (channel : Nat) (decimator : Decimator) :
    (decimator.solo channel).capacity = decimator.capacity :=
  rfl

@[simp] theorem stages_solo (channel : Nat) (decimator : Decimator) :
    (decimator.solo channel).stages = soloStages channel decimator.stages :=
  rfl

/-- Frames pass the first stage, and what it makes of them passes the rest. -/
theorem pass_cons (channels : Nat) (stage : Stage) (held : List Frame)
    (rest : List (Stage × List Frame)) (frames : List Frame) :
    pass channels ((stage, held) :: rest) frames =
      ((stage, (held ++ frames).drop (stage.consumed (held ++ frames).length)) ::
          (pass channels rest (stage.run channels (held ++ frames))).1,
        (pass channels rest (stage.run channels (held ++ frames))).2) :=
  rfl

/-- Stages pass one channel of frames the way they pass the frames. -/
theorem pass_solo {channels channel : Nat} (inside : channel < channels)
    (stages : List (Stage × List Frame)) (frames : List Frame) :
    pass 1 (soloStages channel stages) (Frame.solo channel frames) =
      (soloStages channel (pass channels stages frames).1,
        Frame.solo channel (pass channels stages frames).2) := by
  induction stages generalizing frames with
  | nil => rfl
  | cons entry rest ih =>
      obtain ⟨stage, held⟩ := entry
      change pass 1 ((stage, Frame.solo channel held) :: soloStages channel rest) _ = _
      rw [pass_cons, pass_cons, ← Frame.solo_append, stage.run_solo inside, ih, Frame.length_solo,
        ← Frame.solo_drop]
      rfl

/-- How many frames are missing does not depend on the channels. -/
theorem missing_solo (channel : Nat) (stages : List (Stage × List Frame)) (wanted : Nat) :
    missing (soloStages channel stages) wanted = missing stages wanted := by
  induction stages with
  | nil => rfl
  | cons entry rest ih =>
      obtain ⟨stage, held⟩ := entry
      change stage.inputFor (Frame.solo channel held).length
        (missing (soloStages channel rest) wanted) = _
      rw [Frame.length_solo, ih]
      rfl

theorem waiting_solo (channel : Nat) (decimator : Decimator) :
    (decimator.solo channel).waiting = decimator.waiting := by
  obtain ⟨rate, channels, capacity, stages, finished⟩ := decimator
  cases stages with
  | nil => rfl
  | cons entry rest => exact Frame.length_solo channel entry.2

/-- Feeding a decimator only changes its stages and what is finished. -/
theorem feed_eq (decimator : Decimator) (frames : List Frame) :
    decimator.feed frames =
      { decimator with
        stages := (pass decimator.channels decimator.stages frames).1
        finished :=
          decimator.finished ++ (pass decimator.channels decimator.stages frames).2 } :=
  rfl

/-- One channel of a decimator that was fed is that channel of the decimator, fed one channel. -/
theorem feed_solo {channel : Nat} {decimator : Decimator} (inside : channel < decimator.channels)
    (frames : List Frame) :
    (decimator.solo channel).feed (Frame.solo channel frames) =
      (decimator.feed frames).solo channel := by
  have passed := pass_solo inside decimator.stages frames
  simp only [feed_eq, solo, passed, Frame.solo_append]

/-- One channel of what is taken out is taken out of one channel. -/
theorem takeFinished_solo (channel : Nat) (decimator : Decimator) (wanted : Nat) :
    (decimator.solo channel).takeFinished wanted =
      (Frame.solo channel (decimator.takeFinished wanted).1,
        (decimator.takeFinished wanted).2.solo channel) := by
  unfold takeFinished
  rw [Frame.solo_take]
  unfold solo
  rw [Frame.solo_drop]

/-- What a request for so many frames takes out: those that are finished, and those that refills
bring. -/
def handOut {σ : Type} (source : Source σ) (frames : Nat) (decimator : Decimator) (state : σ) :
    (List Frame × Option PcmError) × Decimator × σ :=
  let (taken, decimator) := decimator.takeFinished frames
  let rest := frames - taken.length
  let ((more, failure), decimator, state) :=
    gather source (missing decimator.stages rest) rest decimator state
  ((taken ++ more, failure), decimator, state)

/-- A pull in terms of the frames that are handed out. -/
theorem through_eq {σ : Type} (source : Source σ) {frames wanted : Nat} {decimator : Decimator}
    (state : σ) (asked : wanted / decimator.channels = frames) {handed : List Frame}
    {failure : Option PcmError} {after : Decimator} {final : σ}
    (equal : handOut source frames decimator state = ((handed, failure), after, final)) :
    through source wanted (decimator, state) =
      (⟨Frame.toSamples handed, failure.elim (.ok handed.length) .error⟩, after, final) := by
  subst asked
  simp only [handOut, Prod.mk.injEq] at equal
  obtain ⟨⟨rfl, rfl⟩, rfl, rfl⟩ := equal
  rfl

section Solo

variable {σ τ : Type} {source : Source σ} {mono : Source τ} {alike : σ → τ → Prop}
  {channels channel : Nat}

/-- A refill of one channel is one channel of a refill. -/
theorem refill_solo (inside : channel < channels)
    (tracks : source.Tracks mono channels channel alike) {decimator : Decimator}
    (width : decimator.channels = channels) {state : σ} {twin : τ} (like : alike state twin)
    {answer : Except PcmError Nat} {after : Decimator} {final : σ}
    (equal : refill source decimator state = (answer, after, final)) :
    ∃ last, refill mono (decimator.solo channel) twin = (answer, after.solo channel, last) ∧
      alike final last := by
  subst width
  simp only [refill, waiting_solo, capacity_solo, channels_solo, Nat.mul_one] at equal ⊢
  by_cases room : decimator.capacity - decimator.waiting = 0
  · rw [if_pos room] at equal ⊢
    cases equal
    exact ⟨twin, rfl, like⟩
  · rw [if_neg room] at equal ⊢
    have same := tracks.answer (decimator.capacity - decimator.waiting) state twin like
    have next := tracks.next (decimator.capacity - decimator.waiting) state twin like
    generalize source _ state = come at equal same next
    generalize mono _ twin = heard at same next ⊢
    obtain ⟨⟨samples, outcome⟩, state⟩ := come
    obtain ⟨delivery, twin⟩ := heard
    cases same
    match outcome with
    | .error e =>
      cases equal
      exact ⟨twin, rfl, next⟩
    | .ok 0 =>
      cases equal
      exact ⟨twin, rfl, next⟩
    | .ok (got + 1) =>
      cases equal
      refine ⟨twin, ?_, next⟩
      rw [← feed_solo inside, ← Frame.ofSamples_track inside (Nat.min_le_right ..)]
      rfl

/-- What is gathered of one channel is one channel of what is gathered. -/
theorem gather_solo (inside : channel < channels)
    (tracks : source.Tracks mono channels channel alike) (rounds wanted : Nat)
    {decimator : Decimator} (width : decimator.channels = channels) {state : σ} {twin : τ}
    (like : alike state twin) {taken : List Frame} {failure : Option PcmError}
    {after : Decimator} {final : σ}
    (equal : gather source rounds wanted decimator state = ((taken, failure), after, final)) :
    ∃ last, gather mono rounds wanted (decimator.solo channel) twin =
        ((Frame.solo channel taken, failure), after.solo channel, last) ∧ alike final last := by
  induction rounds generalizing wanted decimator state twin taken with
  | zero =>
      cases equal
      exact ⟨twin, rfl, like⟩
  | succ rounds ih =>
      rw [gather] at equal ⊢
      by_cases stopped : wanted = 0
      · rw [if_pos stopped] at equal ⊢
        cases equal
        exact ⟨twin, rfl, like⟩
      · rw [if_neg stopped] at equal ⊢
        have kind :=
          (@refill_keeps σ source (fun _ => True) (fun _ _ _ => trivial) decimator state trivial).1
        rcases filled : refill source decimator state with ⟨answer, between, next⟩
        rw [filled] at equal kind
        obtain ⟨turn, heard, alikeNext⟩ := refill_solo inside tracks width like filled
        rw [heard]
        cases answer with
        | error e =>
            cases equal
            exact ⟨turn, rfl, alikeNext⟩
        | ok got =>
            cases got with
            | zero =>
                cases equal
                exact ⟨turn, rfl, alikeNext⟩
            | succ got =>
                have same : (between.takeFinished wanted).2.channels = channels :=
                  (channels_eq_of_reset kind).trans width
                rcases rest : gather source rounds
                    (wanted - (between.takeFinished wanted).1.length)
                    (between.takeFinished wanted).2 next with ⟨⟨more, failed⟩, last, finish⟩
                simp only [rest] at equal
                cases equal
                obtain ⟨ended, later, alikeEnd⟩ := ih _ same alikeNext rest
                refine ⟨ended, ?_, alikeEnd⟩
                simp only [takeFinished_solo, Frame.length_solo, later, Frame.solo_append]

/-- **One channel alone.** A mono decimator hands out one channel of what a decimator hands out. -/
theorem handOut_solo (inside : channel < channels)
    (tracks : source.Tracks mono channels channel alike) (frames : Nat) {decimator : Decimator}
    (width : decimator.channels = channels) {state : σ} {twin : τ} (like : alike state twin)
    {handed : List Frame} {failure : Option PcmError} {after : Decimator} {final : σ}
    (equal : handOut source frames decimator state = ((handed, failure), after, final)) :
    ∃ last, handOut mono frames (decimator.solo channel) twin =
        ((Frame.solo channel handed, failure), after.solo channel, last) ∧ alike final last := by
  have same : (decimator.takeFinished frames).2.channels = channels := width
  simp only [handOut] at equal
  rcases gathered : gather source
      (missing (decimator.takeFinished frames).2.stages
        (frames - (decimator.takeFinished frames).1.length))
      (frames - (decimator.takeFinished frames).1.length) (decimator.takeFinished frames).2 state
    with ⟨⟨more, failed⟩, late, finish⟩
  rw [gathered] at equal
  cases equal
  obtain ⟨last, heard, alikeEnd⟩ := gather_solo inside tracks _ _ same like gathered
  refine ⟨last, ?_, alikeEnd⟩
  simp only [handOut, takeFinished_solo, Frame.length_solo, stages_solo, missing_solo, heard,
    Frame.solo_append]

end Solo

/-- A decimator with stages, whose finished frames have a sample for each channel. -/
structure Whole (decimator : Decimator) : Prop where
  staged : decimator.stages ≠ []
  widths : ∀ frame ∈ decimator.finished, frame.length = decimator.channels

/-- What stages make has a sample for each channel. -/
theorem length_of_mem_pass {channels : Nat} {stages : List (Stage × List Frame)}
    (staged : stages ≠ []) (frames : List Frame) :
    ∀ frame ∈ (pass channels stages frames).2, frame.length = channels := by
  induction stages generalizing frames with
  | nil => exact absurd rfl staged
  | cons entry rest ih =>
      obtain ⟨stage, held⟩ := entry
      rw [pass_cons]
      cases rest with
      | nil =>
          intro frame member
          change frame ∈ stage.run channels (held ++ frames) at member
          rw [stage.run_eq_batch] at member
          exact Stage.length_of_mem_batch member
      | cons next rest => exact ih (List.cons_ne_nil _ _) _

theorem Whole.feed {decimator : Decimator} (whole : decimator.Whole) (frames : List Frame) :
    (decimator.feed frames).Whole := by
  refine ⟨fun none => ?_, fun frame member => ?_⟩
  · have kinds := map_fst_pass decimator.channels decimator.stages frames
    rw [show (pass decimator.channels decimator.stages frames).1 = [] from none] at kinds
    exact whole.staged (List.map_eq_nil_iff.mp kinds.symm)
  · obtain old | new := List.mem_append.mp member
    · exact whole.widths frame old
    · exact length_of_mem_pass whole.staged frames frame new

theorem Whole.takeFinished {decimator : Decimator} (whole : decimator.Whole) (wanted : Nat) :
    (decimator.takeFinished wanted).2.Whole ∧
      ∀ frame ∈ (decimator.takeFinished wanted).1, frame.length = decimator.channels :=
  ⟨⟨whole.staged, fun frame member => whole.widths frame (List.mem_of_mem_drop member)⟩,
    fun frame member => whole.widths frame (List.mem_of_mem_take member)⟩

section Whole

variable {σ : Type} (source : Source σ)

/-- A refill, whatever the source delivers, leaves a whole decimator of the same width. -/
theorem Whole.refill {decimator : Decimator} (whole : decimator.Whole) (state : σ) :
    (refill source decimator state).2.1.Whole ∧
      (refill source decimator state).2.1.channels = decimator.channels := by
  simp only [Decimator.refill]
  by_cases room : decimator.capacity - decimator.waiting = 0
  · rw [if_pos room]
    exact ⟨whole, rfl⟩
  · rw [if_neg room]
    generalize source _ state = come
    obtain ⟨⟨samples, outcome⟩, next⟩ := come
    match outcome with
    | .error e => exact ⟨whole, rfl⟩
    | .ok 0 => exact ⟨whole, rfl⟩
    | .ok (got + 1) => exact ⟨whole.feed _, rfl⟩

/-- What is gathered has a sample for each channel. -/
theorem Whole.gather (rounds wanted : Nat) {decimator : Decimator} (whole : decimator.Whole)
    (state : σ) :
    (gather source rounds wanted decimator state).2.1.Whole ∧
      (gather source rounds wanted decimator state).2.1.channels = decimator.channels ∧
      ∀ frame ∈ (gather source rounds wanted decimator state).1.1,
        frame.length = decimator.channels := by
  induction rounds generalizing wanted decimator state with
  | zero => exact ⟨whole, rfl, List.forall_mem_nil _⟩
  | succ rounds ih =>
      rw [Decimator.gather]
      split
      · exact ⟨whole, rfl, List.forall_mem_nil _⟩
      · obtain ⟨filled, width⟩ := whole.refill source state
        generalize Decimator.refill source decimator state = come at filled width ⊢
        obtain ⟨answer, between, next⟩ := come
        cases answer with
        | error e => exact ⟨filled, width, List.forall_mem_nil _⟩
        | ok got =>
            cases got with
            | zero => exact ⟨filled, width, List.forall_mem_nil _⟩
            | succ got =>
                obtain ⟨left, widths⟩ := filled.takeFinished wanted
                obtain ⟨later, same, further⟩ :=
                  ih (wanted - (between.takeFinished wanted).1.length) left next
                refine ⟨later, same.trans width, fun frame member => ?_⟩
                obtain taken | more := List.mem_append.mp member
                · exact (widths frame taken).trans width
                · exact (further frame more).trans width

theorem Whole.handOut (frames : Nat) {decimator : Decimator} (whole : decimator.Whole)
    (state : σ) :
    (handOut source frames decimator state).2.1.Whole ∧
      (handOut source frames decimator state).2.1.channels = decimator.channels ∧
      ∀ frame ∈ (handOut source frames decimator state).1.1,
        frame.length = decimator.channels := by
  obtain ⟨left, widths⟩ := whole.takeFinished frames
  obtain ⟨later, same, further⟩ := left.gather source
    (missing (decimator.takeFinished frames).2.stages
      (frames - (decimator.takeFinished frames).1.length))
    (frames - (decimator.takeFinished frames).1.length) state
  refine ⟨later, same, fun frame member => ?_⟩
  obtain taken | more := List.mem_append.mp member
  · exact widths frame taken
  · exact further frame more

end Whole

/-- Pulls for so many frames each, one after the other: what each of them delivers. -/
def pulls {σ : Type} (source : Source σ) : List Nat → Decimator × σ → List Delivery × Decimator × σ
  | [], state => ([], state)
  | frames :: rest, state =>
    let (delivery, state) := through source (frames * state.1.channels) state
    let (more, state) := pulls source rest state
    (delivery :: more, state)

/-- What pulls deliver for a stereo decimator are the deliveries for its two channels. -/
structure Paired (both left right : List Delivery) : Prop where
  samples : both = List.zipWith Delivery.interleave left right
  frames : left.map Delivery.frames = right.map Delivery.frames
  lengths : left.map (fun delivery => delivery.samples.length) =
    right.map fun delivery => delivery.samples.length

section Stereo

variable {σ τ υ : Type} {source : Source σ} {left : Source τ} {right : Source υ}
  {alike : σ → τ → Prop} {akin : σ → υ → Prop}

/-- **Stereo is two times mono.** -/
theorem Whole.pulls (first : source.Tracks left 2 0 alike) (second : source.Tracks right 2 1 akin)
    (requests : List Nat) {decimator : Decimator} (whole : decimator.Whole)
    (stereo : decimator.channels = 2) (state : σ) (twin : τ) (other : υ)
    (like : alike state twin) (kin : akin state other) :
    Paired (pulls source requests (decimator, state)).1
        (pulls left requests (decimator.solo 0, twin)).1
        (pulls right requests (decimator.solo 1, other)).1 ∧
      alike (pulls source requests (decimator, state)).2.2
        (pulls left requests (decimator.solo 0, twin)).2.2 ∧
      akin (pulls source requests (decimator, state)).2.2
        (pulls right requests (decimator.solo 1, other)).2.2 := by
  induction requests generalizing decimator state twin other with
  | nil => exact ⟨⟨rfl, rfl, rfl⟩, like, kin⟩
  | cons frames rest ih =>
      obtain ⟨later, same, widths⟩ := whole.handOut source frames state
      rcases handing : Decimator.handOut source frames decimator state with
        ⟨⟨handed, failure⟩, after, final⟩
      rw [handing] at later same widths
      rw [stereo] at same widths
      obtain ⟨last, heard, likeEnd⟩ := handOut_solo (by decide) first frames stereo like handing
      obtain ⟨end', told, kinEnd⟩ := handOut_solo (by decide) second frames stereo kin handing
      have asked : frames * decimator.channels / decimator.channels = frames := by
        rw [stereo, Nat.mul_div_cancel _ (by decide)]
      have one (channel : Nat) : frames * (decimator.solo channel).channels /
          (decimator.solo channel).channels = frames := by
        rw [channels_solo, Nat.mul_one, Nat.div_one]
      obtain ⟨⟨samples, counts, lengths⟩, ends⟩ := ih later same _ _ _ likeEnd kinEnd
      simp only [Decimator.pulls, through_eq source state asked handing,
        through_eq left twin (one 0) heard, through_eq right other (one 1) told]
      refine ⟨⟨?_, ?_, ?_⟩, ends⟩
      · rw [samples, List.zipWith_cons_cons, Delivery.interleave, Frame.length_solo,
          ← Frame.toSamples_eq_interleave widths]
      · rw [List.map_cons, List.map_cons, counts, Frame.length_solo, Frame.length_solo]
      · rw [List.map_cons, List.map_cons, lengths, Frame.length_toSamples_solo,
          Frame.length_toSamples_solo]

end Stereo

/-- A decimator is offered for mono where it is for stereo, and both begin with nothing held. -/
theorem toRate_stereo {rate : UInt32} {capacity : Nat} {stereo : Decimator}
    (built : toRate rate 2 capacity = .ok stereo) :
    stereo.channels = 2 ∧ stereo.Whole ∧
      ∀ channel, toRate rate 1 capacity = .ok (stereo.solo channel) := by
  unfold toRate at built ⊢
  by_cases offered : rates.contains rate = true
  · rw [if_neg (not_not_intro offered), if_neg (by decide)] at built
    cases built
    refine ⟨rfl, ⟨?_, nofun⟩, fun channel => ?_⟩
    · exact fun none => plan_ne_nil (List.contains_iff_mem.mp offered) (List.map_eq_nil_iff.mp none)
    · rw [if_neg (not_not_intro offered), if_neg (by decide), solo, soloStages, List.map_map]
      rfl
  · rw [if_pos offered] at built
    cases built

/-- **Stereo decimation is two mono decimations.** For every rate that is offered for stereo there
is a mono decimator that, over either channel of a source, is asked for as many frames upstream and
counts as many frames, failures included, for any pulls; and the stereo samples are those of the two
channels in turn. -/
theorem pulls_stereo {rate : UInt32} {capacity : Nat} {stereo : Decimator}
    (built : toRate rate 2 capacity = .ok stereo) {σ : Type} (source : Source σ) (state : σ)
    (requests : List Nat) :
    ∃ mono, toRate rate 1 capacity = .ok mono ∧
      let both := pulls source.asked requests (stereo, state, [])
      let left := pulls (source.track 2 0).asked requests (mono, state, [])
      let right := pulls (source.track 2 1).asked requests (mono, state, [])
      Paired both.1 left.1 right.1 ∧
        both.2.2.2 = left.2.2.2.map (· * 2) ∧ both.2.2.2 = right.2.2.2.map (· * 2) := by
  obtain ⟨channels, whole, mono⟩ := toRate_stereo built
  have same : stereo.solo 0 = stereo.solo 1 := Except.ok.inj ((mono 0).symm.trans (mono 1))
  obtain ⟨paired, like, kin⟩ := whole.pulls (source.tracks_asked 2 0) (source.tracks_asked 2 1)
    requests channels (state, []) (state, []) (state, []) ⟨rfl, rfl⟩ ⟨rfl, rfl⟩
  rw [← same] at paired kin
  exact ⟨stereo.solo 0, mono 0, paired, like.2, kin.2⟩

/-- A tone that rises on the left and falls on the right, five frames to a call, at half the rate:
the second pull meets the end of the tone. -/
theorem pulls_stereo_playing :
    let tone := (List.range 26).flatMap fun i => [Int16.ofNat (100 * i), Int16.ofNat (9000 - i)]
    toRate 22050 2 24 = .ok ⟨22050, 2, 24, [(.half, [])], []⟩ ∧
      (pulls (Source.playing 2 5) [1, 4] (⟨22050, 2, 24, [(.half, [])], []⟩, tone)).1.map
          Delivery.samples = [[950, 8994], [1150, 8992, 1350, 8990, 1551, 8988]] ∧
      ∃ mono, toRate 22050 1 24 = .ok mono ∧
        Paired (pulls (Source.playing 2 5).asked [1, 4]
            (⟨22050, 2, 24, [(.half, [])], []⟩, tone, [])).1
          (pulls ((Source.playing 2 5).track 2 0).asked [1, 4] (mono, tone, [])).1
          (pulls ((Source.playing 2 5).track 2 1).asked [1, 4] (mono, tone, [])).1 := by
  intro tone
  have built : toRate 22050 2 24 = .ok ⟨22050, 2, 24, [(.half, [])], []⟩ := by decide +kernel
  obtain ⟨mono, accepted, paired, -⟩ := pulls_stereo built (Source.playing 2 5) tone [1, 4]
  exact ⟨built, by decide +kernel, mono, accepted, paired⟩

end Decimator

end PhoneAudio
