import PhoneAudio.Proofs.Capture.Decimation

/-!
# Streaming through a capture pipeline

A pipeline's caller reads pieces of a recording that arrives in other pieces. What the caller reads
since the pipeline was built or last reset is the beginning of what the pipeline's filters make of
the whole recording at once (`PhoneAudio.Pipeline.batch`), and all of it as soon as a decimator
answers short (`PhoneAudio.Pipeline.pullAll_eq_batch`). So neither the sizes of the reads nor those
of the deliveries matter to the frames (`PhoneAudio.Pipeline.comparable_of_captured`).
-/

namespace PhoneAudio

namespace Source

variable {σ : Type}

/-- A source that counts frames of so many channels, no more than were asked for, and has written
those that it counts. -/
structure Truthful (source : Source σ) (channels : Nat) : Prop where
  within : ∀ wanted state got, (source wanted state).1.frames = .ok got → got * channels ≤ wanted
  written : ∀ wanted state got, (source wanted state).1.frames = .ok got →
    got * channels ≤ (source wanted state).1.samples.length

/-- A source that plays samples, at most so many frames of them in a call. -/
def playing (channels most : Nat) : Source (List Int16) := fun wanted samples =>
  let count := min most (min (wanted / channels) (samples.length / channels))
  (⟨samples.take (count * channels), .ok count⟩, samples.drop (count * channels))

/-- Playing samples is truthful. -/
theorem truthful_playing (channels most : Nat) : (playing channels most).Truthful channels := by
  refine ⟨?_, ?_⟩
  · rintro wanted samples _ ⟨⟩
    exact Nat.le_trans (Nat.mul_le_mul_right channels
      (Nat.le_trans (Nat.min_le_right ..) (Nat.min_le_left ..))) (Nat.div_mul_le_self ..)
  · rintro wanted samples _ ⟨⟩
    have enough := Nat.le_trans (Nat.mul_le_mul_right channels
      (Nat.le_trans (Nat.min_le_right most _) (Nat.min_le_right (wanted / channels) _)))
      (Nat.div_mul_le_self samples.length channels)
    exact Nat.le_of_eq (List.length_take_of_le enough).symm

/-- The source with a record of the frames that it delivered. -/
def recorded (channels : Nat) (source : Source σ) : Source (σ × List Frame) := fun wanted state =>
  let (delivery, next) := source wanted state.1
  (delivery, next, state.2 ++ delivery.frameList channels)

/-- Recording what a source delivers leaves it truthful. -/
theorem Truthful.recorded {source : Source σ} {channels : Nat}
    (truthful : source.Truthful channels) : (source.recorded channels).Truthful channels :=
  ⟨fun wanted state => truthful.within wanted state.1,
    fun wanted state => truthful.written wanted state.1⟩

/-- The record grows by what the source delivers. -/
theorem Truthful.appends_recorded {source : Source σ} {channels : Nat}
    (truthful : source.Truthful channels) :
    (source.recorded channels).Appends channels (fun _ => True) Prod.snd :=
  ⟨fun _ _ _ => trivial, fun wanted state got _ => truthful.within wanted state.1 got,
    fun wanted state got _ => truthful.written wanted state.1 got, fun _ _ _ => rfl⟩

end Source

namespace Downmix

variable {σ : Type}

/-- The mono frame of a stereo frame. -/
def frame (stereo : Frame) : Frame :=
  [mean (stereo.getD 0 0) (stereo.getD 1 0)]

/-- The mono samples of so many pairs, as many as there are pairs and frame by frame. -/
theorem split_mix (count : Nat) (samples : List Int16) (pairs : samples.length = 2 * count) :
    (mix samples).length = count ∧
      Frame.split 1 count (mix samples) = (Frame.split 2 count samples).map frame := by
  induction count generalizing samples with
  | zero =>
      rw [List.eq_nil_of_length_eq_zero pairs]
      exact ⟨rfl, rfl⟩
  | succ count ih =>
      match samples, pairs with
      | left :: right :: rest, pairs =>
        simp only [List.length_cons] at pairs
        obtain ⟨length, later⟩ := ih rest (by omega)
        exact ⟨congrArg Nat.succ length, congrArg ([mean left right] :: ·) later⟩
      | [_], pairs => simp only [List.length_singleton] at pairs; omega

/-- The mono frames that a downmix counts are written. -/
theorem le_length_through {source : Source σ} (truthful : source.Truthful 2) {wanted got : Nat}
    {downmix : Downmix} {state : σ}
    (counted : (through source wanted (downmix, state)).1.frames = .ok got) :
    got ≤ (through source wanted (downmix, state)).1.samples.length := by
  have within := truthful.within (2 * min wanted downmix.capacity) state
  simp only [through] at counted ⊢
  generalize source (2 * min wanted downmix.capacity) state = delivered at counted within ⊢
  obtain ⟨⟨samples, outcome⟩, next⟩ := delivered
  cases counted
  have fits : got ≤ min wanted downmix.capacity := by
    have bound := within got rfl
    omega
  have pairs := length_padded (2 * min got (min wanted downmix.capacity))
    ((Delivery.mk samples (.ok got)).fill downmix.buffer)
  rw [(split_mix _ _ pairs).1, Nat.min_eq_left fits]

/-- The mono frames that a delivery counts are those of the stereo frames that it mixes. -/
theorem frameList_through {source : Source σ} (truthful : source.Truthful 2) (wanted : Nat)
    (downmix : Downmix) (state : σ) :
    (through source wanted (downmix, state)).1.frameList 1 =
      ((source (2 * min wanted downmix.capacity) state).1.frameList 2).map frame := by
  have within := truthful.within (2 * min wanted downmix.capacity) state
  have written := truthful.written (2 * min wanted downmix.capacity) state
  simp only [through]
  generalize source (2 * min wanted downmix.capacity) state = delivered at within written ⊢
  obtain ⟨⟨samples, outcome⟩, next⟩ := delivered
  match outcome with
  | .error e => rfl
  | .ok got =>
    have fits : got ≤ min wanted downmix.capacity := by
      have bound := within got rfl
      omega
    have enough : got * 2 ≤ samples.length := written got rfl
    have read : padded (2 * got) (samples ++ downmix.buffer.drop samples.length) =
        padded (got * 2) samples := by
      have whole : 2 * got ≤ (samples ++ downmix.buffer.drop samples.length).length := by
        rw [List.length_append]
        omega
      rw [padded, padded, Nat.sub_eq_zero_of_le whole, Nat.sub_eq_zero_of_le enough,
        List.take_append_of_le_length (by omega), Nat.mul_comm]
    have pairs : (padded (got * 2) samples).length = 2 * got := by
      rw [length_padded, Nat.mul_comm]
    obtain ⟨length, split⟩ := split_mix got _ pairs
    have kept := padded_length (mix (padded (got * 2) samples))
    rw [length] at kept
    simp only [Delivery.frameList, Delivery.fill, Nat.min_eq_left fits, read, Nat.mul_one, kept]
    exact split

end Downmix

namespace Decimator

open Resample

/-- The stages of the rates that are offered: one or two halvings, with the interpolation behind
them where the rate is no part of the codec's. -/
theorem plan_of_mem {rate : UInt32} (offered : rate ∈ rates) :
    plan rate = if rate = 22050 then [.half] else if rate = 16000 then [.half, .ratio]
      else if rate = 11025 then [.half, .half] else [.half, .half, .ratio] := by
  simp only [rates, List.mem_cons, List.not_mem_nil, or_false] at offered
  rcases offered with rfl | rfl | rfl | rfl <;> decide +kernel

/-- The stages bring frames from the codec's rate to the one that is offered. -/
theorem foldl_rateAfter_plan {rate : UInt32} (offered : rate ∈ rates) :
    (plan rate).foldl (fun before stage => stage.rateAfter before) 44100 = rate.toNat := by
  simp only [rates, List.mem_cons, List.not_mem_nil, or_false] at offered
  rcases offered with rfl | rfl | rfl | rfl <;> decide +kernel

theorem plan_ne_nil {rate : UInt32} (offered : rate ∈ rates) : plan rate ≠ [] := by
  rw [plan_of_mem offered]
  repeat' split
  all_goals exact List.cons_ne_nil _ _

/-- The codec's own rate needs no decimator. -/
theorem ne_hardware_of_mem {rate : UInt32} (offered : rate ∈ rates) :
    rate ≠ StreamFormat.hardware.rate := by
  rintro rfl
  exact absurd offered (by decide)

/-- What was handed out is the beginning of what the stages make of all that was fed. -/
theorem Serves.prefix_cascade {decimator : Decimator} {recording returned : List Frame}
    (serves : decimator.Serves recording returned) :
    returned <+: cascade decimator.channels (decimator.stages.map Prod.fst) recording :=
  ⟨decimator.finished, Holds.made_eq serves⟩

/-- Once nothing is finished, all that the stages make of the recording was returned. -/
theorem Serves.eq_cascade {decimator : Decimator} {recording returned : List Frame}
    (serves : decimator.Serves recording returned) (empty : decimator.finished = []) :
    returned = cascade decimator.channels (decimator.stages.map Prod.fst) recording := by
  have made := Holds.made_eq serves
  rwa [empty, List.append_nil] at made

end Decimator

namespace Pipeline

variable {σ : Type}

/-- The frames that a format's decimator is fed: mono ones, if the format is mono. -/
def mixed (format : StreamFormat) (captured : List Frame) : List Frame :=
  if format.channels = 1 then captured.map Downmix.frame else captured

/-- What a pipeline makes of a whole recording. -/
def batch (format : StreamFormat) (captured : List Frame) : List Frame :=
  if format.rate = StreamFormat.hardware.rate then mixed format captured
  else
    Decimator.cascade format.channels.toNat (Decimator.plan format.rate) (mixed format captured)

/-- A pipeline with the filters that a format needs. -/
structure Fits (pipeline : Pipeline) (format : StreamFormat) : Prop where
  width : format.channels = 1 ∨ format.channels = 2
  mixes : pipeline.downmix.isSome ↔ format.channels = 1
  native : pipeline.decimator = none → format.rate = StreamFormat.hardware.rate
  decimates : ∀ decimator, pipeline.decimator = some decimator →
    format.rate ∈ Decimator.rates ∧ decimator.channels = format.channels.toNat ∧
      decimator.stages.map Prod.fst = Decimator.plan format.rate

/-- Mono is downmixed from stereo, and stereo is left alone. -/
theorem downmixFor_cases {channels : UInt16} {capacity : Nat} {downmix : Option Downmix}
    (built : downmixFor channels capacity = .ok downmix) :
    channels = 2 ∧ downmix = none ∨ channels = 1 ∧ downmix.isSome := by
  unfold downmixFor at built
  by_cases stereo : channels = StreamFormat.hardware.channels
  · rw [if_pos stereo] at built
    cases built
    exact .inl ⟨stereo, rfl⟩
  · rw [if_neg stereo, Downmix.ofChannels] at built
    by_cases mono : channels = 1 ∧ StreamFormat.hardware.channels = 2
    · rw [if_pos mono] at built
      cases built
      exact .inr ⟨mono.1, rfl⟩
    · rw [if_neg mono] at built
      cases built

/-- Other rates than the codec's are decimated, by the stages of the rate. -/
theorem decimatorFor_cases {rate : UInt32} {channels : UInt16} {capacity : Nat}
    {decimator : Option Decimator} (built : decimatorFor rate channels capacity = .ok decimator) :
    rate = StreamFormat.hardware.rate ∧ decimator = none ∨
      rate ∈ Decimator.rates ∧
        decimator = some
          { rate := rate, channels := channels.toNat, capacity := capacity
            stages := (Decimator.plan rate).map fun stage => (stage, []) } := by
  unfold decimatorFor at built
  by_cases native : rate = StreamFormat.hardware.rate
  · rw [if_pos native] at built
    cases built
    exact .inl ⟨native, rfl⟩
  · rw [if_neg native, Decimator.toRate] at built
    by_cases offered : Decimator.rates.contains rate = true
    · rw [if_neg (not_not_intro offered)] at built
      by_cases strange : channels ≠ 1 ∧ channels ≠ 2
      · rw [if_pos strange] at built
        cases built
      · rw [if_neg strange] at built
        cases built
        exact .inr ⟨List.contains_iff_mem.mp offered, rfl⟩
    · rw [if_pos offered] at built
      cases built

/-- A pipeline that serves a format was given captured frames since it was empty, and handed these
frames out. -/
structure Serves (pipeline : Pipeline) (format : StreamFormat) (captured returned : List Frame) :
    Prop extends Fits pipeline format where
  direct : pipeline.decimator = none → returned = mixed format captured
  decimated : ∀ decimator, pipeline.decimator = some decimator →
    decimator.Serves (mixed format captured) returned

theorem mixed_nil (format : StreamFormat) : mixed format [] = [] := by
  unfold mixed
  split <;> rfl

/-- A pipeline that was built has captured and returned nothing. -/
theorem serves_ofFormat {format : StreamFormat} {capacity : Nat} {pipeline : Pipeline}
    (built : ofFormat format capacity = .ok pipeline) : pipeline.Serves format [] [] := by
  unfold ofFormat at built
  rcases mixing : downmixFor format.channels capacity with _ | downmix
  · rw [mixing] at built
    cases built
  rcases reducing : decimatorFor format.rate format.channels capacity with _ | decimator
  · rw [mixing, reducing] at built
    cases built
  rw [mixing, reducing] at built
  cases built
  have width : format.channels = 1 ∨ format.channels = 2 := by
    obtain ⟨stereo, _⟩ | ⟨mono, _⟩ := downmixFor_cases mixing
    · exact .inr stereo
    · exact .inl mono
  have mixes : downmix.isSome ↔ format.channels = 1 := by
    obtain ⟨stereo, rfl⟩ | ⟨mono, some⟩ := downmixFor_cases mixing
    · rw [stereo]
      decide
    · exact ⟨fun _ => mono, fun _ => some⟩
  obtain ⟨native, rfl⟩ | ⟨offered, rfl⟩ := decimatorFor_cases reducing
  · exact ⟨⟨width, mixes, fun _ => native, nofun⟩, fun _ => (mixed_nil format).symm, nofun⟩
  · refine ⟨⟨width, mixes, nofun, ?_⟩, nofun, ?_⟩
    · rintro decimator ⟨⟩
      refine ⟨offered, rfl, ?_⟩
      rw [List.map_map]
      exact List.map_id _
    · rintro decimator ⟨⟩
      rw [mixed_nil]
      exact Decimator.holds_nil _ _

/-- A pipeline that was reset has captured and returned nothing. -/
theorem Fits.serves_reset {pipeline : Pipeline} {format : StreamFormat}
    (fits : pipeline.Fits format) : pipeline.reset.Serves format [] [] := by
  obtain ⟨downmix, decimator⟩ := pipeline
  cases decimator with
  | none =>
      exact ⟨⟨fits.width, fits.mixes, fun _ => fits.native rfl, nofun⟩,
        fun _ => (mixed_nil format).symm, nofun⟩
  | some decimator =>
      obtain ⟨offered, width, plan⟩ := fits.decimates decimator rfl
      refine ⟨⟨fits.width, fits.mixes, nofun, ?_⟩, nofun, ?_⟩
      · rintro _ ⟨⟩
        refine ⟨offered, width, ?_⟩
        rw [← plan, Decimator.reset, List.map_map]
        rfl
      · rintro _ ⟨⟩
        rw [mixed_nil]
        exact decimator.serves_reset

theorem isSome_downmix (source : Source σ) (wanted : Nat) (state : Option Downmix × σ) :
    (Source.optionally Downmix.through source wanted state).2.1.isSome = state.1.isSome := by
  obtain ⟨downmix, state⟩ := state
  cases downmix <;> rfl

/-- Without a decimator, a pull is answered by the downmix or the source. -/
theorem through_none (source : Source σ) (wanted : Nat) (downmix : Option Downmix) (state : σ) :
    through source wanted (⟨downmix, none⟩, state) =
      let (delivery, downmix, state) :=
        Source.optionally Downmix.through source wanted (downmix, state)
      (delivery, ⟨downmix, none⟩, state) :=
  rfl

/-- A decimator pulls from the downmix or the source. -/
theorem through_some (source : Source σ) (wanted : Nat) (downmix : Option Downmix)
    (decimator : Decimator) (state : σ) :
    through source wanted (⟨downmix, some decimator⟩, state) =
      let (delivery, decimator, downmix, state) :=
        Decimator.through (Source.optionally Downmix.through source) wanted
          (decimator, downmix, state)
      (delivery, ⟨downmix, some decimator⟩, state) :=
  rfl

/-- A pipeline keeps what its source keeps to. -/
theorem through_keeps {source : Source σ} {keeps : σ → Prop}
    (stays : ∀ wanted state, keeps state → keeps (source wanted state).2) (wanted : Nat)
    (pipeline : Pipeline) {state : σ} (kept : keeps state) :
    keeps (through source wanted (pipeline, state)).2.2 := by
  have mixing : ∀ wanted (mixer : Option Downmix × σ), keeps mixer.2 →
      keeps (Source.optionally Downmix.through source wanted mixer).2.2 := by
    rintro wanted ⟨downmix, state⟩ kept
    cases downmix with
    | none => exact stays wanted state kept
    | some downmix => exact stays (2 * min wanted downmix.capacity) state kept
  obtain ⟨downmix, decimator⟩ := pipeline
  cases decimator with
  | none => exact mixing wanted (downmix, state) kept
  | some decimator =>
      exact (Decimator.through_keeps mixing wanted decimator (downmix, state) kept).2

/-- A pipeline that fits a format fits it after every call. -/
theorem Fits.through {pipeline : Pipeline} {format : StreamFormat} (fits : pipeline.Fits format)
    (source : Source σ) (wanted : Nat) (state : σ) :
    (through source wanted (pipeline, state)).2.1.Fits format := by
  obtain ⟨downmix, decimator⟩ := pipeline
  have mixes : downmix.isSome ↔ format.channels = 1 := fits.mixes
  cases decimator with
  | none =>
      refine ⟨fits.width, ?_, fun _ => fits.native rfl, nofun⟩
      rw [through_none, ← mixes]
      exact iff_of_eq (congrArg (· = true) (isSome_downmix source wanted (downmix, state)))
  | some decimator =>
      obtain ⟨offered, width, plan⟩ := fits.decimates decimator rfl
      have stays : ∀ wanted (state : Option Downmix × σ), state.1.isSome = downmix.isSome →
          (Source.optionally Downmix.through source wanted state).2.1.isSome = downmix.isSome :=
        fun wanted state same => (isSome_downmix source wanted state).trans same
      obtain ⟨kind, mixing⟩ :=
        Decimator.through_keeps stays wanted decimator (downmix, state) rfl
      rw [through_some]
      refine ⟨fits.width, ?_, nofun, ?_⟩
      · rw [← mixes]
        exact iff_of_eq (congrArg (· = true) mixing)
      · rintro _ ⟨⟩
        exact ⟨offered, (Decimator.channels_eq_of_reset kind).trans width,
          (Decimator.map_fst_eq_of_reset kind).trans plan⟩

/-- The frames of two pieces are mixed piece by piece. -/
theorem mixed_append (format : StreamFormat) (first second : List Frame) :
    mixed format (first ++ second) = mixed format first ++ mixed format second := by
  unfold mixed
  split
  · exact List.map_append
  · rfl

/-- Behind the downmix that a format needs, the frames of a truthful source come mixed. -/
theorem appends_optionally {source : Source σ} (truthful : source.Truthful 2) {keeps : σ → Prop}
    {log : σ → List Frame} (appends : source.Appends 2 keeps log) {format : StreamFormat}
    (width : format.channels = 1 ∨ format.channels = 2) :
    (Source.optionally Downmix.through source).Appends format.channels.toNat
      (fun state => (state.1.isSome ↔ format.channels = 1) ∧ keeps state.2)
      (fun state => mixed format (log state.2)) := by
  have stays : ∀ wanted (state : Option Downmix × σ),
      (state.1.isSome ↔ format.channels = 1) ∧ keeps state.2 →
      ((Source.optionally Downmix.through source wanted state).2.1.isSome ↔
          format.channels = 1) ∧
        keeps (Source.optionally Downmix.through source wanted state).2.2 := by
    rintro wanted ⟨downmix, state⟩ ⟨mixes, kept⟩
    rw [isSome_downmix]
    refine ⟨mixes, ?_⟩
    cases downmix with
    | none => exact appends.stays wanted state kept
    | some downmix => exact appends.stays (2 * min wanted downmix.capacity) state kept
  obtain mono | stereo := width
  · have one : format.channels.toNat = 1 := by rw [mono]; rfl
    refine ⟨stays, ?_, ?_, ?_⟩
    · rintro wanted ⟨downmix, state⟩ got ⟨mixes, kept⟩ counted
      obtain ⟨downmix, rfl⟩ := Option.isSome_iff_exists.mp (mixes.mpr mono)
      have bound := truthful.within (2 * min wanted downmix.capacity) state got counted
      rw [one]
      omega
    · rintro wanted ⟨downmix, state⟩ got ⟨mixes, kept⟩ counted
      obtain ⟨downmix, rfl⟩ := Option.isSome_iff_exists.mp (mixes.mpr mono)
      rw [one, Nat.mul_one]
      exact Downmix.le_length_through truthful counted
    · rintro wanted ⟨downmix, state⟩ ⟨mixes, kept⟩
      obtain ⟨downmix, rfl⟩ := Option.isSome_iff_exists.mp (mixes.mpr mono)
      have frames := Downmix.frameList_through truthful wanted downmix state
      have grown : log (Source.optionally Downmix.through source wanted
            (some downmix, state)).2.2 =
          log state ++ (source (2 * min wanted downmix.capacity) state).1.frameList 2 :=
        appends.log_eq (2 * min wanted downmix.capacity) state kept
      simp only [grown, mixed_append, one]
      refine congrArg _ (Eq.trans ?_ frames.symm)
      rw [mixed, if_pos mono]
  · have two : format.channels.toNat = 2 := by rw [stereo]; rfl
    have plain : ∀ {downmix : Option Downmix}, (downmix.isSome ↔ format.channels = 1) →
        downmix = none := by
      intro downmix mixes
      rw [stereo] at mixes
      cases downmix with
      | none => rfl
      | some downmix => exact absurd (mixes.mp rfl) (by decide)
    refine ⟨stays, ?_, ?_, ?_⟩
    · rintro wanted ⟨downmix, state⟩ got ⟨mixes, kept⟩ counted
      cases plain mixes
      rw [two]
      exact truthful.within wanted state got counted
    · rintro wanted ⟨downmix, state⟩ got ⟨mixes, kept⟩ counted
      cases plain mixes
      rw [two]
      exact truthful.written wanted state got counted
    · rintro wanted ⟨downmix, state⟩ ⟨mixes, kept⟩
      cases plain mixes
      have whole : format.channels ≠ 1 := by rw [stereo]; decide
      simp only [mixed, if_neg whole, two]
      exact appends.log_eq wanted state kept

/-- What was returned is the beginning of what the pipeline makes of what was captured. -/
theorem Serves.prefix_batch {pipeline : Pipeline} {format : StreamFormat}
    {captured returned : List Frame} (serves : pipeline.Serves format captured returned) :
    returned <+: batch format captured := by
  unfold batch
  cases filter : pipeline.decimator with
  | none =>
      rw [if_pos (serves.native filter), serves.direct filter]
  | some decimator =>
      obtain ⟨offered, width, plan⟩ := serves.decimates decimator filter
      have beginning := (serves.decimated decimator filter).prefix_cascade
      rw [width, plan] at beginning
      rw [if_neg (Decimator.ne_hardware_of_mem offered)]
      exact beginning

/-- **One read.** A read that succeeds continues what was handed out so far, and completes it if a
decimator answers short. The frames that it counts are written. -/
theorem Serves.through {source : Source σ} (truthful : source.Truthful 2) {keeps : σ → Prop}
    {log : σ → List Frame} (recorded : source.Appends 2 keeps log) {pipeline : Pipeline}
    {format : StreamFormat} {returned : List Frame} {state : σ}
    (serves : pipeline.Serves format (log state) returned) (kept : keeps state) {wanted : Nat}
    {delivery : Delivery} {after : Pipeline} {final : σ}
    (equal : Pipeline.through source (wanted * format.channels.toNat) (pipeline, state) =
      (delivery, after, final))
    {got : Nat} (success : delivery.frames = .ok got) :
    after.Serves format (log final) (returned ++ delivery.frameList format.channels.toNat) ∧
      (format.rate ≠ StreamFormat.hardware.rate → got < wanted →
        returned ++ delivery.frameList format.channels.toNat = batch format (log final)) ∧
      got * format.channels.toNat ≤ delivery.samples.length := by
  have fits := serves.toFits.through source (wanted * format.channels.toNat) state
  rw [equal] at fits
  have appends := appends_optionally truthful recorded serves.width
  have positive : 0 < format.channels.toNat := by
    obtain mono | stereo := serves.width
    · rw [mono]
      decide
    · rw [stereo]
      decide
  obtain ⟨downmix, decimator⟩ := pipeline
  cases decimator with
  | none =>
      have grown := appends.log_eq (wanted * format.channels.toNat) (downmix, state)
        ⟨serves.mixes, kept⟩
      have written := appends.written (wanted * format.channels.toNat) (downmix, state) got
        ⟨serves.mixes, kept⟩
      rw [through_none] at equal
      rcases come : Source.optionally Downmix.through source
          (wanted * format.channels.toNat) (downmix, state) with ⟨answer, mixer, next⟩
      rw [come] at equal grown written
      cases equal
      have native : format.rate = StreamFormat.hardware.rate := serves.native rfl
      have whole : returned = mixed format (log state) := serves.direct rfl
      refine ⟨⟨fits, fun _ => ?_, nofun⟩, fun lower => absurd native lower, written success⟩
      rw [whole]
      exact grown.symm
  | some decimator =>
      obtain ⟨offered, width, plan⟩ := serves.decimates decimator rfl
      rw [← width] at appends positive equal ⊢
      rw [through_some] at equal
      rcases come : Decimator.through (Source.optionally Downmix.through source)
          (wanted * decimator.channels) (decimator, downmix, state) with
        ⟨answer, filter, mixer, next⟩
      have staged : decimator.stages ≠ [] := by
        intro none
        rw [none] at plan
        exact Decimator.plan_ne_nil offered plan.symm
      rw [come] at equal
      cases equal
      obtain ⟨served, short, written⟩ := Decimator.through_serves positive staged appends
        (downmix, state) ⟨serves.mixes, kept⟩ (serves.decimated decimator rfl) come success
      rw [Nat.mul_div_cancel _ positive] at short
      have now : Pipeline.Serves ⟨mixer, some filter⟩ format (log final)
          (returned ++ delivery.frameList decimator.channels) := by
        refine ⟨fits, nofun, ?_⟩
        rintro _ ⟨⟩
        exact served
      refine ⟨now, fun _ less => ?_, written⟩
      obtain ⟨_, channels, kinds⟩ := fits.decimates filter rfl
      have complete := served.eq_cascade (short less)
      rw [channels, kinds] at complete
      rw [batch, if_neg (Decimator.ne_hardware_of_mem offered)]
      exact complete

/-! ## Runs -/

/-- The state after pulls of so many samples, whatever they answer. -/
def pulled (source : Source σ) (requests : List Nat) (start : Pipeline × σ) : Pipeline × σ :=
  requests.foldl (fun current wanted => (through source wanted current).2) start

/-- Pulls for so many frames, one after the other: the frames of each answer, or the first failure.
-/
def pullAll (source : Source σ) (channels : Nat) :
    List Nat → Pipeline × σ → Except PcmError (List (List Frame)) × Pipeline × σ
  | [], state => (.ok [], state)
  | wanted :: rest, state =>
    let (delivery, state) := through source (wanted * channels) state
    match delivery.frames with
    | .error e => (.error e, state)
    | .ok _ =>
      let (answers, state) := pullAll source channels rest state
      (answers.map (delivery.frameList channels :: ·), state)

/-- A pipeline over a source that was just built for a format, or just reset after any pulls. -/
inductive Blank (source : Source σ) (format : StreamFormat) (capacity : Nat) :
    Pipeline × σ → Prop
  | built {pipeline : Pipeline} (state : σ) (built : ofFormat format capacity = .ok pipeline) :
    Blank source format capacity (pipeline, state)
  | reset {start : Pipeline × σ} (blank : Blank source format capacity start)
    (requests : List Nat) :
    Blank source format capacity
      ((pulled source requests start).1.reset, (pulled source requests start).2)

/-- Pulls leave a pipeline fitting its format. -/
theorem Fits.pulled {start : Pipeline × σ} {format : StreamFormat} (fits : start.1.Fits format)
    (source : Source σ) (requests : List Nat) :
    (pulled source requests start).1.Fits format := by
  induction requests generalizing start with
  | nil => exact fits
  | cons wanted rest ih => exact ih (fits.through source wanted start.2)

/-- A pipeline that was built or reset has captured nothing since. -/
theorem Blank.serves {source : Source σ} {format : StreamFormat} {capacity : Nat}
    {start : Pipeline × σ} (blank : Blank source format capacity start) :
    start.1.Serves format [] [] := by
  induction blank with
  | built state built => exact serves_ofFormat built
  | reset _ requests ih => exact (ih.toFits.pulled source requests).serves_reset

/-- Pulls that all succeed begin with one that does. -/
theorem pullAll_cons {source : Source σ} {channels wanted : Nat} {rest : List Nat}
    {state final : Pipeline × σ} {answers : List (List Frame)}
    (equal : pullAll source channels (wanted :: rest) state = (.ok answers, final)) :
    ∃ got more, (through source (wanted * channels) state).1.frames = .ok got ∧
      pullAll source channels rest (through source (wanted * channels) state).2 =
        (.ok more, final) ∧
      answers = (through source (wanted * channels) state).1.frameList channels :: more := by
  rw [pullAll] at equal
  generalize through source (wanted * channels) state = answered at equal ⊢
  obtain ⟨⟨samples, outcome⟩, next⟩ := answered
  cases outcome with
  | error e => cases equal
  | ok got =>
      rcases later : pullAll source channels rest next with ⟨_ | more, last⟩
      · simp only [later] at equal
        cases equal
      · simp only [later] at equal
        cases equal
        exact ⟨got, more, rfl, rfl, rfl⟩

/-- There is an answer to each request. -/
theorem length_pullAll {source : Source σ} {channels : Nat} {requests : List Nat}
    {state final : Pipeline × σ} {answers : List (List Frame)}
    (equal : pullAll source channels requests state = (.ok answers, final)) :
    answers.length = requests.length := by
  induction requests generalizing state answers with
  | nil =>
      cases equal
      rfl
  | cons wanted rest ih =>
      obtain ⟨_, more, _, later, rfl⟩ := pullAll_cons equal
      rw [List.length_cons, List.length_cons, ih later]

/-- Reads that succeed continue what was handed out so far, and complete it if a decimator answers
the last one short. -/
theorem Serves.pullAll {source : Source σ} (truthful : source.Truthful 2) {pipeline : Pipeline}
    {format : StreamFormat} {captured returned : List Frame}
    (serves : pipeline.Serves format captured returned) {requests : List Nat} {state : σ}
    {answers : List (List Frame)} {after : Pipeline} {final : σ} {all : List Frame}
    (equal : Pipeline.pullAll (source.recorded 2) format.channels.toNat requests
      (pipeline, state, captured) = (.ok answers, after, final, all)) :
    after.Serves format all (returned ++ answers.flatten) ∧
      (format.rate ≠ StreamFormat.hardware.rate → ∀ answer wanted,
        answers.getLast? = some answer → requests.getLast? = some wanted →
        answer.length < wanted → returned ++ answers.flatten = batch format all) := by
  induction requests generalizing pipeline captured returned state answers with
  | nil =>
      cases equal
      rw [List.flatten_nil, List.append_nil]
      exact ⟨serves, nofun⟩
  | cons wanted rest ih =>
      obtain ⟨got, more, counted, later, rfl⟩ := pullAll_cons equal
      rcases come : Pipeline.through (source.recorded 2) (wanted * format.channels.toNat)
          (pipeline, state, captured) with ⟨delivery, between, next, so⟩
      rw [come] at counted later
      obtain ⟨served, short, -⟩ :=
        serves.through truthful.recorded truthful.appends_recorded trivial
        come counted
      obtain ⟨whole, last⟩ := ih served later
      rw [List.append_assoc, ← List.flatten_cons] at whole last
      refine ⟨whole, fun lower answer asked ended requested less => ?_⟩
      cases rest with
      | nil =>
          cases later
          rw [List.getLast?_singleton, Option.some.injEq] at ended requested
          rw [← ended, ← requested, Delivery.length_frameList _ counted] at less
          rw [List.flatten_cons, List.flatten_nil, List.append_nil]
          exact short lower less
      | cons following rest =>
          have some : more ≠ [] := by
            intro none
            have lengths := length_pullAll later
            rw [none] at lengths
            cases lengths
          rw [List.getLast?_cons_of_ne_nil some] at ended
          rw [List.getLast?_cons_cons] at requested
          exact last lower answer asked ended requested less

/-- **Streaming is batch.** Since a pipeline was built or reset, what reads of any sizes handed out
is the beginning of what its filters make of all that the source delivered, in deliveries of any
sizes; and all of it, if a decimator answered the last read short. -/
theorem pullAll_eq_batch {source : Source σ} (truthful : source.Truthful 2)
    {format : StreamFormat} {capacity : Nat} {pipeline : Pipeline} {state : σ}
    (blank : Blank source format capacity (pipeline, state)) {requests : List Nat}
    {answers : List (List Frame)} {after : Pipeline} {final : σ} {captured : List Frame}
    (success : pullAll (source.recorded 2) format.channels.toNat requests (pipeline, state, []) =
      (.ok answers, after, final, captured)) :
    answers.flatten <+: batch format captured ∧
      (format.rate ≠ StreamFormat.hardware.rate → ∀ answer wanted,
        answers.getLast? = some answer → requests.getLast? = some wanted →
        answer.length < wanted → answers.flatten = batch format captured) := by
  obtain ⟨serves, whole⟩ := Serves.pullAll truthful blank.serves success
  exact ⟨serves.prefix_batch, whole⟩

/-- A mono stream at half the rate that was read and reset, over a source that delivers at most five
frames in a call, read to the end of the tone. -/
theorem pullAll_eq_batch_playing :
    let source := Source.playing 2 5
    let format : StreamFormat := ⟨.pcm16, 1, 22050⟩
    let tone := (List.range 96).map fun i => Int16.ofNat (100 * i)
    let used := pulled source [1] (⟨some ⟨64, []⟩, some ⟨22050, 1, 64, [(.half, [])], []⟩⟩, tone)
    Blank source format 64 (used.1.reset, used.2) ∧
      ∃ answers after final captured,
        pullAll (source.recorded 2) 1 [1, 9] (used.1.reset, used.2, []) =
          (.ok answers, after, final, captured) ∧
        answers = [[[5952]], [[6352], [6752], [7153], [7553]]] ∧
        answers.flatten = batch format captured := by
  intro source format tone used
  have blank : Blank source format 64 (used.1.reset, used.2) :=
    .reset (.built tone (by decide +kernel)) [1]
  have started : (pullAll (source.recorded 2) 1 [1, 9] (used.1.reset, used.2, [])).1 =
      .ok [[[5952]], [[6352], [6752], [7153], [7553]]] := by
    decide +kernel
  refine ⟨blank, ?_⟩
  generalize run : pullAll (source.recorded 2) 1 [1, 9] (used.1.reset, used.2, []) = done
    at started ⊢
  obtain ⟨outcome, after, final, captured⟩ := done
  cases started
  refine ⟨_, after, final, captured, rfl, rfl, ?_⟩
  exact (pullAll_eq_batch (Source.truthful_playing 2 5) blank run).2 (by decide) _ 9 rfl rfl
    (by decide)

/-- Sources that delivered the same frames, however they came and were asked for, lead to the same
frames as far as both were read. -/
theorem comparable_of_captured {σ τ : Type} {source : Source σ} {other : Source τ}
    (truthful : source.Truthful 2) (honest : other.Truthful 2) {format : StreamFormat}
    {capacity limit : Nat} {first second : Pipeline} {state : σ} {twin : τ}
    (blank : Blank source format capacity (first, state))
    (empty : Blank other format limit (second, twin)) {requests wishes : List Nat}
    {answers replies : List (List Frame)} {after later : Pipeline} {final : σ} {last : τ}
    {captured : List Frame}
    (success : pullAll (source.recorded 2) format.channels.toNat requests (first, state, []) =
      (.ok answers, after, final, captured))
    (same : pullAll (other.recorded 2) format.channels.toNat wishes (second, twin, []) =
      (.ok replies, later, last, captured)) :
    answers.flatten <+: replies.flatten ∨ replies.flatten <+: answers.flatten :=
  List.prefix_or_prefix_of_prefix
    (Serves.pullAll truthful blank.serves success).1.prefix_batch
    (Serves.pullAll honest empty.serves same).1.prefix_batch

end Pipeline

end PhoneAudio
