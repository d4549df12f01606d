import PhoneAudio.Proofs.Capture.Rates
import PhoneAudio.Proofs.Handset.Session

/-!
# Formats that streams accept

Whether a capture stream opens in a format, whether a buffer has a size in it and whether there are
filters for it are decided in three places, and all decide alike
(`PhoneAudio.StreamFormat.eq_closestCapture_iff`, `PhoneAudio.CaptureRate.bufferBytes_ne_zero_iff`,
`PhoneAudio.Pipeline.exists_ofFormat`). A format that is offered in place of one that is not
supported is accepted when it is asked for (`PhoneAudio.Operation.acceptsFormats`).
-/

namespace PhoneAudio

namespace CaptureRate

/-- The formats that are captured have 16 bits, one channel or two, and a rate that is supported. -/
theorem captures_iff {format : StreamFormat} : captures format = true ↔
    format.encoding = .pcm16 ∧ (format.channels = 1 ∨ format.channels = 2) ∧
      format.rate ∈ supported := by
  simp [captures, and_assoc]

/-- With periods that the codec takes, a buffer has a size in the formats that streams capture
in. -/
theorem bufferBytes_ne_zero_iff {period : UInt32} (long : Settings.leastPeriod ≤ period)
    {format : StreamFormat} : bufferBytes period format ≠ 0 ↔ captures format = true := by
  have frames : 128 ≤ period.toNat := UInt32.le_iff_toNat_le.mp long
  unfold bufferBytes
  split
  · rename_i good
    refine iff_of_true ?_ good
    obtain ⟨encoding, width, -⟩ := captures_iff.mp good
    have samples : 128 ≤ period.toNat * format.channels.toNat := by
      rcases width with mono | stereo
      · rw [mono]
        exact frames.trans (Nat.le_mul_of_pos_right _ Nat.one_pos)
      · rw [stereo]
        exact frames.trans (Nat.le_mul_of_pos_right _ Nat.two_pos)
    have bytes : format.encoding.sampleBytes = 2 := by
      rw [encoding]
      rfl
    have ratio : decimation format.rate ≤ 4 ∧ 0 < decimation format.rate := by
      unfold decimation
      split
      · decide
      · split <;> decide
    have room : decimation format.rate ≤
        period.toNat * format.channels.toNat * format.encoding.sampleBytes := by
      rw [bytes]
      omega
    exact (Nat.div_pos room ratio.2).ne'
  · rename_i bad
    exact iff_of_false (fun size => size rfl) bad

end CaptureRate

/-- The formats that are closest to themselves are those that streams capture in. -/
theorem StreamFormat.eq_closestCapture_iff {format : StreamFormat} :
    format = format.closestCapture ↔ CaptureRate.captures format = true := by
  obtain ⟨encoding, channels, rate⟩ := format
  rw [CaptureRate.captures_iff, closestCapture, StreamFormat.mk.injEq,
    eq_comm (a := rate), CaptureRate.nearest_eq_iff]
  have width : channels = (if channels = 1 ∨ channels = 2 then channels
      else StreamFormat.hardware.channels) ↔ channels = 1 ∨ channels = 2 := by
    split
    · rename_i narrow
      exact iff_of_true rfl narrow
    · rename_i wide
      exact ⟨fun same => .inr same, fun narrow => absurd narrow wide⟩
  rw [width]

/-- Streams capture in any format that is closest to another. -/
theorem StreamFormat.captures_closestCapture (format : StreamFormat) :
    CaptureRate.captures format.closestCapture = true := by
  refine CaptureRate.captures_iff.mpr ⟨rfl, ?_, CaptureRate.nearest_mem _⟩
  unfold closestCapture
  dsimp only
  split
  · assumption
  · exact .inr rfl

/-- Every capture rate below the codec's own is one that decimators deliver. -/
theorem Decimator.contains_rates {rate : UInt32} (captured : rate ∈ CaptureRate.supported)
    (lower : rate ≠ StreamFormat.hardware.rate) : Decimator.rates.contains rate = true := by
  have all : CaptureRate.supported.all (fun rate =>
      rate = StreamFormat.hardware.rate || Decimator.rates.contains rate) = true := by decide
  have either := List.all_eq_true.mp all rate captured
  rw [Bool.or_eq_true] at either
  exact either.resolve_left fun same => lower (of_decide_eq_true same)

/-- There are filters for the formats that streams capture in. -/
theorem Pipeline.exists_ofFormat {format : StreamFormat}
    (captures : CaptureRate.captures format = true) (capacity : Nat) :
    ∃ pipeline, Pipeline.ofFormat format capacity = .ok pipeline := by
  obtain ⟨-, width, captured⟩ := CaptureRate.captures_iff.mp captures
  have mixes : ∃ downmix, downmixFor format.channels capacity = .ok downmix := by
    rcases width with mono | stereo
    · exact ⟨some { capacity := capacity }, by rw [mono]; rfl⟩
    · exact ⟨none, by rw [stereo]; rfl⟩
  have decimates : ∃ decimator,
      decimatorFor format.rate format.channels capacity = .ok decimator := by
    unfold decimatorFor Decimator.toRate
    split
    · exact ⟨none, rfl⟩
    · rename_i lower
      have reduced := Decimator.contains_rates captured lower
      have narrow : ¬ (format.channels ≠ 1 ∧ format.channels ≠ 2) := by
        rintro ⟨one, two⟩
        exact width.elim one two
      rw [if_neg (not_not_intro reduced), if_neg narrow]
      exact ⟨_, rfl⟩
  obtain ⟨downmix, mixed⟩ := mixes
  obtain ⟨decimator, decimated⟩ := decimates
  refine ⟨⟨downmix, decimator⟩, ?_⟩
  rw [ofFormat, mixed, decimated]
  rfl

/-- Settings that are accepted have capture periods that are long enough. -/
theorem Settings.leastPeriod_le {settings : Settings} (accepted : settings.fault? = none) :
    Settings.leastPeriod ≤ settings.capturePeriod := by
  unfold fault? at accepted
  dsimp only at accepted
  split at accepted
  · cases accepted
  · rename_i long
    have fine := List.find?_eq_none.mp long ("input_period_size", settings.capturePeriod)
      (List.mem_cons_of_mem _ List.mem_cons_self)
    exact UInt32.not_lt.mp fun short => fine (decide_eq_true short)

namespace Stream

variable {settings : Settings} {devices : Devices} {request : FormatRequest}

/-- A format that is captured is opened as it was asked for. -/
theorem newCapture_of_captures (captures : CaptureRate.captures request.resolved = true) :
    ∃ stream, newCapture settings devices request = .ok stream ∧
      stream.format = request.resolved ∧
        stream.bufferBytes = CaptureRate.bufferBytes settings.capturePeriod request.resolved := by
  obtain ⟨pipeline, filtered⟩ :=
    Pipeline.exists_ofFormat captures settings.capturePeriod.toNat
  unfold newCapture
  dsimp only
  rw [if_pos (StreamFormat.eq_closestCapture_iff.mpr captures), filtered]
  exact ⟨_, rfl, rfl, rfl⟩

/-- A format that is not captured is refused, with the closest one that is. -/
theorem newCapture_of_not_captures (other : ¬ CaptureRate.captures request.resolved = true) :
    newCapture settings devices request =
      .error (.unsupported request request.resolved.closestCapture) := by
  unfold newCapture
  dsimp only
  exact if_neg fun same => other (StreamFormat.eq_closestCapture_iff.mp same)

/-- A capture stream in the format that was offered instead is made. -/
theorem newCapture_of_unsupported {requested : FormatRequest} {supported : StreamFormat}
    (rejected : newCapture settings devices request = .error (.unsupported requested supported)) :
    ∃ stream, newCapture settings devices (.exactly supported) = .ok stream ∧
      stream.format = supported := by
  by_cases captures : CaptureRate.captures request.resolved = true
  · obtain ⟨stream, made, -⟩ := newCapture_of_captures captures
    cases made.symm.trans rejected
  · cases (newCapture_of_not_captures captures).symm.trans rejected
    have offered : CaptureRate.captures
        (FormatRequest.exactly request.resolved.closestCapture).resolved = true :=
      StreamFormat.captures_closestCapture _
    obtain ⟨stream, made, format, -⟩ := newCapture_of_captures offered
    exact ⟨stream, made, format⟩

/-- A playback stream in the format that was offered instead is made. -/
theorem newPlayback_of_unsupported {requested : FormatRequest} {supported : StreamFormat}
    (rejected : newPlayback settings devices request = .error (.unsupported requested supported)) :
    ∃ stream, newPlayback settings devices (.exactly supported) = .ok stream ∧
      stream.format = supported := by
  unfold newPlayback at rejected
  split at rejected
  · cases rejected
  · cases rejected
    exact ⟨_, rfl, rfl⟩

end Stream

namespace Machine

/-- The stream that the audio hardware makes when one is to be opened. -/
def newStream (machine : Machine) (direction : Direction) (devices : Devices)
    (request : FormatRequest) : Except AudioError Stream :=
  match direction with
  | .playback =>
    if machine.hardware.output.isSome then
      .error (.invalidOperation "an output stream is already open")
    else Stream.newPlayback machine.settings devices request
  | .capture =>
    if devices.isCaptureDevice then Stream.newCapture machine.settings devices request
    else
      let text := Text.hex devices.bits.toNat
      .error (.badValue s!"{text} is not an input device")

/-- The state with the lock of the audio hardware given back. -/
def unlocked (machine : Machine) : Machine :=
  machine.govern fun hardware => { hardware with locked := false }

variable {machine : Machine} {direction : Direction} {devices : Devices} {request : FormatRequest}

/-- A new stream has the direction that was asked for. -/
theorem direction_of_newStream {stream : Stream}
    (made : machine.newStream direction devices request = .ok stream) :
    stream.direction = direction := by
  unfold newStream at made
  cases direction with
  | playback =>
      dsimp only at made
      split at made
      · cases made
      · exact (Act.newPlayback_fresh made).1
  | capture =>
      dsimp only at made
      split at made
      · exact (Act.newCapture_fresh made).1
      · cases made

/-- Whether a stream can be made does not depend on locks. -/
theorem newStream_unlocked (machine : Machine) (direction : Direction) (devices : Devices)
    (request : FormatRequest) :
    machine.unlocked.newStream direction devices request =
      machine.newStream direction devices request :=
  rfl

/-- A stream in the format that was offered instead is made, for the same devices. -/
theorem newStream_of_unsupported {requested : FormatRequest} {supported : StreamFormat}
    (rejected : machine.newStream direction devices request =
      .error (.unsupported requested supported)) :
    ∃ stream, machine.newStream direction devices (.exactly supported) = .ok stream ∧
      stream.format = supported := by
  unfold newStream at rejected ⊢
  cases direction with
  | playback =>
      dsimp only at rejected ⊢
      split at rejected
      · cases rejected
      · rename_i vacant
        rw [if_neg vacant]
        exact Stream.newPlayback_of_unsupported rejected
  | capture =>
      dsimp only at rejected ⊢
      split at rejected
      · rename_i single
        rw [if_pos single]
        exact Stream.newCapture_of_unsupported rejected
      · cases rejected

/-- A stream that joins is open. -/
theorem isOpen_joined_self (machine : Machine) (stream : Stream) :
    (machine.joined stream).isOpen machine.streams.length = true := by
  unfold isOpen joined
  cases stream.direction <;> simp

end Machine

namespace Act

variable {direction : Direction} {devices : Devices} {request : FormatRequest} {run : Run}

/-- What is done with the hardware lock held, step by step. -/
theorem withHardware_apply {α : Type} (action : Act α) (run : Run) :
    withHardware action run =
      let (answer, after) := action (lock .hardware run).2
      (answer, (unlock .hardware after).2) :=
  rfl

/-- Opens a stream that was made, or answers why none was. -/
def enroll (direction : Direction) (made : Except AudioError Stream) :
    Act (Except AudioError StreamId) := do
  match made with
  | .error error => return .error error
  | .ok stream =>
    let id ← addStream stream
    changeHardware fun hardware =>
      match direction with
      | .playback => { hardware with output := some id }
      | .capture => { hardware with inputs := hardware.inputs ++ [id] }
    return .ok id

/-- Opening for playback enrolls a new playback stream. -/
theorem openPlayback_apply (devices : Devices) (request : FormatRequest) (run : Run) :
    openPlayback devices request run =
      withHardware (enroll .playback (run.machine.newStream .playback devices request)) run := by
  have same : (lock .hardware run).2.machine.newStream .playback devices request =
      run.machine.newStream .playback devices request := rfl
  rw [← same, openPlayback, withHardware_apply, withHardware_apply, bind_apply, hardware_apply]
  generalize (lock .hardware run).2 = locked
  unfold Machine.newStream
  dsimp only
  by_cases taken : locked.machine.hardware.output.isSome = true
  · rw [if_pos taken, if_pos taken]
    rfl
  · rw [if_neg taken, if_neg taken, bind_apply, machine_apply]
    cases Stream.newPlayback locked.machine.settings devices request <;> rfl

/-- Opening for capture enrolls a new capture stream, as long as it is on one capture device. -/
theorem openCapture_apply (single : devices.isCaptureDevice = true) (request : FormatRequest)
    (run : Run) :
    openCapture devices request run =
      withHardware (enroll .capture (run.machine.newStream .capture devices request)) run := by
  have same : (lock .hardware run).2.machine.newStream .capture devices request =
      run.machine.newStream .capture devices request := rfl
  rw [← same, openCapture, if_pos single, withHardware_apply, withHardware_apply, bind_apply,
    machine_apply]
  generalize (lock .hardware run).2 = locked
  unfold Machine.newStream
  dsimp only
  rw [if_pos single]
  cases Stream.newCapture locked.machine.settings devices request <;> rfl

/-- A stream that is made joins the others, and nothing else changes. -/
theorem openStream_of_ok {stream : Stream}
    (made : run.machine.newStream direction devices request = .ok stream) :
    (openStream direction devices request run).1 = .ok run.machine.streams.length ∧
      (openStream direction devices request run).2.machine =
        (run.machine.joined stream).unlocked := by
  have way := Machine.direction_of_newStream made
  unfold openStream Machine.joined
  cases direction with
  | playback =>
      dsimp only
      rw [openPlayback_apply, made, way]
      exact ⟨rfl, rfl⟩
  | capture =>
      by_cases single : devices.isCaptureDevice = true
      · dsimp only
        rw [openCapture_apply single, made, way]
        exact ⟨rfl, rfl⟩
      · cases (if_neg single).symm.trans made

/-- Without a new stream, nothing changes. -/
theorem openStream_of_error {error : AudioError}
    (failed : run.machine.newStream direction devices request = .error error) :
    (openStream direction devices request run).1 = .error error ∧
      (openStream direction devices request run).2.machine.unlocked = run.machine.unlocked := by
  unfold openStream
  cases direction with
  | playback =>
      dsimp only
      rw [openPlayback_apply, failed]
      exact ⟨rfl, rfl⟩
  | capture =>
      dsimp only
      by_cases single : devices.isCaptureDevice = true
      · rw [openCapture_apply single, failed]
        exact ⟨rfl, rfl⟩
      · cases (if_neg single).symm.trans failed
        rw [openCapture, if_neg single]
        exact ⟨rfl, rfl⟩

end Act

namespace Operation

variable {direction : Direction} {devices : Devices} {request : FormatRequest} {run : Run}

/-- The answer to opening a stream is what opening it came to. -/
theorem perform_openStream (direction : Direction) (devices : Devices) (request : FormatRequest)
    (run : Run) :
    ((openStream direction devices request).perform run).1 =
        (match (Act.openStream direction devices request run).1 with
          | .ok id => .opened id
          | .error error => .failed error) ∧
      ((openStream direction devices request).perform run).2 =
        (Act.openStream direction devices request run).2 := by
  rw [perform, Act.bind_apply]
  cases (Act.openStream direction devices request run).1 with
  | ok id => exact ⟨rfl, rfl⟩
  | error error => exact ⟨rfl, rfl⟩

/-- A stream that is made opens as it was made. -/
theorem opens_of_ok {stream : Stream}
    (made : run.machine.newStream direction devices request = .ok stream) :
    let opening := (openStream direction devices request).perform run
    let id := run.machine.streams.length
    opening.1 = .opened id ∧ opening.2.machine.stream id = stream ∧
      opening.2.machine.isOpen id = true := by
  obtain ⟨opened, joined⟩ := Act.openStream_of_ok made
  obtain ⟨answer, after⟩ := perform_openStream direction devices request run
  dsimp only
  rw [answer, opened, after, joined]
  exact ⟨rfl, run.machine.stream_joined_self stream, run.machine.isOpen_joined_self stream⟩

/-- What is not made fails to open, and everything stays as it was. -/
theorem fails_of_error {error : AudioError}
    (failed : run.machine.newStream direction devices request = .error error) :
    let opening := (openStream direction devices request).perform run
    opening.1 = .failed error ∧ opening.2.machine.unlocked = run.machine.unlocked := by
  obtain ⟨outcome, same⟩ := Act.openStream_of_error failed
  obtain ⟨answer, after⟩ := perform_openStream direction devices request run
  dsimp only
  rw [answer, outcome, after]
  exact ⟨rfl, same⟩

/-- A capture stream opens on a single device in the formats that streams capture in. -/
theorem opens_of_captures (run : Run) (single : devices.isCaptureDevice = true)
    (captures : CaptureRate.captures request.resolved = true) :
    ∃ id, let opening := (openStream .capture devices request).perform run
      opening.1 = .opened id ∧ opening.2.machine.isOpen id = true ∧
        (opening.2.machine.stream id).format = request.resolved ∧
        (opening.2.machine.stream id).bufferBytes =
          run.machine.captureBufferBytes request.resolved := by
  have making : run.machine.newStream .capture devices request =
      Stream.newCapture run.machine.settings devices request := if_pos single
  obtain ⟨stream, made, format, bytes⟩ := Stream.newCapture_of_captures captures
  obtain ⟨opened, joined, isOpen⟩ := opens_of_ok (making.trans made)
  refine ⟨_, opened, isOpen, ?_⟩
  rw [joined]
  exact ⟨format, bytes⟩

/-- In any other format, the closest one that streams capture in is offered. -/
theorem fails_of_not_captures (run : Run) (single : devices.isCaptureDevice = true)
    (other : ¬ CaptureRate.captures request.resolved = true) :
    ((openStream .capture devices request).perform run).1 =
      .failed (.unsupported request request.resolved.closestCapture) := by
  have making : run.machine.newStream .capture devices request =
      Stream.newCapture run.machine.settings devices request := if_pos single
  exact (fails_of_error (making.trans (Stream.newCapture_of_not_captures other))).1

/-- A stream opens in the format that was offered instead. -/
theorem opens_of_unsupported {requested : FormatRequest} {supported : StreamFormat}
    (rejected : ((openStream direction devices request).perform run).1 =
      .failed (.unsupported requested supported)) :
    ∃ id, let opening := (openStream direction devices request).perform run
      let again := (openStream direction devices (.exactly supported)).perform opening.2
      again.1 = .opened id ∧ (again.2.machine.stream id).format = supported := by
  cases made : run.machine.newStream direction devices request with
  | ok stream => cases (opens_of_ok made).1.symm.trans rejected
  | error error =>
      obtain ⟨failed, same⟩ := fails_of_error made
      cases failed.symm.trans rejected
      obtain ⟨stream, offered, format⟩ := Machine.newStream_of_unsupported made
      rw [← Machine.newStream_unlocked, ← same, Machine.newStream_unlocked] at offered
      obtain ⟨opened, joined, -⟩ := opens_of_ok offered
      refine ⟨_, opened, ?_⟩
      rw [joined]
      exact format

/-- **Formats.** A capture stream opens on a single device exactly when a buffer has a size in the
format that the request comes to; then the stream is in that format and has a buffer of that size,
and otherwise another format is offered. A format that was offered for a stream of either direction
is accepted when it is asked for next. -/
theorem acceptsFormats (run : Run) (accepted : run.machine.settings.fault? = none)
    (devices : Devices) (request : FormatRequest) :
    (devices.isCaptureDevice = true →
      let bytes := run.machine.captureBufferBytes request.resolved
      let opening := (openStream .capture devices request).perform run
      ((∃ id, opening.1 = .opened id) ↔ bytes ≠ 0) ∧
      (∀ id, opening.1 = .opened id → opening.2.machine.isOpen id = true ∧
        (opening.2.machine.stream id).format = request.resolved ∧
        (opening.2.machine.stream id).bufferBytes = bytes) ∧
      ∀ error, opening.1 = .failed error →
        error = .unsupported request request.resolved.closestCapture) ∧
    ∀ direction requested supported,
      let opening := (openStream direction devices request).perform run
      opening.1 = .failed (.unsupported requested supported) →
        let again := (openStream direction devices (.exactly supported)).perform opening.2
        ∃ id, again.1 = .opened id ∧ (again.2.machine.stream id).format = supported := by
  have sized : run.machine.captureBufferBytes request.resolved ≠ 0 ↔
      CaptureRate.captures request.resolved = true :=
    CaptureRate.bufferBytes_ne_zero_iff (Settings.leastPeriod_le accepted)
  refine ⟨fun single => ?_, fun direction requested supported rejected =>
    opens_of_unsupported rejected⟩
  by_cases captures : CaptureRate.captures request.resolved = true
  · obtain ⟨_, opened, stream⟩ := opens_of_captures run single captures
    refine ⟨iff_of_true ⟨_, opened⟩ (sized.mpr captures), fun id answer => ?_,
      fun error answer => ?_⟩
    · cases opened.symm.trans answer
      exact stream
    · cases opened.symm.trans answer
  · have failed := fails_of_not_captures run single captures
    refine ⟨iff_of_false ?_ fun size => captures (sized.mp size), fun id answer => ?_,
      fun error answer => ?_⟩
    · rintro ⟨id, answer⟩
      cases failed.symm.trans answer
    · cases failed.symm.trans answer
    · cases failed.symm.trans answer
      rfl

/-- The closest rate is offered instead of one that nothing captures at, and is then accepted. -/
theorem acceptsFormats_offered :
    let request := FormatRequest.pcm16 12345 1
    let offered : StreamFormat := ⟨.pcm16, 1, 11025⟩
    let opening := (openStream .capture .builtInMic request).perform Run.stock
    opening.1 = .failed (.unsupported request offered) ∧
      let again := (openStream .capture .builtInMic (.exactly offered)).perform opening.2
      ∃ id, again.1 = .opened id ∧ (again.2.machine.stream id).format = offered ∧
        (again.2.machine.stream id).bufferBytes = 512 := by
  dsimp only
  have rejected : ((openStream .capture .builtInMic (.pcm16 12345 1)).perform Run.stock).1 =
      .failed (.unsupported (.pcm16 12345 1) ⟨.pcm16, 1, 11025⟩) := by decide +kernel
  refine ⟨rejected, ?_⟩
  have accepted : Run.stock.machine.settings.fault? = none := by decide +kernel
  obtain ⟨-, retried⟩ := acceptsFormats Run.stock accepted .builtInMic (.pcm16 12345 1)
  obtain ⟨id, opened, format⟩ := retried _ _ _ rejected
  have still : ((openStream .capture .builtInMic (.pcm16 12345 1)).perform
      Run.stock).2.machine.settings.fault? = none := by decide +kernel
  obtain ⟨-, made, -⟩ :=
    (acceptsFormats _ still .builtInMic (.exactly ⟨.pcm16, 1, 11025⟩)).1 (by decide)
  obtain ⟨-, -, bytes⟩ := made id opened
  refine ⟨id, opened, format, bytes.trans ?_⟩
  decide +kernel

end Operation

end PhoneAudio
