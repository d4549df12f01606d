import PhoneAudio.Handset.Waking
import PhoneAudio.Sample.Bytes

/-!
# Transfers

Writing to a playback stream and reading from a capture stream. A transfer takes the stream out of
standby first; one that fails puts it to standby. Each comes in two forms: with the actions of
others while the transfer waits for another stream, and undisturbed. The first is made of a part
that wakes the stream and a part that moves the bytes, between which a transfer holds the lock of
its stream.
-/

namespace PhoneAudio

namespace Act

/-- Ends a transfer: the lock is given back, a failure is told, and the stream is put to standby. -/
def finishTransfer {α : Type} (id : StreamId) (outcome : Except AudioError α) :
    Act (Except AudioError α) := do
  unlock (.stream id)
  match outcome with
  | .ok answer => return .ok answer
  | .error error =>
    tell (some id) (.transferFailed (← stream id).direction error.message)
    let _ ← standby id
    return .error error

/-- Writes bytes to the PCM of a stream. -/
def writeOpen (id : StreamId) (bytes : Nat) : Act (Except AudioError Unit) := do
  match (← stream id).pcm with
  | none => return .error (.pcm .disconnected)
  | some pcm =>
    let answer ← call (.stream id) .writingPcm (.writePcm id bytes) (onPcm (·.write pcm bytes))
    return answer.mapError .pcm

/-- Begins a transfer: takes the lock of a stream and takes the stream out of standby while others
act. -/
def beginTransfer (others : List (Act Unit)) (id : StreamId) : Act (Except AudioError Unit) := do
  lock (.stream id)
  wake id others

/-- Completes a write that was begun. -/
def completeWrite (id : StreamId) (bytes : Nat) (begun : Except AudioError Unit) :
    Act (Except AudioError Nat) := do
  let outcome ← match begun with
    | .error error => pure (.error error)
    | .ok () => writeOpen id bytes
  finishTransfer id (outcome.map fun _ => bytes)

/-- Writes bytes to a stream while others act. -/
def writeAmid (others : List (Act Unit)) (id : StreamId) (bytes : Nat) :
    Act (Except AudioError Nat) := do
  completeWrite id bytes (← beginTransfer others id)

/-- Writes bytes to a stream. -/
def write (id : StreamId) (bytes : Nat) : Act (Except AudioError Nat) :=
  writeAmid [] id bytes

/-- Replaces the buffer of bytes that a stream captures into. -/
def keepRaw (id : StreamId) (raw : List UInt8) : Act Unit :=
  changeStream id fun stream => { stream with raw := raw }

/-- The frames that the PCM of a stream captures. The driver fills the stream's buffer of bytes,
which is cut or lengthened to the size of the request, and the bytes are read as samples. -/
def captured (id : StreamId) (pcm : OpenPcm) : Source Run := fun wanted run =>
  let bytes := wanted * 2
  let raw := padded bytes (run.machine.stream id).raw
  let run := (keepRaw id raw run).2
  let (answer, run) :=
    call (.stream id) .readingPcm (.readPcm id bytes) (onPcm (·.read pcm bytes)) run
  match answer with
  | .ok samples =>
    let (_, raw) := Sample.encodeInto samples raw
    let run := (keepRaw id raw run).2
    let (read, out) := Sample.decodeInto raw (List.replicate wanted 0)
    (⟨out.take read, .ok (wanted / StreamFormat.hardware.channels.toNat)⟩, run)
  | .error error => (.failed error, run)

/-- Pulls frames from a source into a buffer until there are so many. Every pull has to bring some,
so their number bounds the pulls. The buffer comes back as it is then. -/
def collect {σ : Type} (source : Source σ) (channels : Nat) :
    Nat → Nat → List Int16 → σ → (Except AudioError Unit × List Int16) × σ
  | 0, _, buffer, state => ((.ok (), buffer), state)
  | pulls + 1, frames, buffer, state =>
    if frames = 0 then ((.ok (), buffer), state)
    else
      let (delivery, state) := source (frames * channels) state
      let buffer := delivery.fillWithin buffer
      match delivery.frames with
      | .error error => ((.error (.pcm error), buffer), state)
      | .ok 0 => ((.error (.pcm (.transfer "capture chain produced no frames")), buffer), state)
      | .ok got =>
        let done := got * channels
        let ((outcome, rest), state) :=
          collect source channels pulls (frames - got) (buffer.drop done) state
        ((outcome, buffer.take done ++ rest), state)

/-- Reads frames from the PCM of a stream through its pipeline into the stream's buffer of samples,
which is cut or lengthened to the size of the request. -/
def readOpen (id : StreamId) (frames : Nat) : Act (Except AudioError (List Int16)) := do
  let stream ← stream id
  match stream.pcm with
  | none => return .error (.pcm .disconnected)
  | some pcm =>
    let channels := stream.format.channels.toNat
    let buffer := padded (frames * channels) stream.samples
    let (outcome, samples, pipeline) ← modifyGet fun run =>
      let source := Pipeline.through (captured id pcm)
      let ((outcome, samples), pipeline, run) :=
        collect source channels frames frames buffer (stream.pipeline, run)
      ((outcome, samples, pipeline), run)
    changeStream id fun stream => { stream with pipeline := pipeline, samples := samples }
    return outcome.map fun () => samples

/-- Completes a read of whole frames into a buffer that was begun. The answer is the number of
bytes, and the buffer as it is afterwards. -/
def completeRead (id : StreamId) (buffer : List UInt8) (begun : Except AudioError Unit) :
    Act (Except AudioError Nat × List UInt8) := do
  let frameBytes := (← stream id).format.frameBytes
  let frames := buffer.length / frameBytes
  let outcome ← match begun with
    | .error error => pure (.error error)
    | .ok () => readOpen id frames
  match ← finishTransfer id outcome with
  | .error error => return (.error error, buffer)
  | .ok samples => return (.ok (frames * frameBytes), (Sample.encodeInto samples buffer).2)

/-- Reads whole frames into a buffer while others act. A buffer that is too short for a frame is
refused. -/
def readAmid (others : List (Act Unit)) (id : StreamId) (buffer : List UInt8) :
    Act (Except AudioError Nat × List UInt8) := do
  let frameBytes := (← stream id).format.frameBytes
  if buffer.length / frameBytes = 0 then
    let size := buffer.length
    return (.error (.badValue
      s!"read of {size} bytes is shorter than one {frameBytes}-byte frame"), buffer)
  else completeRead id buffer (← beginTransfer others id)

/-- Reads whole frames into a buffer. -/
def read (id : StreamId) (buffer : List UInt8) : Act (Except AudioError Nat × List UInt8) :=
  readAmid [] id buffer

end Act

end PhoneAudio
