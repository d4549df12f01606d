import PhoneAudio.CaptureRate
import PhoneAudio.Handset.Standby
import PhoneAudio.Routing.Stock

/-!
# Building, opening, closing and dropping

The life of the audio hardware and of its streams. One playback stream can be open at a time, and
any number of capture streams. Closing a stream detaches it: it can still be asked about, but not be
used.
-/

namespace PhoneAudio

/-- What the audio hardware is built from. -/
structure Plan where
  settings : Settings := {}
  tables : CodecTables := .stock
  hasMixer : Bool := true
  hasPcm : Bool := true

/-- What is wrong with a plan, if anything. -/
def Plan.fault? (plan : Plan) : Option AudioError :=
  if !plan.hasMixer then some (.missingDriver "mixer")
  else if !plan.hasPcm then some (.missingDriver "pcm")
  else plan.settings.fault?.map .badValue

/-- The request that a playback stream accepts: nothing in it differs from the codec's format. -/
def FormatRequest.isNative (request : FormatRequest) : Bool :=
  request.encoding.all (· = StreamFormat.hardware.encoding) &&
    request.channels.all (· = StreamFormat.hardware.channels) &&
    request.rate.all (· = StreamFormat.hardware.rate)

/-- The format that a capture request comes to, with the codec's format for what it leaves out. -/
def FormatRequest.resolved (request : FormatRequest) : StreamFormat where
  encoding := request.encoding.getD .pcm16
  channels := request.channels.getD StreamFormat.hardware.channels
  rate := request.rate.getD StreamFormat.hardware.rate

/-- The capture format closest to a format. -/
def StreamFormat.closestCapture (format : StreamFormat) : StreamFormat where
  encoding := .pcm16
  channels :=
    if format.channels = 1 ∨ format.channels = 2 then format.channels
    else StreamFormat.hardware.channels
  rate := CaptureRate.nearest format.rate

/-- A new playback stream. -/
def Stream.newPlayback (settings : Settings) (devices : Devices) (request : FormatRequest) :
    Except AudioError Stream :=
  if request.isNative then
    .ok
      { direction := .playback, format := .hardware, devices := devices
        bufferBytes := settings.playbackBufferBytes }
  else .error (.unsupported request .hardware)

/-- A new capture stream. -/
def Stream.newCapture (settings : Settings) (devices : Devices) (request : FormatRequest) :
    Except AudioError Stream := do
  let format := request.resolved
  if format = format.closestCapture then
    let pipeline ← Pipeline.ofFormat format settings.capturePeriod.toNat
    return {
      direction := .capture, format := format, devices := devices, pipeline := pipeline
      bufferBytes := CaptureRate.bufferBytes settings.capturePeriod format }
  else .error (.unsupported request format.closestCapture)

namespace Act

/-- Builds the audio hardware. A mixer that does not open leaves it without a router. -/
def build (plan : Plan) : Act (Except AudioError Unit) := do
  match plan.fault? with
  | some error => return .error error
  | none =>
    let _ ← openRouter plan.tables
    change fun machine => { machine with settings := plan.settings }
    changeHardware fun hardware => { hardware with present := true }
    return .ok ()

/-- Reports whether the mixer could be opened. -/
def checkMixer : Act (Except AudioError Unit) := do
  return if (← hardware).router.isSome then .ok () else .error .notInitialized

/-- Adds a stream to those ever opened. -/
def addStream (stream : Stream) : Act StreamId := do
  let id := (← machine).streams.length
  change fun machine => { machine with streams := machine.streams ++ [stream] }
  return id

/-- Opens the playback stream. -/
def openPlayback (devices : Devices) (request : FormatRequest) : Act (Except AudioError StreamId) :=
  withHardware do
    if (← hardware).output.isSome then
      return .error (.invalidOperation "an output stream is already open")
    else
      match Stream.newPlayback (← machine).settings devices request with
      | .error error => return .error error
      | .ok stream =>
        let id ← addStream stream
        changeHardware fun hardware => { hardware with output := some id }
        return .ok id

/-- Opens a capture stream on a single capture device. -/
def openCapture (devices : Devices) (request : FormatRequest) :
    Act (Except AudioError StreamId) := do
  if devices.isCaptureDevice then
    withHardware do
      match Stream.newCapture (← machine).settings devices request with
      | .error error => return .error error
      | .ok stream =>
        let id ← addStream stream
        changeHardware fun hardware => { hardware with inputs := hardware.inputs ++ [id] }
        return .ok id
  else
    let text := Text.hex devices.bits.toNat
    return .error (.badValue s!"{text} is not an input device")

/-- Opens a stream of a direction. -/
def openStream (direction : Direction) (devices : Devices) (request : FormatRequest) :
    Act (Except AudioError StreamId) :=
  match direction with
  | .playback => openPlayback devices request
  | .capture => openCapture devices request

/-- Takes a stream out of the audio hardware and says whether it was there. -/
def takeOut (id : StreamId) : Act Bool :=
  withHardware do
    let isThere := (← machine).isOpen id
    changeHardware fun hardware =>
      { hardware with
        output := hardware.output.filter (· ≠ id)
        inputs := hardware.inputs.erase id }
    return isThere

/-- Marks a stream as closed. -/
def detach (id : StreamId) : Act Unit :=
  changeStatus id fun status => { status with detached := true }

/-- Detaches a stream and puts it to standby. -/
def retire (id : StreamId) : Act Unit := do
  detach id
  let _ ← standby id

/-- The error for closing a stream that is not open. -/
def notOpen : Direction → AudioError
  | .playback => .invalidOperation "not the open output stream"
  | .capture => .invalidOperation "not an open input stream"

/-- Closes a stream. -/
def close (id : StreamId) : Act (Except AudioError Unit) := do
  if ← takeOut id then
    retire id
    return .ok ()
  else
    return .error (notOpen (← stream id).direction)

/-- Detaches streams and puts them to standby, in order. -/
def retireAll : List StreamId → Act Unit
  | [] => return ()
  | id :: rest => do
    retire id
    retireAll rest

/-- Drops the audio hardware: its streams are closed, then the Bluetooth links. -/
def dropHardware : Act Unit := do
  let streams ← withHardware do
    let hardware ← hardware
    changeHardware fun hardware => { hardware with output := none, inputs := [] }
    return hardware.inputs ++ hardware.output.toList
  retireAll streams
  changeHardware fun hardware => { hardware with present := false }
  closeRouter

end Act

end PhoneAudio
