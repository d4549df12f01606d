import PhoneAudio.Handset.Standby

/-!
# Modes and volumes

The operations of the controlling thread: telephony mode, mute, volumes and the path of a call.
Entering and leaving a call puts the active streams to standby and exchanges ordinary routes for
those of the call.
-/

namespace PhoneAudio

namespace Act

/-- Puts a stream that was taken over to standby, if there is one. -/
def standbyTaken (taken : Option (Takeover.Taken StreamId Unit)) : Act Unit := do
  if let some taken := taken then standbyLocked taken.occupant

/-- Gives the lock of a stream that was taken over back, if there is one. -/
def unlockTaken (taken : Option (Takeover.Taken StreamId Unit)) : Act Unit := do
  if let some taken := taken then unlock (.stream taken.occupant)

/-- Exchanges ordinary routes for those of a call. -/
def enterCall : Act Unit := do
  setLaneDisabled .capture true
  setLaneDisabled .playback true
  routeCallVolume (← hardware).callVolume
  setRoute .uplink (.ofList [.mainMic])
  setRoute .downlink (.ofList [.earpiece])

/-- Exchanges the routes of a call for ordinary ones. -/
def leaveCall : Act Unit := do
  setRoute .uplink .none
  setRoute .downlink .none
  setLaneDisabled .playback false
  setLaneDisabled .capture false
  routeCallVolume 0

/-- Sets the mode and tells about a change. -/
def changeMode (mode : PhoneMode) : Act Unit := do
  let previous := (← hardware).mode
  changeHardware fun hardware => { hardware with mode := mode }
  if previous ≠ mode then tell none (.modeChanged previous mode)

/-- Enters or leaves a call when the mode asks for it, with the active streams taken over. -/
def switchCall (mode : PhoneMode) (output input : Option (Takeover.Taken StreamId Unit)) :
    Act Unit := do
  let entering : Bool := mode = .inCall
  if entering ≠ (← hardware).inCall then
    if entering then
      standbyTaken output
      standbyTaken input
      enterCall
    else
      leaveCall
      standbyTaken output
      standbyTaken input
    changeHardware fun hardware => { hardware with inCall := entering }

/-- Sets the telephony mode while others act: the first list during the waits for playback, the
second during those for capture. -/
def setModeAmid (onOutput onInput : List (Act Unit)) (mode : PhoneMode) :
    Act (Except AudioError Unit) := do
  withHardware do
    let output ← takeOver .playback none onOutput
    let input ← takeOver .capture none onInput
    tellRetries .playback output
    tellRetries .capture input
    changeMode mode
    switchCall mode output input
    unlockTaken input
    unlockTaken output
  return .ok ()

/-- Sets the telephony mode. -/
def setMode (mode : PhoneMode) : Act (Except AudioError Unit) :=
  setModeAmid [] [] mode

/-- Mutes the microphones, or not. Muting puts the active capture stream to standby. -/
def setMuted (muted : Bool) : Act (Except AudioError Unit) := do
  let active ← withHardware do
    setLaneDisabled .uplink muted
    setLaneDisabled .capture muted
    changeHardware fun hardware => { hardware with muted := muted }
    if muted then return (← machine).activeCapture else return none
  match active with
  | none => return .ok ()
  | some id => standby id

/-- Sets the volume of calls. Outside a call it is only kept for the next one. -/
def setCallVolume (volume : Float32) : Act (Except AudioError Unit) := do
  withHardware do
    changeHardware fun hardware => { hardware with callVolume := volume }
    if (← hardware).inCall then routeCallVolume volume
  return .ok ()

/-- Sets the volume of media. -/
def setMediaVolume (volume : Float32) : Act (Except AudioError Unit) := do
  withHardware (routeMediaVolume volume)
  return .ok ()

/-- Takes parameters of the hardware as a whole, of which there are none: all are ignored. -/
def applyHardwareParameters (_ : String) : Act (Except AudioError Unit) :=
  return .ok ()

/-- Answers keys about the hardware as a whole: with nothing. -/
def answerHardwareKeys (_ : String) : Act String :=
  return ""

/-- Selects the devices of a call. -/
def setCallDevices (devices : Devices) : Act (Except AudioError Unit) := do
  withHardware (followDevices devices)
  return .ok ()

end Act

end PhoneAudio
