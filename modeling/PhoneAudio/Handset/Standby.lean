import PhoneAudio.Handset.Takeover
import PhoneAudio.Machine.Route

/-!
# Standby

Opening and closing a stream's PCM, and putting a stream to standby. A playback stream sets the
route of ordinary playback when it opens and clears it when it closes; a capture stream sets the
route of capture and leaves it.
-/

namespace PhoneAudio

namespace Act

/-- The route of a call follows the selected devices; outside a call nothing happens. -/
def followDevices (devices : Devices) : Act Unit := do
  if (← hardware).mode = .inCall then
    setRoute .downlink devices.downlinkRoute
    setRoute .uplink devices.uplinkRoute

/-- Closes the PCM of a stream, if it is open. -/
def closeStreamPcm (id : StreamId) : Act Unit := do
  match (← stream id).pcm with
  | none => return ()
  | some pcm =>
    changeStream id fun stream => { stream with pcm := none }
    call (.stream id) .closingPcm (.closePcm (.stream id) pcm.setup) (closing pcm)

/-- Closes a stream whose lock and whose hardware's lock are held. -/
def closeLocked (id : StreamId) : Act Unit := do
  if (← stream id).direction = .playback then setRoute .playback .none
  closeStreamPcm id

/-- Notes that a stream is put to standby, and raises its generation. -/
def age (id : StreamId) : Act Unit := do
  note (.standby id)
  changeStatus id fun status => { status with generation := status.generation + 1 }

/-- Puts a stream to standby whose lock and whose hardware's lock are held. -/
def standbyLocked (id : StreamId) : Act Unit := do
  age id
  if (← stream id).isActive then
    changeStatus id fun status => { status with standby := true }
    releaseWake id
    tell (some id) (.standbyEntered (← stream id).direction)
  closeLocked id

/-- Puts an open PCM into a stream. A PCM that is still there is closed. -/
def installPcm (id : StreamId) (pcm : OpenPcm) : Act Unit := do
  let previous := (← stream id).pcm
  changeStream id fun stream => { stream with pcm := some pcm }
  match previous with
  | none => return ()
  | some previous =>
    bareCall (.closePcm (.stream id) previous.setup) (closing previous)

/-- Sets the route of a stream that has just been opened. In a call, playback is not routed. -/
def routeOpened (id : StreamId) : Act Unit := do
  let stream ← stream id
  match stream.direction with
  | .playback =>
    if (← hardware).mode ≠ .inCall then setRoute .playback stream.devices.playbackRoute
  | .capture =>
    changeStream id fun stream => { stream with pipeline := stream.pipeline.reset }
    setRoute .capture stream.devices.captureRoute

/-- Opens a stream whose lock and whose hardware's lock are held. A PCM that is not ready is closed
again. -/
def openLocked (id : StreamId) : Act (Except AudioError Unit) := do
  let setup := PcmSetup.codec (← machine).settings (← stream id).direction
  let opened ← call (.stream id) .openingPcm (.openPcm (.stream id) setup) (onPcm (·.openPcm setup))
  match opened with
  | .error error => return .error (.pcm error)
  | .ok pcm =>
    if pcm.ready then
      installPcm id pcm
      routeOpened id
      return .ok ()
    else
      call (.stream id) .closingPcm (.closePcm (.stream id) setup) (closing pcm)
      return .error (.pcm .notReady)

/-- Puts a stream to standby. -/
def standby (id : StreamId) : Act (Except AudioError Unit) := do
  if (← hardware).present then
    askForLock id
    lockFor id
    withHardware (standbyLocked id)
    unlock (.stream id)
    return .ok ()
  else
    return .error .notInitialized

end Act

end PhoneAudio
