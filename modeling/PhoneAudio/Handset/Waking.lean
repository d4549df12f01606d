import PhoneAudio.Handset.Standby

/-!
# Leaving standby

A stream leaves standby by opening its PCM, which moves the codec between the directions. The clocks
of the codec follow the PCM that was opened first, so playback is opened before capture: an active
capture stream is closed while playback opens and opened again afterwards, and active playback is
closed and opened again ahead of a capture stream that wakes.
-/

namespace PhoneAudio

namespace Act

/-- Opens a stream again that was closed on behalf of another, or puts it to standby. -/
def reopenOrStandby (id : StreamId) : Act Unit := do
  match ← openLocked id with
  | .ok () => return ()
  | .error _ => standbyLocked id

/-- Settles the outcome of waking a stream: the wake lock is given back after a failure, and the
stream is out of standby otherwise. -/
def settleWaking (id : StreamId) (opened : Except AudioError Unit) :
    Act (Except AudioError Unit) := do
  match opened with
  | .error error =>
    releaseWake id
    return .error error
  | .ok () =>
    changeStatus id fun status => { status with standby := false }
    tell (some id) (.standbyExited (← stream id).direction)
    return .ok ()

/-- Opens a playback stream between closing and opening again the active capture stream. -/
def wakePlayback (id : StreamId) (others : List (Act Unit)) : Act (Except AudioError Unit) := do
  let sibling ← takeOver .capture none others
  tellRetries .capture sibling
  if let some taken := sibling then closeLocked taken.occupant
  let opened ← openLocked id
  if let some taken := sibling then
    reopenOrStandby taken.occupant
    unlock (.stream taken.occupant)
  settleWaking id opened

/-- Opens a capture stream after closing and opening again the active playback stream. While it
waits for that stream it gives its own lock back. -/
def wakeCapture (id : StreamId) (others : List (Act Unit)) : Act (Except AudioError Unit) := do
  let sibling ← takeOver .playback (some id) others
  tellRetries .playback sibling
  if let some taken := sibling then
    closeLocked taken.occupant
    reopenOrStandby taken.occupant
    unlock (.stream taken.occupant)
  let opened ← openLocked id
  settleWaking id opened

/-- Takes a stream out of standby whose lock is held. -/
def wake (id : StreamId) (others : List (Act Unit)) : Act (Except AudioError Unit) := do
  let stream ← stream id
  if stream.isActive then return .ok ()
  else if stream.status.detached then return .error .notInitialized
  else if !(← hardware).present then return .error .notInitialized
  else
    withHardware do
      acquireWake id
      match stream.direction with
      | .playback => wakePlayback id others
      | .capture => wakeCapture id others

end Act

end PhoneAudio
