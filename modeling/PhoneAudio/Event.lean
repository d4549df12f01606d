import PhoneAudio.Device
import PhoneAudio.Direction

/-!
# Events

What the audio hardware tells a listener while it runs. Events report; nothing depends on them.
-/

namespace PhoneAudio

/-- An event of the audio hardware or of one of its streams. -/
inductive Event
  /-- A stream went to standby. -/
  | standbyEntered (stream : Direction)
  /-- A stream left standby. -/
  | standbyExited (stream : Direction)
  /-- Taking over a stream had to start again so often. -/
  | takeoverRetried (stream : Direction) (attempts : UInt32)
  /-- The telephony mode changed. -/
  | modeChanged (previous current : PhoneMode)
  /-- A transfer of a stream failed with an error of this text. -/
  | transferFailed (stream : Direction) (error : String)
deriving DecidableEq, Inhabited

end PhoneAudio
