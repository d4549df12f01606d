/-!
# Directions

Sound flows out of the platform or into it. Streams, PCMs and Bluetooth links each have one of the
two directions.
-/

namespace PhoneAudio

/-- The direction in which sound flows. -/
inductive Direction
  | playback
  | capture
deriving DecidableEq, Inhabited

namespace Direction

/-- The direction's name in events and diagnostics. -/
def name : Direction → String
  | playback => "Output"
  | capture => "Input"

/-- The direction's name inside a message. -/
def word : Direction → String
  | playback => "output"
  | capture => "input"

/-- The tag of the wake lock that an active stream of this direction holds. -/
def wakeTag : Direction → String
  | playback => "AudioOutLock"
  | capture => "AudioInLock"

end Direction

end PhoneAudio
