import PhoneAudio.Format
import PhoneAudio.Text.Quoted

/-!
# Errors

What can go wrong in the mixer driver, in the PCM driver and in the operations on the audio
hardware. Each error has a message for people and a diagnostic text that shows how it is built.
-/

namespace PhoneAudio

/-- An error of the mixer driver. -/
inductive MixerError
  | openFailed (reason : String)
  | rejected (control reason : String)
deriving DecidableEq, Inhabited

namespace MixerError

/-- The error as a message. -/
def message : MixerError → String
  | openFailed reason => s!"failed to open mixer: {reason}"
  | rejected control reason => "control '" ++ control ++ "' rejected value: " ++ reason

/-- The diagnostic text of the error. -/
def describe : MixerError → String
  | openFailed reason => Text.record "OpenFailed" [("reason", Text.quote reason)]
  | rejected control reason =>
    Text.record "Rejected" [("control", Text.quote control), ("reason", Text.quote reason)]

end MixerError

/-- An error of the PCM driver. -/
inductive PcmError
  | openFailed (reason : String)
  | notReady
  | transfer (reason : String)
  | disconnected
deriving DecidableEq, Inhabited

namespace PcmError

/-- The error as a message. -/
def message : PcmError → String
  | openFailed reason => s!"cannot open pcm: {reason}"
  | notReady => "pcm not ready"
  | transfer reason => s!"pcm transfer failed: {reason}"
  | disconnected => "pcm disconnected"

/-- The diagnostic text of the error. -/
def describe : PcmError → String
  | openFailed reason => Text.record "OpenFailed" [("reason", Text.quote reason)]
  | notReady => "NotReady"
  | transfer reason => Text.record "Transfer" [("reason", Text.quote reason)]
  | disconnected => "Disconnected"

end PcmError

/-- An error of an operation on the audio hardware or on a stream. -/
inductive AudioError
  | notInitialized
  | invalidOperation (reason : String)
  | unsupported (requested : FormatRequest) (supported : StreamFormat)
  | badValue (reason : String)
  | missingDriver (name : String)
  | mixer (cause : MixerError)
  | pcm (cause : PcmError)
deriving DecidableEq, Inhabited

namespace AudioError

/-- The text of the driver error inside, if there is one. -/
def cause? : AudioError → Option String
  | mixer cause => some cause.message
  | pcm cause => some cause.message
  | _ => none

/-- The error as a message. -/
def message : AudioError → String
  | notInitialized => "audio hardware not initialized"
  | invalidOperation reason => s!"invalid operation: {reason}"
  | unsupported requested supported =>
    "unsupported stream config " ++ requested.describe ++ " (supported: " ++
      supported.describe ++ ")"
  | badValue reason => s!"bad value: {reason}"
  | missingDriver name => s!"missing driver: {name} (configure it on the builder)"
  | mixer cause => "mixer error: " ++ cause.message
  | pcm cause => "pcm error: " ++ cause.message

/-- The diagnostic text of the error. -/
def describe : AudioError → String
  | notInitialized => "NotInitialized"
  | invalidOperation reason => Text.record "InvalidOperation" [("reason", Text.quote reason)]
  | unsupported requested supported =>
    Text.record "UnsupportedConfig"
      [("requested", requested.describe), ("supported", supported.describe)]
  | badValue reason => Text.record "BadValue" [("reason", Text.quote reason)]
  | missingDriver name => Text.record "MissingDriver" [("name", Text.quote name)]
  | mixer cause => "Mixer(" ++ cause.describe ++ ")"
  | pcm cause => "Pcm(" ++ cause.describe ++ ")"

end AudioError

end PhoneAudio
