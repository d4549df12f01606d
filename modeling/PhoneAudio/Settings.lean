import PhoneAudio.Format

/-!
# Settings

The period layout of the codec's PCMs and the delays of the streams. Durations are in microseconds.
-/

namespace PhoneAudio

/-- The settings of the audio hardware. -/
structure Settings where
  playbackPeriod : UInt32 := 1024
  playbackPeriods : UInt32 := 4
  capturePeriod : UInt32 := 1024
  capturePeriods : UInt32 := 4
  yieldDelay : Nat := 10000
  extraLatency : Nat := 0
  dumpAttempts : UInt32 := 50
  dumpPause : Nat := 20000
deriving DecidableEq, Inhabited

namespace Settings

/-- The shortest period the codec takes, in frames. -/
def leastPeriod : UInt32 := 128

/-- The least number of periods the codec takes. -/
def leastPeriods : UInt32 := 2

/-- The bytes of one playback period. -/
def playbackBufferBytes (settings : Settings) : Nat :=
  settings.playbackPeriod.toNat * StreamFormat.hardware.frameBytes

/-- How many milliseconds the codec's playback buffer lasts, computed in 64-bit words. There is no
answer if the frames in 1000 buffers are too many for a word. -/
def playbackMilliseconds (settings : Settings) : Option UInt64 := do
  let periods ← Word.times? 1000 settings.playbackPeriods.toUInt64
  let frames ← Word.times? periods settings.playbackPeriod.toUInt64
  return frames / StreamFormat.hardware.rate.toUInt64

/-- The time that the codec's playback buffer lasts, cut to milliseconds, and the extra latency
behind it, unless the computation overflows. -/
def playbackLatency (settings : Settings) : Option Nat :=
  settings.playbackMilliseconds.map fun milliseconds =>
    milliseconds.toNat * 1000 + settings.extraLatency

/-- What is wrong with the settings, if anything: a period or a period count below its minimum. -/
def fault? (settings : Settings) : Option String :=
  let periods := [("output_period_size", settings.playbackPeriod),
    ("input_period_size", settings.capturePeriod)]
  let counts := [("output_period_count", settings.playbackPeriods),
    ("input_period_count", settings.capturePeriods)]
  match periods.find? fun entry => entry.2 < leastPeriod with
  | some (name, frames) =>
    some s!"{name} of {frames} frames is below the minimum of {leastPeriod}"
  | none =>
    (counts.find? fun entry => entry.2 < leastPeriods).map fun entry =>
      s!"{entry.1} of {entry.2} is below the minimum of {leastPeriods}"

end Settings

end PhoneAudio
