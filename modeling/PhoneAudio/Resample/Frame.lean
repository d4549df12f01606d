/-!
# Frames

A frame holds one sample for every channel. Interleaved samples are cut into frames, a rest that is
shorter than a frame is left out, and a channel is read off frames as a column.
-/

namespace PhoneAudio

/-- One sample for every channel. -/
abbrev Frame := List Int16

namespace Frame

/-- Cuts samples into a number of frames. -/
def split (channels : Nat) : Nat → List Int16 → List Frame
  | 0, _ => []
  | count + 1, samples => samples.take channels :: split channels count (samples.drop channels)

/-- The whole frames of interleaved samples. -/
def ofSamples (channels : Nat) (samples : List Int16) : List Frame :=
  split channels (samples.length / channels) samples

/-- Frames as interleaved samples. -/
def toSamples (frames : List Frame) : List Int16 :=
  frames.flatten

/-- The samples of one channel. -/
def column (channel : Nat) (frames : List Frame) : List Int16 :=
  frames.map fun frame => frame.getD channel 0

end Frame

end PhoneAudio
