/-!
# Low-pass filters

Finite impulse response filters over signed 16-bit samples. Samples are fractions with 15 binary
places and taps fractions with 30; the taps are cut to 14 places before they are used, and the sum
is rounded back to 15. A result is clipped to 16 bits only when it becomes a sample.
-/

namespace PhoneAudio

namespace Resample

/-- The taps ahead of leaving out every second frame, with 30 binary places. -/
def halvingTaps : List Int :=
  [2089257, 2898328, -5820678, -10484531, 19038724, 30542725, -50469415, -81505260, 152544464,
    478517512, 478517512, 152544464, -81505260, -50469415, 30542725, 19038724, -10484531, -5820678,
    2898328, 2089257]

/-- The taps ahead of interpolating 441 frames to 320, with 30 binary places. -/
def ratioTaps : List Int :=
  [2057290, -2973608, 1880478, 4362037, -14639744, 18523609, -1609189, -38502470, 78073125,
    -68353935, -59103896, 617555440, 617555440, -59103896, -68353935, 78073125, -38502470, -1609189,
    18523609, -14639744, 4362037, 1880478, -2973608, 2057290]

/-- Taps cut from 30 binary places to 14. -/
def cutTaps (taps : List Int) : List Int :=
  taps.map fun (tap : Int) => tap / 65536

/-- The half-band filter. -/
def halfBand : List Int :=
  cutTaps halvingTaps

/-- The filter ahead of the interpolation. -/
def lowPass : List Int :=
  cutTaps ratioTaps

/-- The sum of products of taps and samples, on top of a start value. -/
def accumulate (start : Int) (taps : List Int) (samples : List Int16) : Int :=
  (taps.zip samples).foldl (fun sum pair => sum + pair.2.toInt * pair.1) start

/-- The filtered value at the first sample: the weighted sum, rounded back to 15 binary places. -/
def fir (taps : List Int) (samples : List Int16) : Int :=
  accumulate 8192 taps samples / 16384

/-- The closest 16-bit sample. -/
def clip (x : Int) : Int16 :=
  Int16.ofInt (max (-32768) (min 32767 x))

end Resample

end PhoneAudio
