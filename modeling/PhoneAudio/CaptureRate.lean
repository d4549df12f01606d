import PhoneAudio.Format

/-!
# Capture rates

The rates at which a capture stream delivers, the one closest to a request, and the size of the
buffer that one period of the codec fills at a rate.
-/

namespace PhoneAudio

namespace CaptureRate

/-- The rates a capture stream can deliver, in ascending order. -/
def supported : List UInt32 :=
  [8000, 11025, 16000, 22050, 44100]

/-- The distance between two rates. -/
def distance (a b : UInt32) : Nat :=
  max a.toNat b.toNat - min a.toNat b.toNat

/-- The search for the closest rate among ascending ones: it goes on as long as the distance does
not grow. -/
def closest (requested best : UInt32) (least : Nat) : List UInt32 → UInt32
  | [] => best
  | rate :: rest =>
    if least < distance rate requested then best
    else closest requested rate (distance rate requested) rest

/-- The supported rate closest to the requested one. -/
def nearest (requested : UInt32) : UInt32 :=
  closest requested 8000 (UInt32.size - 1) supported

/-- By how much the buffer shrinks from the codec's rate to a capture rate. -/
def decimation (rate : UInt32) : Nat :=
  if rate = 8000 ∨ rate = 11025 then 4
  else if rate = 16000 ∨ rate = 22050 then 2
  else 1

/-- Whether a stream can capture in a format. -/
def captures (format : StreamFormat) : Bool :=
  format.encoding = .pcm16 && (format.channels = 1 || format.channels = 2) &&
    supported.contains format.rate

/-- The bytes that one period of the codec fills in a capture format; none in any other format. -/
def bufferBytes (period : UInt32) (format : StreamFormat) : Nat :=
  if captures format then
    period.toNat * format.channels.toNat * format.encoding.sampleBytes / decimation format.rate
  else 0

end CaptureRate

end PhoneAudio
