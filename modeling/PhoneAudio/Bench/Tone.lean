/-!
# Bench tone

A sine wave of full scale, the same on every channel, as material for capture.
-/

namespace PhoneAudio

namespace Bench

/-- The sample of a sine wave at a frame. -/
def sineSample (frequency rate : Float) (frame : Nat) : Int16 :=
  let time := frame.toFloat / rate
  ((2 * 3.141592653589793 * frequency * time).sin * 32767).toInt16

/-- A sine wave over so many frames. -/
def sine (frequency : Float) (rate : UInt32) (channels frames : Nat) : List Int16 :=
  (List.range frames).flatMap fun frame =>
    List.replicate channels (sineSample frequency rate.toFloat frame)

end Bench

end PhoneAudio
