/-!
# Samples as fractions

Conversion between signed 16-bit samples and fractions of full scale.
-/

namespace PhoneAudio

namespace Sample

/-- The sample for a fraction of full scale: cut to a whole number and kept within 16 bits. What is
no number becomes silence. -/
def ofFraction (x : Float32) : Int16 :=
  (x * 32767).toInt16

/-- The fraction of full scale that a sample stands for. -/
def toFraction (sample : Int16) : Float32 :=
  sample.toFloat32 / 32768

end Sample

end PhoneAudio
