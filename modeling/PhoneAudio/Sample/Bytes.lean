/-!
# Samples as bytes

Signed 16-bit samples as pairs of bytes, the low byte first. Both directions fill the front of a
destination and leave alone what the source does not reach; an odd last byte is never touched.
-/

namespace PhoneAudio

namespace Sample

/-- The low byte of a sample. -/
def lowByte (sample : Int16) : UInt8 :=
  sample.toUInt16.toUInt8

/-- The high byte of a sample. -/
def highByte (sample : Int16) : UInt8 :=
  (sample.toUInt16 >>> 8).toUInt8

/-- The sample that two bytes stand for. -/
def ofBytes (low high : UInt8) : Int16 :=
  (low.toUInt16 ||| (high.toUInt16 <<< 8)).toInt16

/-- Writes samples into the front of a run of bytes. The number of bytes written is the answer. -/
def encodeInto : List Int16 → List UInt8 → Nat × List UInt8
  | sample :: samples, _ :: _ :: bytes =>
    let rest := encodeInto samples bytes
    (rest.1 + 2, lowByte sample :: highByte sample :: rest.2)
  | _, bytes => (0, bytes)

/-- Reads bytes into the front of a run of samples. The number of samples read is the answer. -/
def decodeInto : List UInt8 → List Int16 → Nat × List Int16
  | low :: high :: bytes, _ :: samples =>
    let rest := decodeInto bytes samples
    (rest.1 + 1, ofBytes low high :: rest.2)
  | _, samples => (0, samples)

end Sample

end PhoneAudio
