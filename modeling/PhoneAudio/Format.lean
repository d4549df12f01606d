import PhoneAudio.Text.Record
import PhoneAudio.Word

/-!
# Stream formats

The encoding, channel count and sample rate of a stream, and a caller's request for them, in which
each part may be left to the stream.
-/

namespace PhoneAudio

/-- The encoding of a sample: signed 16-bit little-endian, or unsigned 8-bit. -/
inductive Encoding
  | pcm16
  | pcm8
deriving DecidableEq, Inhabited

namespace Encoding

/-- The bytes of one sample. -/
def sampleBytes : Encoding → Nat
  | pcm16 => 2
  | pcm8 => 1

/-- The encoding's name in diagnostics. -/
def name : Encoding → String
  | pcm16 => "Pcm16"
  | pcm8 => "Pcm8"

end Encoding

/-- The format of a stream. -/
structure StreamFormat where
  encoding : Encoding
  channels : UInt16
  rate : UInt32
deriving DecidableEq, Inhabited

namespace StreamFormat

/-- The codec's own format, for playback and for capture. -/
def hardware : StreamFormat where
  encoding := .pcm16
  channels := 2
  rate := 44100

/-- The bytes of one frame, a sample for every channel. -/
def frameBytes (format : StreamFormat) : Nat :=
  format.channels.toNat * format.encoding.sampleBytes

/-- How long so many bytes last, in microseconds. It is computed in 64-bit words, and both quotients
are cut to whole numbers. There is no answer if a product overflows. -/
def microseconds (format : StreamFormat) (bytes : UInt64) : Option UInt64 := do
  let thousands ← Word.times? bytes 1000
  let frames ← Word.times? (thousands / (max format.frameBytes 1).toUInt64) 1000
  return frames / max format.rate.toUInt64 1

/-- The diagnostic text of a format. -/
def describe (format : StreamFormat) : String :=
  Text.record "StreamParams"
    [("format", format.encoding.name), ("channels", toString format.channels),
      ("sample_rate", toString format.rate)]

end StreamFormat

/-- A request for a format; what is left out is up to the stream. -/
structure FormatRequest where
  encoding : Option Encoding := none
  channels : Option UInt16 := none
  rate : Option UInt32 := none
deriving DecidableEq, Inhabited

namespace FormatRequest

/-- A request for 16-bit samples at a rate and a channel count. -/
def pcm16 (rate : UInt32) (channels : UInt16) : FormatRequest where
  encoding := some .pcm16
  channels := some channels
  rate := some rate

/-- The request that asks for exactly this format. -/
def exactly (format : StreamFormat) : FormatRequest where
  encoding := some format.encoding
  channels := some format.channels
  rate := some format.rate

/-- The diagnostic text of a request. -/
def describe (request : FormatRequest) : String :=
  Text.record "StreamRequest"
    [("format", Text.optional (request.encoding.map Encoding.name)),
      ("channels", Text.optional (request.channels.map toString)),
      ("sample_rate", Text.optional (request.rate.map toString))]

end FormatRequest

end PhoneAudio
