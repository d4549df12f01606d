import PhoneAudio.Error

/-!
# Sample sources

Captured samples are pulled. A source is asked to fill a buffer of so many interleaved samples. It
writes samples to the front of the buffer and says how many frames they are, none when it has
nothing to give, or it fails. A frame has the channels of the source; whoever takes the samples
finds silence where it expects more of them than were written.
-/

namespace PhoneAudio

/-- What a source delivers: the samples that it wrote to the front of the buffer, and the number of
frames that it counts, or its failure. What was written before a failure stays written. -/
structure Delivery where
  samples : List Int16
  frames : Except PcmError Nat
deriving Inhabited

namespace Delivery

/-- The delivery of nothing but a failure. -/
def failed (error : PcmError) : Delivery :=
  ⟨[], .error error⟩

/-- The delivery of whole frames with so many channels. -/
def ofSamples (channels : Nat) (samples : List Int16) : Delivery :=
  ⟨samples, .ok (samples.length / channels)⟩

/-- What a buffer holds after a delivery: behind the written samples it is as it was. -/
def fill (delivery : Delivery) (buffer : List Int16) : List Int16 :=
  delivery.samples ++ buffer.drop delivery.samples.length

/-- What a buffer that does not grow holds after a delivery. -/
def fillWithin (delivery : Delivery) (buffer : List Int16) : List Int16 :=
  (delivery.fill buffer).take buffer.length

end Delivery

/-- The first so many values, with zeros where there are fewer; for samples, that is silence. -/
def padded {α : Type} [OfNat α 0] (count : Nat) (values : List α) : List α :=
  values.take count ++ List.replicate (count - values.length) 0

/-- A source of interleaved samples that works on a state: the number of samples asked for goes
in. -/
abbrev Source (σ : Type) :=
  Nat → σ → Delivery × σ

/-- The source behind a filter, or the source itself where there is no filter. -/
def Source.optionally {φ σ : Type} (through : Source σ → Source (φ × σ)) (source : Source σ) :
    Source (Option φ × σ) := fun wanted state =>
  match state with
  | (none, state) =>
    let (delivery, state) := source wanted state
    (delivery, none, state)
  | (some filter, state) =>
    let (delivery, filter, state) := through source wanted (filter, state)
    (delivery, some filter, state)

end PhoneAudio
