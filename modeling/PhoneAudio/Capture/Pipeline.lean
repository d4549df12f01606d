import PhoneAudio.Capture.Decimator
import PhoneAudio.Capture.Downmix

/-!
# Capture pipeline

What lies between the codec's captured frames and a stream: a downmix when the stream is mono, then
a decimator when its rate is lower. The same two filters can also be stacked freely into a cascade.
-/

namespace PhoneAudio

/-- The filters of a capture stream. -/
structure Pipeline where
  downmix : Option Downmix := none
  decimator : Option Decimator := none
deriving DecidableEq, Inhabited

namespace Pipeline

/-- The downmix that a channel count needs, if any. -/
def downmixFor (channels : UInt16) (capacity : Nat) : Except AudioError (Option Downmix) :=
  if channels = StreamFormat.hardware.channels then .ok none
  else (Downmix.ofChannels channels StreamFormat.hardware.channels capacity).map some

/-- The decimator that a rate needs, if any. -/
def decimatorFor (rate : UInt32) (channels : UInt16) (capacity : Nat) :
    Except AudioError (Option Decimator) :=
  if rate = StreamFormat.hardware.rate then .ok none
  else (Decimator.toRate rate channels capacity).map some

/-- The pipeline that delivers a format, with filters that ask for so many frames at most. -/
def ofFormat (format : StreamFormat) (capacity : Nat) : Except AudioError Pipeline := do
  let downmix ← downmixFor format.channels capacity
  let decimator ← decimatorFor format.rate format.channels capacity
  return ⟨downmix, decimator⟩

/-- Whether captured frames pass unchanged. -/
def isTransparent (pipeline : Pipeline) : Bool :=
  pipeline.downmix.isNone && pipeline.decimator.isNone

/-- Drops all frames that are held. -/
def reset (pipeline : Pipeline) : Pipeline :=
  { pipeline with decimator := pipeline.decimator.map Decimator.reset }

/-- The source behind all filters. -/
def through {σ : Type} (source : Source σ) : Source (Pipeline × σ) := fun wanted state =>
  let (pipeline, state) := state
  let mixed := Source.optionally Downmix.through source
  let (delivery, decimator, downmix, state) :=
    Source.optionally Decimator.through mixed wanted (pipeline.decimator, pipeline.downmix, state)
  (delivery, ⟨downmix, decimator⟩, state)

end Pipeline

/-- A filter of a cascade. -/
inductive Filter
  | downmix (downmix : Downmix)
  | decimator (decimator : Decimator)
deriving DecidableEq, Inhabited

namespace Filter

/-- The rate that a filter delivers, if it sets one. -/
def rate? : Filter → Option UInt32
  | downmix _ => none
  | decimator filter => some filter.rate

/-- Drops all frames that are held. -/
def reset : Filter → Filter
  | downmix filter => downmix filter
  | decimator filter => decimator filter.reset

/-- The source behind a filter. -/
def through {σ : Type} (source : Source σ) : Source (Filter × σ) := fun wanted state =>
  match state with
  | (downmix filter, state) =>
    let (delivery, filter, state) := Downmix.through source wanted (filter, state)
    (delivery, downmix filter, state)
  | (decimator filter, state) =>
    let (delivery, filter, state) := Decimator.through source wanted (filter, state)
    (delivery, decimator filter, state)

end Filter

/-- The state of so many stacked filters over a source, the filter next to the caller first. -/
def Cascade (σ : Type) : Nat → Type
  | 0 => σ
  | depth + 1 => Filter × Cascade σ depth

namespace Cascade

variable {σ : Type}

/-- Stacks filters over the state of a source. -/
def stack (source : σ) : (filters : List Filter) → Cascade σ filters.length
  | [] => source
  | filter :: rest => (filter, stack source rest)

/-- The source behind all filters. -/
def through (source : Source σ) : (depth : Nat) → Source (Cascade σ depth)
  | 0 => source
  | depth + 1 => Filter.through (through source depth)

/-- Drops all frames that the filters hold. -/
def reset : (depth : Nat) → Cascade σ depth → Cascade σ depth
  | 0, state => state
  | depth + 1, (filter, rest) => (filter.reset, reset depth rest)

/-- The state of the source under the filters. -/
def source : (depth : Nat) → Cascade σ depth → σ
  | 0, state => state
  | depth + 1, (_, rest) => source depth rest

/-- Changes the state of the source under the filters. -/
def mapSource (f : σ → σ) : (depth : Nat) → Cascade σ depth → Cascade σ depth
  | 0, state => f state
  | depth + 1, (filter, rest) => (filter, mapSource f depth rest)

end Cascade

end PhoneAudio
