import PhoneAudio.Capture.Source

/-!
# Downmix

Stereo frames become mono frames: every pair of samples gives its mean, cut towards zero.
-/

namespace PhoneAudio

/-- A downmix that asks for so many frames at most. It keeps the buffer that it hands to its source;
what lies behind the listed samples is silence. -/
structure Downmix where
  capacity : Nat
  buffer : List Int16 := []
deriving DecidableEq, Inhabited

namespace Downmix

/-- A downmix between channel counts; only two channels into one will do. -/
def ofChannels (into sources : UInt16) (capacity : Nat) : Except AudioError Downmix :=
  if into = 1 ∧ sources = 2 then .ok { capacity := capacity }
  else .error (.badValue s!"cannot mix {sources} channels into {into}")

/-- The mean of two samples, cut towards zero. -/
def mean (left right : Int16) : Int16 :=
  Int16.ofInt ((left.toInt + right.toInt).tdiv 2)

/-- The mono samples of interleaved stereo samples. -/
def mix : List Int16 → List Int16
  | left :: right :: rest => mean left right :: mix rest
  | _ => []

/-- The mono source over a stereo source. It mixes as many pairs as the source counts frames, no
more than it asked for, and passes that count on. -/
def through {σ : Type} (source : Source σ) : Source (Downmix × σ) := fun wanted state =>
  let (downmix, state) := state
  let most := min wanted downmix.capacity
  let (delivery, state) := source (2 * most) state
  let buffer := delivery.fill downmix.buffer
  let mixed :=
    match delivery.frames with
    | .ok got => mix (padded (2 * min got most) buffer)
    | .error _ => []
  (⟨mixed, delivery.frames⟩, { downmix with buffer := buffer }, state)

end Downmix

end PhoneAudio
