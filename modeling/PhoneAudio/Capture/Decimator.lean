import PhoneAudio.Capture.Source
import PhoneAudio.Resample.Stage

/-!
# Decimator

A decimator brings captured frames from the codec's rate down to a lower one. It passes them through
one to three stages; each stage holds the frames that it still needs, and frames that are done but
not yet asked for are held at the end. So the result does not depend on how the frames arrive or are
asked for.
-/

namespace PhoneAudio

open Resample

/-- A decimator with the frames it holds: for each stage those it still needs, and the finished
ones. -/
structure Decimator where
  rate : UInt32
  channels : Nat
  capacity : Nat
  stages : List (Stage × List Frame)
  finished : List Frame := []
deriving DecidableEq, Inhabited

namespace Decimator

/-- The rates a decimator can deliver. -/
def rates : List UInt32 :=
  [8000, 11025, 16000, 22050]

/-- The stages from a rate down to a lower one: a halving as long as it does not overshoot, then the
interpolation. -/
def planFrom (lower rate : Nat) : List Stage :=
  if _above : lower < rate then
    let stage := if 2 * lower ≤ rate then Stage.half else Stage.ratio
    stage :: planFrom lower (stage.rateAfter rate)
  else []
termination_by rate
decreasing_by exact Stage.rateAfter_lt _ (Nat.zero_lt_of_lt _above)

/-- The stages from the codec's rate to a lower one. -/
def plan (rate : UInt32) : List Stage :=
  planFrom rate.toNat StreamFormat.hardware.rate.toNat

/-- A decimator to a rate for so many channels, asking for so many frames at most. -/
def toRate (rate : UInt32) (channels : UInt16) (capacity : Nat) : Except AudioError Decimator :=
  if ¬ rates.contains rate then .error (.badValue s!"cannot downsample to {rate} Hz")
  else if channels ≠ 1 ∧ channels ≠ 2 then
    .error (.badValue s!"cannot downsample {channels} channels")
  else
    .ok
      { rate := rate, channels := channels.toNat, capacity := capacity
        stages := (plan rate).map fun stage => (stage, []) }

/-- Drops all frames that are held. -/
def reset (decimator : Decimator) : Decimator :=
  { decimator with
    stages := decimator.stages.map fun entry => (entry.1, [])
    finished := [] }

/-- Passes new frames through stages: each stage works on what it holds and what comes in, and hands
on what it makes. -/
def pass (channels : Nat) :
    List (Stage × List Frame) → List Frame → List (Stage × List Frame) × List Frame
  | [], frames => ([], frames)
  | (stage, held) :: rest, frames =>
    let input := held ++ frames
    let (after, made) := pass channels rest (stage.run channels input)
    ((stage, input.drop (stage.consumed input.length)) :: after, made)

/-- How many frames have to come before so many more are finished. -/
def missing : List (Stage × List Frame) → Nat → Nat
  | [], wanted => wanted
  | (stage, held) :: rest, wanted => stage.inputFor held.length (missing rest wanted)

/-- The number of frames held by the first stage. -/
def waiting (decimator : Decimator) : Nat :=
  match decimator.stages with
  | [] => 0
  | entry :: _ => entry.2.length

/-- Takes in new frames. -/
def feed (decimator : Decimator) (frames : List Frame) : Decimator :=
  let (stages, made) := pass decimator.channels decimator.stages frames
  { decimator with stages := stages, finished := decimator.finished ++ made }

/-- Takes at most so many finished frames out. -/
def takeFinished (decimator : Decimator) (wanted : Nat) : List Frame × Decimator :=
  (decimator.finished.take wanted,
    { decimator with finished := decimator.finished.drop wanted })

/-- Asks the source for as many frames as there is room for and takes in those that came, at most so
many; the number that the source counts is the answer. Without room the source is not asked. -/
def refill {σ : Type} (source : Source σ) (decimator : Decimator) (state : σ) :
    Except PcmError Nat × Decimator × σ :=
  let room := decimator.capacity - decimator.waiting
  if room = 0 then (.ok 0, decimator, state)
  else
    let (delivery, state) := source (room * decimator.channels) state
    match delivery.frames with
    | .error e => (.error e, decimator, state)
    | .ok 0 => (.ok 0, decimator, state)
    | .ok got =>
      let samples := padded (min got room * decimator.channels) delivery.samples
      (.ok got, decimator.feed (Frame.ofSamples decimator.channels samples), state)

/-- Refills until so many more frames are taken out, the source gives none, or it fails. The answer
is the frames taken out and the failure, if there was one. The number of rounds is bounded. -/
def gather {σ : Type} (source : Source σ) :
    Nat → Nat → Decimator → σ → (List Frame × Option PcmError) × Decimator × σ
  | 0, _, decimator, state => (([], none), decimator, state)
  | rounds + 1, wanted, decimator, state =>
    if wanted = 0 then (([], none), decimator, state)
    else
      match refill source decimator state with
      | (.error e, decimator, state) => (([], some e), decimator, state)
      | (.ok 0, decimator, state) => (([], none), decimator, state)
      | (.ok _, decimator, state) =>
        let (taken, decimator) := decimator.takeFinished wanted
        let ((more, failure), decimator, state) :=
          gather source rounds (wanted - taken.length) decimator state
        ((taken ++ more, failure), decimator, state)

/-- The source at the lower rate. Every refill brings at least one of the frames that are missing,
so their number bounds the rounds. Frames that were taken out before a failure of the source are
written, but not counted. -/
def through {σ : Type} (source : Source σ) : Source (Decimator × σ) := fun wanted state =>
  let (decimator, state) := state
  let frames := wanted / decimator.channels
  let (taken, decimator) := decimator.takeFinished frames
  let rest := frames - taken.length
  let ((more, failure), decimator, state) :=
    gather source (missing decimator.stages rest) rest decimator state
  let frames := taken ++ more
  (⟨Frame.toSamples frames, failure.elim (.ok frames.length) .error⟩, decimator, state)

end Decimator

end PhoneAudio
