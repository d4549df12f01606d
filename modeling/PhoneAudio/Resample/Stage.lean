import PhoneAudio.Resample.Fir
import PhoneAudio.Resample.Frame

/-!
# Rate reduction stages

A stage reduces the rate of a run of frames. It either filters and leaves out every second frame, or
turns every block of 441 frames into 320 by filtering and linear interpolation. It works on as much
of its input as it can; the frames that it still needs stay with its next input. Channels do not
mix.
-/

namespace PhoneAudio

namespace Resample

/-- The frame that a function of a channel's samples gives for the channels of a run of frames. -/
def eachChannel (channels : Nat) (f : List Int16 → Int16) (frames : List Frame) : Frame :=
  (List.range channels).map fun channel => f (Frame.column channel frames)

/-- Filters and leaves out every second frame. Each frame of the result takes 20 frames of input. -/
def decimate (channels : Nat) : List Frame → List Frame
  | first :: second :: rest =>
    let look := rest.take 18
    if look.length = 18 then
      eachChannel channels (fun samples => clip (fir halfBand samples))
        (first :: second :: look) :: decimate channels rest
    else []
  | _ => []

/-- The frames of a block that the interpolation takes. -/
def blockIn : Nat := 441

/-- The frames that the interpolation makes of a block. -/
def blockOut : Nat := 320

/-- The frames after a block that filtering it needs. -/
def lookahead : Nat := 23

/-- The distance of interpolated frames in frames of input, with 15 binary places. -/
def phaseStep : Nat := 45158

/-- The filtered values at the first samples. -/
def filtered (taps : List Int) : Nat → List Int16 → List Int
  | 0, _ => []
  | count + 1, samples => fir taps samples :: filtered taps count (samples.drop 1)

/-- The value at a phase between two neighbouring filtered values. -/
def interpolate (values : List Int) (phase : Nat) : Int :=
  let whole := phase / 32768
  let left := values.getD whole 0
  let right := values.getD (whole + 1) 0
  left + (right - left) * (phase % 32768 : Nat) / 32768

/-- The interpolated samples of one channel of a block. -/
def resampleBlock (samples : List Int16) : List Int16 :=
  let values := filtered lowPass blockIn samples
  (List.range blockOut).map fun k => clip (interpolate values (k * phaseStep))

/-- The interpolated frames of the block at the front of a run of frames. -/
def block (channels : Nat) (frames : List Frame) : List Frame :=
  let tracks := (List.range channels).map fun channel =>
    resampleBlock (Frame.column channel (frames.take (blockIn + lookahead)))
  (List.range blockOut).map fun k => tracks.map fun track => track.getD k 0

/-- Turns a number of blocks of 441 frames into 320 frames each. -/
def resampleBlocks (channels : Nat) : Nat → List Frame → List Frame
  | 0, _ => []
  | count + 1, frames =>
    block channels frames ++ resampleBlocks channels count (frames.drop blockIn)

/-- The complete blocks in so many frames. -/
def blocks (frames : Nat) : Nat :=
  (frames - lookahead) / blockIn

/-- A reduction of the rate by two, or by 441 to 320. -/
inductive Stage
  | half
  | ratio
deriving DecidableEq, Inhabited

namespace Stage

/-- The rate at which a stage hands frames on that come at a rate. -/
def rateAfter (stage : Stage) (rate : Nat) : Nat :=
  match stage with
  | half => rate / 2
  | ratio => rate * blockOut / blockIn

theorem rateAfter_lt (stage : Stage) {rate : Nat} (positive : 0 < rate) :
    stage.rateAfter rate < rate := by
  unfold rateAfter blockOut blockIn
  cases stage <;> dsimp only <;> omega

/-- The frames that a stage makes of its input. -/
def run (stage : Stage) (channels : Nat) (frames : List Frame) : List Frame :=
  match stage with
  | half => decimate channels frames
  | ratio => resampleBlocks channels (blocks frames.length) frames

/-- How many frames of so many a stage is done with. -/
def consumed (stage : Stage) (frames : Nat) : Nat :=
  match stage with
  | half => if frames < 20 then 0 else frames - frames % 2 - 18
  | ratio => blocks frames * blockIn

/-- How many frames have to come, on top of those held, before so many are made. -/
def inputFor (stage : Stage) (held wanted : Nat) : Nat :=
  if wanted = 0 then 0
  else
    match stage with
    | half => 2 * wanted + 18 - held
    | ratio => blockIn * ((wanted + blockOut - 1) / blockOut) + lookahead - held

end Stage

end Resample

end PhoneAudio
