import PhoneAudio.Capture.Source

/-!
# Bench source

A source of prepared samples that logs what it is asked for, gives no more frames in a call than its
script allows, and fails in the calls that are listed.
-/

namespace PhoneAudio

namespace Bench

/-- Prepared samples with the script of the calls. Without a script of frames there is no limit. -/
structure ScriptedSource where
  channels : Nat
  limits : List Nat := []
  failures : List (Nat × PcmError) := []
  samples : List Int16 := []
  calls : Nat := 0
  asked : List Nat := []
deriving DecidableEq, Inhabited

namespace ScriptedSource

/-- The most frames that a call gives. -/
def limit? (source : ScriptedSource) (call : Nat) : Option Nat :=
  source.limits[call % source.limits.length]?

/-- The frames that a call gives of those asked for. -/
def granted (source : ScriptedSource) (wanted : Nat) : Nat :=
  let frames := min (wanted / source.channels) (source.samples.length / source.channels)
  (source.limit? source.calls).elim frames (min frames)

/-- Answers a call. -/
def pull : Source ScriptedSource := fun wanted source =>
  let called := { source with calls := source.calls + 1, asked := source.asked ++ [wanted] }
  match source.failures.find? fun failure => failure.1 = source.calls with
  | some (_, error) => (.failed error, called)
  | none =>
    let frames := source.granted wanted
    let count := frames * source.channels
    (⟨source.samples.take count, .ok frames⟩, { called with samples := source.samples.drop count })

end ScriptedSource

end Bench

end PhoneAudio
