import PhoneAudio.Handset.Control
import PhoneAudio.Handset.Lifecycle
import PhoneAudio.Handset.Transfer

/-!
# Replacing a stream while another operation waits for it

A transfer on a stream is under way, and another operation wants to take that stream over and waits
for its lock. Meanwhile the stream is closed and a new one opened and used in its place. Then the
transfer comes to its end, well or not, and the operation gets the lock, finds the stream replaced
and starts anew. An operation that does not need the stream is done before it is replaced.
-/

namespace PhoneAudio

namespace Act

/-- The bytes of each transfer. -/
def transferBytes : Nat := 64

/-- Completes a transfer that was begun, in the direction of its stream. -/
def completeTransfer (id : StreamId) (begun : Except AudioError Unit) :
    Act (Except AudioError Nat) := do
  match (← stream id).direction with
  | .playback => completeWrite id transferBytes begun
  | .capture => return (← completeRead id (List.replicate transferBytes 0) begun).1

/-- Transfers bytes in the direction of a stream while others act. -/
def transferAmid (others : List (Act Unit)) (id : StreamId) : Act (Except AudioError Nat) := do
  completeTransfer id (← beginTransfer others id)

/-- Starts a transfer and answers with what is left of it. A transfer on a stream that cannot be
taken out of standby fails at once, and nothing is left but its answer. -/
def startTransfer (id : StreamId) : Act (Act (Except AudioError Nat)) := do
  match ← beginTransfer [] id with
  | .ok () => return completeTransfer id (.ok ())
  | .error error =>
    let outcome ← completeTransfer id (.error error)
    return pure outcome

/-- What a new stream is opened with in the place of another: playback on the earpiece, or capture
from the back microphone in the same format. -/
def successor (stream : Stream) : Devices × FormatRequest :=
  match stream.direction with
  | .playback => (.earpiece, {})
  | .capture => (.backMic, .exactly stream.format)

/-- Opens a stream in the place of another and uses it. -/
def useSuccessor (old : Stream) : Act (Except AudioError Nat) := do
  let (devices, request) := successor old
  match ← openStream old.direction devices request with
  | .error error => return .error error
  | .ok new => transferAmid [] new

/-- Keeps the answer to an operation of others. -/
def answer (outcome : Except AudioError Nat) : Act Unit :=
  modify fun run => { run with answers := run.answers ++ [outcome] }

/-- Replaces a stream with a transfer under way: it is taken out and detached, a new one is opened
and used, the rest of the transfer is done, and only then the old stream is put to standby. The
answers kept are those to the transfer, to closing the old stream and to the transfer on the new
one. -/
def replace (id : StreamId) (rest : Act (Except AudioError Nat)) : Act Unit := do
  let old ← stream id
  let wasOpen ← takeOut id
  if wasOpen then detach id
  let transferred ← useSuccessor old
  answer (← rest)
  if wasOpen then
    let _ ← standby id
    answer (.ok 0)
  else answer (.error (notOpen old.direction))
  answer transferred

/-- Replaces a stream if somebody wants its lock. -/
def replaceIfWanted (id : StreamId) (rest : Act (Except AudioError Nat)) : Act Unit := do
  if (← stream id).status.lockWanted then replace id rest

/-- Replaces a stream unless that was done. -/
def replaceUnlessDone (id : StreamId) (rest : Act (Except AudioError Nat)) : Act Unit := do
  if (← get).answers.isEmpty then replace id rest

/-- The operation that may wait for a stream. -/
inductive Waiter
  | setMode (mode : PhoneMode)
  | transfer (id : StreamId)
deriving DecidableEq, Inhabited

/-- Performs the waiting operation while others act during its waits for streams of a direction. -/
def performAmid (direction : Direction) (others : List (Act Unit)) :
    Waiter → Act (Except AudioError Nat)
  | .setMode mode => do
    let outcome ← match direction with
      | .playback => setModeAmid others [] mode
      | .capture => setModeAmid [] others mode
    return outcome.map fun _ => 0
  | .transfer id => transferAmid others id

/-- The answers of a replacement: to the transfer under way, to the operation that may wait for it,
to closing the old stream and to the transfer on the new one. -/
structure Replacement where
  underWay : Except AudioError Nat
  waiter : Except AudioError Nat
  closed : Except AudioError Nat
  successor : Except AudioError Nat

/-- Replaces a stream with a transfer under way while another operation may wait for it. -/
def replaceAmid (id : StreamId) (waiter : Waiter) : Act Replacement := do
  modify fun run => { run with answers := [] }
  let rest ← startTransfer id
  let outcome ← performAmid (← stream id).direction [replaceIfWanted id rest] waiter
  replaceUnlessDone id rest
  let answers := (← get).answers
  let answered (place : Nat) := answers.getD place (.ok 0)
  return ⟨answered 0, outcome, answered 1, answered 2⟩

end Act

end PhoneAudio
