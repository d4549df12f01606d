import PhoneAudio.Machine.Run

/-!
# Taking a stream over

Streams are locked before the audio hardware. Who holds the lock of the hardware and needs the lock
of the stream that fills a role has to let go of the hardware while waiting, and meanwhile others
may replace that stream or put it to standby. So after each wait the role is looked at again, and
the takeover starts anew unless the same stream still fills it and has not changed its generation.

The first part works on any state. The second is about the streams of the machine, where others act
during some of the waits.
-/

namespace PhoneAudio

namespace Takeover

/-- How a state shows the occupant of a role, and how an occupant is asked for its lock, identified
and left alone again. -/
structure Role (σ ι γ : Type) where
  occupant : σ → Option ι
  request : ι → σ → UInt32 × σ
  generation : ι → σ → UInt32
  release : ι → γ → σ → σ

/-- An occupant that was taken over, what waiting for it gave, and how often the takeover had
started anew. -/
structure Taken (ι γ : Type) where
  occupant : ι
  guard : γ
  retries : UInt32
deriving DecidableEq, Inhabited

/-- How a takeover ends: with an occupant, with an empty role, with more new starts than can be
counted, or still unsettled after all waits. -/
inductive Outcome (ι γ : Type)
  | taken (taken : Taken ι γ)
  | vacant
  | overflowed
  | unsettled
deriving DecidableEq, Inhabited

variable {σ ι γ : Type} [DecidableEq ι]

/-- Takes the occupant of a role over, with one wait for each attempt. A wait gets hold of an
occupant and may change the state in any way. -/
def attempt (role : Role σ ι γ) : List (ι → σ → γ × σ) → UInt32 → σ → Outcome ι γ × σ
  | [], _, state => (.unsettled, state)
  | wait :: waits, retries, state =>
    match role.occupant state with
    | none => (.vacant, state)
    | some occupant =>
      let (generation, state) := role.request occupant state
      let (guard, state) := wait occupant state
      if role.occupant state = some occupant ∧ role.generation occupant state = generation then
        (.taken ⟨occupant, guard, retries⟩, state)
      else
        let state := role.release occupant guard state
        match Word.next? retries with
        | none => (.overflowed, state)
        | some retries => attempt role waits retries state

end Takeover

namespace Act

/-- Asks for the lock of a stream. -/
def askForLock (id : StreamId) : Act Unit :=
  changeStatus id fun status => { status with lockWanted := true }

/-- Takes the lock of a stream that was asked for. -/
def lockFor (id : StreamId) : Act Unit := do
  lock (.stream id)
  changeStatus id fun status => { status with lockWanted := false }

/-- The role of the active stream of a direction. -/
def activeRole (direction : Direction) : Takeover.Role Run StreamId Unit where
  occupant run := run.machine.active direction
  request id run := ((run.machine.stream id).status.generation, (askForLock id run).2)
  generation id run := (run.machine.stream id).status.generation
  release id _ run := (unlock (.stream id) run).2

/-- Waits for a stream with the lock of the hardware given back, and a lock of one's own too, if one
is named. Others act before the stream's lock is free. -/
def waitFor (own : Option StreamId) (others : Act Unit) (id : StreamId) : Act Unit := do
  unlock .hardware
  if let some own := own then unlock (.stream own)
  others
  lockFor id
  if let some own := own then lock (.stream own)
  lock .hardware

/-- Takes the active stream of a direction over. Others act during the first waits, one action for
each; the last wait is undisturbed. Nothing is taken when no stream is active, or when the takeover
had to start anew more often than can be counted. -/
def takeOver (direction : Direction) (own : Option StreamId) (others : List (Act Unit)) :
    Act (Option (Takeover.Taken StreamId Unit)) := fun run =>
  let waits := (others ++ [return ()]).map (waitFor own)
  match Takeover.attempt (activeRole direction) waits 0 run with
  | (.taken taken, run) => (some taken, run)
  | (.vacant, run) => (none, run)
  | (.overflowed, run) => (none, run)
  | (.unsettled, run) => (none, run)

/-- Tells the listener how often a takeover had to start anew, if it had to. -/
def tellRetries (direction : Direction) (taken : Option (Takeover.Taken StreamId Unit)) :
    Act Unit := do
  match taken with
  | none => return ()
  | some taken =>
    if 0 < taken.retries then tell none (.takeoverRetried direction taken.retries)

end Act

end PhoneAudio
