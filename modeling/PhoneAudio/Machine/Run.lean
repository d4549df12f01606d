import PhoneAudio.Machine.State

/-!
# Runs

A run is the present state of the machine with everything that happened so far: each lock taken or
given back, each stream put to standby, each call to a driver and each event, together with the
state at the moment when it happened. Operations are actions on a run. This module has the actions that all others are made of.
-/

namespace PhoneAudio

/-- A lock. -/
inductive Lock
  | hardware
  | stream (id : StreamId)
deriving DecidableEq, Inhabited

/-- A component that calls drivers and notes what it is doing there. -/
inductive Component
  | router
  | stream (id : StreamId)
deriving DecidableEq, Inhabited

/-- Something that happens during an operation. -/
inductive Happening
  | lock (lock : Lock)
  | tryLock (lock : Lock) (taken : Bool)
  | unlock (lock : Lock)
  | standby (stream : StreamId)
  | openMixer
  | findControl (control : String)
  | setControl (control : String) (value : ControlValue)
  | openPcm (owner : Component) (setup : PcmSetup)
  | closePcm (owner : Component) (setup : PcmSetup)
  | startPcm (owner : Component) (setup : PcmSetup)
  | writePcm (stream : StreamId) (bytes : Nat)
  | readPcm (stream : StreamId) (bytes : Nat)
  | acquireWake (stream : StreamId) (tag : String)
  | releaseWake (stream : StreamId) (tag : String)
  | event (stream : Option StreamId) (event : Event)
deriving DecidableEq, Inhabited

/-- Something that happened, with the state just before it took effect. -/
structure Moment where
  what : Happening
  before : Machine

/-- The present state, what happened so far, and the answers to operations that others performed
while an operation of this run was waiting. -/
structure Run where
  machine : Machine := {}
  history : List Moment := []
  answers : List (Except AudioError Nat) := []
deriving Inhabited

/-- An action on a run. -/
abbrev Act := StateM Run

namespace Act

/-- Changes the state. -/
def change (f : Machine → Machine) : Act Unit :=
  modify fun run => { run with machine := f run.machine }

/-- Changes the audio hardware. -/
def changeHardware (f : Hardware → Hardware) : Act Unit :=
  change fun machine => { machine with hardware := f machine.hardware }

/-- Changes a stream. -/
def changeStream (id : StreamId) (f : Stream → Stream) : Act Unit :=
  change fun machine => { machine with streams := machine.streams.modify id f }

/-- Changes the status of a stream. -/
def changeStatus (id : StreamId) (f : StreamStatus → StreamStatus) : Act Unit :=
  changeStream id fun stream => { stream with status := f stream.status }

/-- The present state. -/
def machine : Act Machine := do
  return (← get).machine

/-- The audio hardware. -/
def hardware : Act Hardware := do
  return (← get).machine.hardware

/-- A stream. -/
def stream (id : StreamId) : Act Stream := do
  return (← get).machine.stream id

/-- Notes that something happens. -/
def note (what : Happening) : Act Unit :=
  modify fun run => { run with history := run.history ++ [⟨what, run.machine⟩] }

/-- Sets a lock's state. -/
def setLocked (locked : Bool) : Lock → Act Unit
  | .hardware => changeHardware fun hardware => { hardware with locked := locked }
  | .stream id => changeStream id fun stream => { stream with locked := locked }

/-- Takes a lock. -/
def lock (lock : Lock) : Act Unit := do
  note (.lock lock)
  setLocked true lock

/-- Gives a lock back. -/
def unlock (lock : Lock) : Act Unit := do
  note (.unlock lock)
  setLocked false lock

/-- Runs an action under the lock of the audio hardware. -/
def withHardware {α : Type} (action : Act α) : Act α := do
  lock .hardware
  let answer ← action
  unlock .hardware
  return answer

/-- Notes what a component is doing in a driver. -/
def setActivity (activity : Activity) : Component → Act Unit
  | .router => changeHardware fun hardware => { hardware with activity := activity }
  | .stream id => changeStream id fun stream => { stream with activity := activity }

/-- Lets the drivers work. -/
def drive {α : Type} (effect : Drivers → α × Drivers) : Act α :=
  modifyGet fun run =>
    let (answer, drivers) := effect run.machine.drivers
    (answer, { run with machine := { run.machine with drivers := drivers } })

/-- A driver call that no component takes note of. -/
def bareCall {α : Type} (what : Happening) (effect : Drivers → α × Drivers) : Act α := do
  note what
  drive effect

/-- A driver call that a component takes note of while it lasts. -/
def call {α : Type} (caller : Component) (activity : Activity) (what : Happening)
    (effect : Drivers → α × Drivers) : Act α := do
  setActivity activity caller
  let answer ← bareCall what effect
  setActivity .idle caller
  return answer

/-- Lets the mixer work. -/
def onMixer {α : Type} (effect : Bench.Mixer → α × Bench.Mixer) (drivers : Drivers) : α × Drivers :=
  let (answer, mixer) := effect drivers.mixer
  (answer, { drivers with mixer := mixer })

/-- Lets the PCM driver work. -/
def onPcm {α : Type} (effect : Bench.Pcm → α × Bench.Pcm) (drivers : Drivers) :
    α × Drivers :=
  let (answer, pcm) := effect drivers.pcm
  (answer, { drivers with pcm := pcm })

/-- Lets the PCM driver close a PCM. -/
def closing (pcm : OpenPcm) (drivers : Drivers) : Unit × Drivers :=
  ((), { drivers with pcm := drivers.pcm.closePcm pcm })

/-- Calls the wake lock, if there is one. -/
def callWakeLock (what : Happening) (wakeCall : Bench.WakeCall) : Act Unit := do
  if (← machine).drivers.hasWakeLock then
    bareCall what fun drivers =>
      ((), { drivers with wakeCalls := drivers.wakeCalls ++ [wakeCall] })

/-- Takes the wake lock for a stream. -/
def acquireWake (id : StreamId) : Act Unit := do
  let tag := (← stream id).direction.wakeTag
  callWakeLock (.acquireWake id tag) (.acquire tag)

/-- Gives the wake lock of a stream back. -/
def releaseWake (id : StreamId) : Act Unit := do
  let tag := (← stream id).direction.wakeTag
  callWakeLock (.releaseWake id tag) (.release tag)

/-- Tells the listener, if there is one, about an event. -/
def tell (id : Option StreamId) (event : Event) : Act Unit := do
  if (← machine).drivers.hasListener then
    bareCall (.event id event) fun drivers =>
      ((), { drivers with events := drivers.events ++ [event] })

end Act

end PhoneAudio
