import PhoneAudio.Direction
import PhoneAudio.Error
import PhoneAudio.Settings

/-!
# Bench PCM driver

A PCM driver in memory. Playback is counted and dropped; capture gives the samples queued for it and
then silence. Faults come from switches that stay, and from two scripts that hold one outcome for
each coming open and each coming transfer.
-/

namespace PhoneAudio

/-- The bus that a PCM runs on. -/
inductive PcmBus
  | codec
  | bluetooth
deriving DecidableEq, Inhabited

/-- What a PCM is opened with. -/
structure PcmSetup where
  direction : Direction
  bus : PcmBus
  periodSize : UInt32
  periodCount : UInt32
  channels : UInt16
  rate : UInt32
deriving DecidableEq, Inhabited

namespace PcmSetup

/-- The Bluetooth link's PCM: narrow-band mono in the shortest layout. -/
def bluetooth (direction : Direction) : PcmSetup where
  direction := direction
  bus := .bluetooth
  periodSize := Settings.leastPeriod
  periodCount := Settings.leastPeriods
  channels := 1
  rate := 8000

/-- The codec's PCM in a direction. -/
def codec (settings : Settings) (direction : Direction) : PcmSetup where
  direction := direction
  bus := .codec
  periodSize :=
    match direction with
    | .playback => settings.playbackPeriod
    | .capture => settings.capturePeriod
  periodCount :=
    match direction with
    | .playback => settings.playbackPeriods
    | .capture => settings.capturePeriods
  channels := StreamFormat.hardware.channels
  rate := StreamFormat.hardware.rate

/-- The bytes of one 16-bit frame. -/
def frameBytes (setup : PcmSetup) : Nat :=
  setup.channels.toNat * 2

end PcmSetup

/-- A PCM that is open. -/
structure OpenPcm where
  setup : PcmSetup
  ready : Bool
  failsToStart : Bool := false
deriving DecidableEq, Inhabited

namespace Bench

/-- What a script plans for an open. -/
inductive OpenOutcome
  /-- The driver decides. -/
  | normal
  /-- The open fails before it reaches the device. -/
  | fails (error : PcmError)
  /-- The PCM opens but is not ready. -/
  | notReady
  /-- The PCM opens but fails to start. -/
  | failsToStart
deriving DecidableEq, Inhabited

/-- An attempted transfer with its number of bytes, or a start. -/
inductive Transfer
  | write (bytes : Nat)
  | read (bytes : Nat)
  | start
deriving DecidableEq, Inhabited

/-- The PCM driver: its faults, its scripts, what was opened, what is open, what was transferred,
and the samples queued for capture. -/
structure Pcm where
  failsToOpen : Bool := false
  opensNotReady : Bool := false
  failsTransfers : Bool := false
  openScript : List OpenOutcome := []
  transferScript : List (Option PcmError) := []
  opened : List PcmSetup := []
  live : List (PcmBus × Direction) := []
  transfers : List Transfer := []
  written : Nat := 0
  queue : List Int16 := []
deriving DecidableEq, Inhabited

namespace Pcm

/-- The samples that fit into the capture queue. -/
def capacity : Nat := 262144

/-- Opens a PCM as the device does. -/
def openDevice (driver : Pcm) (setup : PcmSetup) : Except PcmError OpenPcm × Pcm :=
  if driver.failsToOpen then (.error (.openFailed "injected failure"), driver)
  else
    (.ok { setup := setup, ready := !driver.opensNotReady },
      { driver with
        opened := driver.opened ++ [setup]
        live := (setup.bus, setup.direction) :: driver.live })

/-- Opens a PCM: the script's next outcome first, then the device. -/
def openPcm (driver : Pcm) (setup : PcmSetup) : Except PcmError OpenPcm × Pcm :=
  match driver.openScript with
  | [] => driver.openDevice setup
  | outcome :: rest =>
    let driver := { driver with openScript := rest }
    match outcome with
    | .normal => driver.openDevice setup
    | .fails error => (.error error, driver)
    | .notReady =>
      let (answer, driver) := driver.openDevice setup
      (answer.map fun pcm => { pcm with ready := false }, driver)
    | .failsToStart =>
      let (answer, driver) := driver.openDevice setup
      (answer.map fun pcm => { pcm with failsToStart := true }, driver)

/-- Closes a PCM. -/
def closePcm (driver : Pcm) (pcm : OpenPcm) : Pcm :=
  { driver with live := driver.live.erase (pcm.setup.bus, pcm.setup.direction) }

/-- Starts a PCM without a transfer. -/
def start (driver : Pcm) (pcm : OpenPcm) : Except PcmError Unit × Pcm :=
  let driver := { driver with transfers := driver.transfers ++ [.start] }
  (if pcm.failsToStart then .error (.transfer "scripted failure") else .ok (), driver)

/-- Begins a transfer: the attempt is logged, then the script's next outcome counts, then the
device's own faults. -/
def beginTransfer (driver : Pcm) (pcm : OpenPcm) (attempt : Transfer) :
    Except PcmError Unit × Pcm :=
  let planned := driver.transferScript.head?.join
  let driver :=
    { driver with
      transfers := driver.transfers ++ [attempt]
      transferScript := driver.transferScript.tail }
  match planned with
  | some error => (.error error, driver)
  | none =>
    if driver.failsTransfers then (.error (.transfer "injected failure"), driver)
    else if pcm.ready then (.ok (), driver)
    else (.error .notReady, driver)

/-- Writes so many bytes. -/
def write (driver : Pcm) (pcm : OpenPcm) (bytes : Nat) : Except PcmError Unit × Pcm :=
  match driver.beginTransfer pcm (.write bytes) with
  | (.ok (), driver) => (.ok (), { driver with written := driver.written + bytes })
  | (.error error, driver) => (.error error, driver)

/-- Reads so many bytes: all samples that they hold, from the queue as far as it goes. -/
def read (driver : Pcm) (pcm : OpenPcm) (bytes : Nat) :
    Except PcmError (List Int16) × Pcm :=
  match driver.beginTransfer pcm (.read bytes) with
  | (.ok (), driver) =>
    let queued := driver.queue.take (bytes / 2)
    (.ok (queued ++ List.replicate (bytes / 2 - queued.length) 0),
      { driver with queue := driver.queue.drop (bytes / 2) })
  | (.error error, driver) => (.error error, driver)

/-- Queues samples for capture as far as they fit, and says how many do. -/
def enqueue (driver : Pcm) (samples : List Int16) : Nat × Pcm :=
  let accepted := samples.take (capacity - driver.queue.length)
  (accepted.length, { driver with queue := driver.queue ++ accepted })

/-- How many PCMs are open on a bus in a direction. -/
def liveOn (driver : Pcm) (bus : PcmBus) (direction : Direction) : Nat :=
  driver.live.count (bus, direction)

/-- How many PCMs are open on a bus. -/
def liveAt (driver : Pcm) (bus : PcmBus) : Nat :=
  driver.live.countP fun entry => entry.1 = bus

/-- How many PCMs were opened on a bus. -/
def opensOn (driver : Pcm) (bus : PcmBus) : Nat :=
  driver.opened.countP fun setup => setup.bus = bus

end Pcm

end Bench

end PhoneAudio
