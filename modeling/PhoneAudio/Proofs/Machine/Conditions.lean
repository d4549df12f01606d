import PhoneAudio.Proofs.Machine.Core

/-!
# Conditions

What the drivers will make of the calls to come: their faults, their scripts and the samples to be
captured. Runs of operations may be put under other conditions before every step
(`PhoneAudio.Run.under`).
-/

namespace PhoneAudio

/-- What the drivers will make of the calls to come. -/
structure Conditions where
  missing : List String := []
  rejected : List String := []
  failsToOpen : Bool := false
  opensNotReady : Bool := false
  failsTransfers : Bool := false
  openScript : List Bench.OpenOutcome := []
  transferScript : List (Option PcmError) := []
  queue : List Int16 := []

/-- The drivers under conditions. -/
def Drivers.under (drivers : Drivers) (conditions : Conditions) : Drivers :=
  { drivers with
    mixer :=
      { drivers.mixer with missing := conditions.missing, rejected := conditions.rejected }
    pcm :=
      { drivers.pcm with
        failsToOpen := conditions.failsToOpen
        opensNotReady := conditions.opensNotReady
        failsTransfers := conditions.failsTransfers
        openScript := conditions.openScript
        transferScript := conditions.transferScript
        queue := conditions.queue } }

namespace Run

/-- The run as it goes on under conditions. -/
def under (run : Run) (conditions : Conditions) : Run :=
  { run with
    machine := { run.machine with drivers := run.machine.drivers.under conditions } }

/-- The conditions of the drivers are not shown. -/
theorem Shows.under {run : Run} {state : Machine} (shows : run.Shows state)
    (conditions : Conditions) : (run.under conditions).Shows state :=
  shows.of_eq rfl rfl rfl

end Run

end PhoneAudio
