import PhoneAudio.Error
import PhoneAudio.Routing.Pin

/-!
# Bench mixer

A mixer in memory, for work without hardware. It has every control that is asked for, except those
declared missing, refuses writes to those declared rejected, and logs every write that it accepts.
-/

namespace PhoneAudio

namespace Bench

/-- An accepted write to a control. -/
structure ControlWrite where
  control : String
  value : ControlValue
deriving DecidableEq, Inhabited

/-- The mixer: the controls found so far, whose places are their handles, its faults, all accepted
writes, and how many of them have been taken note of. -/
structure Mixer where
  controls : List String := []
  missing : List String := []
  rejected : List String := []
  failsToOpen : Bool := false
  writes : List ControlWrite := []
  noted : Nat := 0
deriving DecidableEq, Inhabited

namespace Mixer

/-- Opens the mixer. -/
def tryOpen (mixer : Mixer) : Except MixerError Unit :=
  if mixer.failsToOpen then .error (.openFailed "injected failure") else .ok ()

/-- Looks a control up. A control that is new gets the next handle. -/
def find (mixer : Mixer) (control : String) : Option Nat × Mixer :=
  if mixer.missing.contains control then (none, mixer)
  else
    match mixer.controls.idxOf? control with
    | some handle => (some handle, mixer)
    | none =>
      (some mixer.controls.length, { mixer with controls := mixer.controls ++ [control] })

/-- Writes to the control with a handle. -/
def write (mixer : Mixer) (handle : Nat) (value : ControlValue) : Except MixerError Unit × Mixer :=
  match mixer.controls[handle]? with
  | none => (.error (.rejected ("#" ++ toString handle) "unknown control id"), mixer)
  | some control =>
    if mixer.rejected.contains control then
      (.error (.rejected control "injected failure"), mixer)
    else (.ok (), { mixer with writes := mixer.writes ++ [⟨control, value⟩] })

/-- The writes since they were last taken note of. -/
def fresh (mixer : Mixer) : List ControlWrite :=
  mixer.writes.drop mixer.noted

/-- Takes note of all writes. -/
def note (mixer : Mixer) : Mixer :=
  { mixer with noted := mixer.writes.length }

/-- The number last written to a control. -/
def number? (mixer : Mixer) (control : String) : Option Int32 :=
  mixer.writes.reverse.findSome? fun write =>
    match write.value with
    | .number value => if write.control = control then some value else none
    | .choice _ => none

/-- The option last chosen on a control. -/
def choice? (mixer : Mixer) (control : String) : Option String :=
  mixer.writes.reverse.findSome? fun write =>
    match write.value with
    | .number _ => none
    | .choice option => if write.control = control then some option else none

end Mixer

end Bench

end PhoneAudio
