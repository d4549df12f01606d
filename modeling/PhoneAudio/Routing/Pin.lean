/-!
# Pins

A pin says what is written to a mixer control when an endpoint is enabled, and what, if anything,
when it is disabled.
-/

namespace PhoneAudio

/-- What is written to a mixer control: a number, or an option of a multiplexer. -/
inductive ControlValue
  | number (value : Int32)
  | choice (option : String)
deriving DecidableEq, Inhabited

/-- A mixer control with the value that enables it and the value that reverts it. -/
structure Pin where
  control : String
  enabled : ControlValue
  disabled : Option ControlValue
deriving DecidableEq, Inhabited

namespace Pin

/-- A switch that is turned the other way to revert it. -/
def toggle (control : String) (active : Bool) : Pin where
  control := control
  enabled := .number (if active then 1 else 0)
  disabled := some (.number (if active then 0 else 1))

/-- A number. A negative resting value means that the control is left alone. -/
def level (control : String) (active resting : Int32) : Pin where
  control := control
  enabled := .number active
  disabled := if resting < 0 then none else some (.number resting)

/-- A multiplexer that goes back to the resting option, if there is one. -/
def choose (control active : String) (resting : Option String) : Pin where
  control := control
  enabled := .choice active
  disabled := resting.map .choice

end Pin

end PhoneAudio
