/-!
# Bench wake lock

A wake lock that only records who takes it and who gives it back.
-/

namespace PhoneAudio

namespace Bench

/-- A call to the wake lock with its tag. -/
inductive WakeCall
  | acquire (tag : String)
  | release (tag : String)
deriving DecidableEq, Inhabited

/-- Whether a tag was taken more often than given back. -/
def wakeHeld (calls : List WakeCall) (tag : String) : Bool :=
  calls.count (.release tag) < calls.count (.acquire tag)

end Bench

end PhoneAudio
