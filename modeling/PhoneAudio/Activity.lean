/-!
# Driver activity

Every component that talks to a driver notes what it is doing there, so that a dump taken while a
driver call hangs can name the call.
-/

namespace PhoneAudio

/-- What a component is doing in a driver. -/
inductive Activity
  | idle
  | openingPcm
  | closingPcm
  | writingPcm
  | readingPcm
  | openingMixer
  | closingMixer
  | findingControl
  | settingControl
deriving DecidableEq, Inhabited

namespace Activity

/-- The activity's name in diagnostics. -/
def name : Activity → String
  | idle => "None"
  | openingPcm => "PcmOpen"
  | closingPcm => "PcmClose"
  | writingPcm => "PcmWrite"
  | readingPcm => "PcmRead"
  | openingMixer => "MixerOpen"
  | closingMixer => "MixerClose"
  | findingControl => "MixerGet"
  | settingControl => "MixerSet"

end Activity

/-- Driver calls that contain further calls of the same component. -/
inductive CallTree
  | call (activity : Activity) (inner : List CallTree)
deriving Inhabited

namespace CallTree

mutual

/-- What the component's note says on entering each call and after it. -/
def notes : CallTree → List Activity
  | call activity inner => activity :: (notesOfAll inner ++ [.idle])

/-- What the note says during calls in a row. -/
def notesOfAll : List CallTree → List Activity
  | [] => []
  | first :: rest => notes first ++ notesOfAll rest

end

end CallTree

end PhoneAudio
