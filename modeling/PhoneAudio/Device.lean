import PhoneAudio.Routing.Endpoint

/-!
# Platform devices and telephony modes

The devices that the platform selects with the `routing` parameter, as a bit mask, and the endpoints
that each selection stands for in each lane. Only single devices and two pairs with the loudspeaker
have endpoints; every other selection routes nowhere.
-/

namespace PhoneAudio

/-- The telephony mode of the platform. -/
inductive PhoneMode
  | normal
  | ringtone
  | inCall
  | inCommunication
deriving DecidableEq, Inhabited

namespace PhoneMode

/-- The mode's name. -/
def name : PhoneMode → String
  | normal => "Normal"
  | ringtone => "Ringtone"
  | inCall => "InCall"
  | inCommunication => "InCommunication"

end PhoneMode

/-- A selection of devices: playback devices in the low half, capture devices in the high one. -/
structure Devices where
  bits : UInt32
deriving DecidableEq, Inhabited

namespace Devices

def earpiece : Devices := ⟨0x1⟩
def speaker : Devices := ⟨0x2⟩
def wiredHeadset : Devices := ⟨0x4⟩
def wiredHeadphone : Devices := ⟨0x8⟩
def bluetoothSco : Devices := ⟨0x10⟩
def bluetoothHeadset : Devices := ⟨0x20⟩
def bluetoothCarKit : Devices := ⟨0x40⟩
def communicationMic : Devices := ⟨0x10000⟩
def ambientMic : Devices := ⟨0x20000⟩
def builtInMic : Devices := ⟨0x40000⟩
def bluetoothMic : Devices := ⟨0x80000⟩
def wiredMic : Devices := ⟨0x100000⟩
def auxDigital : Devices := ⟨0x200000⟩
def voiceCall : Devices := ⟨0x400000⟩
def backMic : Devices := ⟨0x800000⟩
def speakerAndHeadset : Devices := ⟨0x6⟩
def speakerAndHeadphone : Devices := ⟨0xa⟩

/-- The single devices with their names in diagnostics, in ascending order. -/
def names : List (Devices × String) :=
  [(earpiece, "OUT_EARPIECE"), (speaker, "OUT_SPEAKER"), (wiredHeadset, "OUT_WIRED_HEADSET"),
    (wiredHeadphone, "OUT_WIRED_HEADPHONE"), (bluetoothSco, "OUT_BLUETOOTH_SCO"),
    (bluetoothHeadset, "OUT_BLUETOOTH_SCO_HEADSET"),
    (bluetoothCarKit, "OUT_BLUETOOTH_SCO_CARKIT"), (communicationMic, "IN_COMMUNICATION"),
    (ambientMic, "IN_AMBIENT"), (builtInMic, "IN_BUILTIN_MIC"),
    (bluetoothMic, "IN_BLUETOOTH_SCO_HEADSET"), (wiredMic, "IN_WIRED_HEADSET"),
    (auxDigital, "IN_AUX_DIGITAL"), (voiceCall, "IN_VOICE_CALL"), (backMic, "IN_BACK_MIC")]

/-- The devices that capture. -/
def captureDevices : List Devices :=
  [communicationMic, ambientMic, builtInMic, bluetoothMic, wiredMic, auxDigital, voiceCall, backMic]

/-- Whether the selection is exactly one capture device. -/
def isCaptureDevice (devices : Devices) : Bool :=
  captureDevices.contains devices

/-- Whether nothing is selected. -/
def isEmpty (devices : Devices) : Bool :=
  devices.bits == 0

/-- The diagnostic text of a selection. -/
def describe (devices : Devices) : String :=
  Text.flags "AudioDevices" (names.map fun entry => (entry.1.bits, entry.2)) devices.bits

/-- The endpoints that play a call on the selected device. -/
def downlinkRoute (devices : Devices) : EndpointSet :=
  if devices = earpiece then .ofList [.earpiece]
  else if devices = speaker then .ofList [.amp, .speaker]
  else if devices = wiredHeadphone ∨ devices = wiredHeadset then .ofList [.amp, .headphone]
  else if devices = bluetoothSco ∨ devices = bluetoothHeadset ∨ devices = bluetoothCarKit then
    .ofList [.bluetooth]
  else .none

/-- The endpoints of ordinary playback on the selected device. -/
def playbackRoute (devices : Devices) : EndpointSet :=
  if devices = speakerAndHeadset ∨ devices = speakerAndHeadphone then
    .ofList [.amp, .speaker, .headphone]
  else devices.downlinkRoute

/-- The microphone that feeds a call while the selected playback device is in use. -/
def uplinkRoute (devices : Devices) : EndpointSet :=
  if devices = earpiece ∨ devices = wiredHeadphone then .ofList [.mainMic]
  else if devices = speaker then .ofList [.backMic]
  else if devices = wiredHeadset then .ofList [.headsetMic]
  else if devices = bluetoothSco ∨ devices = bluetoothHeadset ∨ devices = bluetoothCarKit then
    .ofList [.bluetoothMic]
  else .none

/-- The endpoints of capture from the selected device. -/
def captureRoute (devices : Devices) : EndpointSet :=
  if devices = builtInMic then .ofList [.mainMic]
  else if devices = backMic then .ofList [.backMic]
  else if devices = wiredMic then .ofList [.headsetMic]
  else if devices = bluetoothMic then .ofList [.bluetoothMic]
  else if devices = voiceCall then .ofList [.phoneIn]
  else .none

end Devices

end PhoneAudio
