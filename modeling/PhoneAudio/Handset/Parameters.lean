import PhoneAudio.Handset.Standby
import PhoneAudio.KeyValues

/-!
# Stream parameters

The only parameter of a stream is `routing`, the selected devices as a number. Selecting other
devices puts the stream to standby, so that its next transfer opens on the new route; in a call the
route of the call follows the devices of the playback stream instead.
-/

namespace PhoneAudio

/-- The key of the selected devices. -/
def routingKey : String := "routing"

/-- The devices that parameters select: a number of 32 bits. -/
def selectedDevices? (pairs : KeyValues) : Option Devices :=
  (pairs.int? routingKey).bind fun value =>
    if 0 ≤ value ∧ value < 4294967296 then some ⟨value.toNat.toUInt32⟩ else none

namespace Act

/-- Selects devices for a stream whose lock is held. An empty selection changes nothing. -/
def selectDevices (id : StreamId) (devices : Devices) : Act Unit := do
  if devices.isEmpty then return ()
  else
    withHardware do
      let stream ← stream id
      let inCall := (← hardware).mode = .inCall
      let follows := stream.direction = .playback ∧ inCall
      if stream.devices ≠ devices ∧ ¬ follows then standbyLocked id
      changeStream id fun stream => { stream with devices := devices }
      if follows then followDevices devices

/-- Sets parameters of a stream. Pairs that no parameter takes are refused, after the others have
been applied. -/
def applyParameters (id : StreamId) (text : String) : Act (Except AudioError Unit) := do
  if (← hardware).present then
    let pairs := KeyValues.ofText text
    askForLock id
    lockFor id
    let rest ← match selectedDevices? pairs with
      | none => pure pairs
      | some devices =>
        selectDevices id devices
        pure (pairs.erase routingKey).2
    unlock (.stream id)
    if rest.isEmpty then return .ok ()
    else
      let word := (← stream id).direction.word
      return .error (.badValue s!"unsupported {word} parameters: {rest.toText}")
  else
    return .error .notInitialized

/-- Answers the keys of a text with the parameters of a stream. -/
def answerKeys (id : StreamId) (keys : String) : Act String := do
  let pairs := KeyValues.ofText keys
  if pairs.contains routingKey then
    lock (.stream id)
    let devices := (← stream id).devices
    unlock (.stream id)
    return (pairs.insert routingKey (toString devices.bits)).toText
  else
    return pairs.toText

end Act

end PhoneAudio
