import PhoneAudio.Machine.Run

/-!
# Routing on the machine

How the router's steps are taken. A write to a control that is missing or refuses it is left out,
and the steps after it are taken all the same. A Bluetooth link is opened with the first hold of it
and closed when the last one is let go; a link that fails to open is held all the same, so that
holds stay balanced.
-/

namespace PhoneAudio

namespace Act

/-- Writes a value to a control, if there is such a control. -/
def writeControl (control : String) (value : ControlValue) : Act Unit := do
  let handle ← call .router .findingControl (.findControl control) (onMixer (·.find control))
  match handle with
  | none => return ()
  | some handle =>
    let _ ← call .router .settingControl (.setControl control value)
      (onMixer (·.write handle value))

/-- Opens and starts the PCM of a link. -/
def openLink (direction : Direction) : Act (Option OpenPcm) := do
  let setup := PcmSetup.bluetooth direction
  let opened ← bareCall (.openPcm .router setup) (onPcm (·.openPcm setup))
  match opened with
  | .error _ => return none
  | .ok pcm =>
    if pcm.ready then
      let _ ← bareCall (.startPcm .router setup) (onPcm (·.start pcm))
    return some pcm

/-- Replaces the link of a direction. -/
def setLink (direction : Direction) (link : LinkEnd) : Act Unit :=
  changeHardware fun hardware => { hardware with links := hardware.links.set direction link }

/-- Closes the PCM of a link, if it is open. -/
def closeLink (direction : Direction) : Act Unit := do
  let link := (← hardware).links.get direction
  setLink direction { link with pcm := none }
  match link.pcm with
  | none => return ()
  | some pcm => bareCall (.closePcm .router pcm.setup) (closing pcm)

/-- Takes one more hold of a link. With as many holds as can be counted, nothing happens: the
program stops there. -/
def holdLink (direction : Direction) : Act Unit := do
  let link := (← hardware).links.get direction
  match Word.next? link.holds with
  | none => return ()
  | some holds =>
    setLink direction { link with holds := holds }
    if holds = 1 then
      let pcm ← openLink direction
      setLink direction ⟨1, pcm⟩

/-- Lets go of one hold of a link. Without a hold nothing happens. -/
def letGoLink (direction : Direction) : Act Unit := do
  let link := (← hardware).links.get direction
  if 0 < link.holds then
    setLink direction { link with holds := link.holds - 1 }
    if link.holds = 1 then closeLink direction

/-- Takes a step of the router. -/
def takeStep : RouteStep → Act Unit
  | .write control value => writeControl control value
  | .hold link => holdLink link
  | .letGo link => letGoLink link

/-- Takes steps of the router in order. -/
def takeSteps : List RouteStep → Act Unit
  | [] => return ()
  | step :: rest => do
    takeStep step
    takeSteps rest

/-- Applies a change to the router, if there is one. -/
def reroute (f : Router → Router × List RouteStep) : Act Unit := do
  match (← hardware).router with
  | none => return ()
  | some router =>
    let (router, steps) := f router
    changeHardware fun hardware => { hardware with router := some router }
    takeSteps steps

/-- Replaces the endpoints of a lane. -/
def setRoute (lane : Lane) (endpoints : EndpointSet) : Act Unit :=
  reroute (·.setRoute lane endpoints)

/-- Turns a lane off or on. -/
def setLaneDisabled (lane : Lane) (off : Bool) : Act Unit :=
  reroute (·.setDisabled lane off)

/-- Sets the volume of calls. -/
def routeCallVolume (volume : Float32) : Act Unit :=
  reroute (·.setCallVolume volume)

/-- Sets the volume of media. -/
def routeMediaVolume (volume : Float32) : Act Unit :=
  reroute (·.setMediaVolume volume)

/-- Opens the mixer and puts a router on it that sets the pins it starts with. -/
def openRouter (tables : CodecTables) : Act (Except MixerError Unit) := do
  let opened ← call .router .openingMixer .openMixer (onMixer fun mixer => (mixer.tryOpen, mixer))
  match opened with
  | .error error => return .error error
  | .ok () =>
    changeHardware fun hardware => { hardware with router := some { tables := tables } }
    takeSteps (Router.initialSteps tables)
    return .ok ()

/-- Takes the router off and closes the links. -/
def closeRouter : Act Unit := do
  changeHardware fun hardware => { hardware with router := none }
  closeLink .capture
  closeLink .playback

end Act

end PhoneAudio
