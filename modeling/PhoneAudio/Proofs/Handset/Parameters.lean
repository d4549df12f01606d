import PhoneAudio.Handset.Parameters
import PhoneAudio.Proofs.Handset.Waking

/-!
# Stream parameters and the core

What setting the parameters of a stream does to the core of the machine
(`PhoneAudio.Act.leads_applyParameters`): the route of a call follows the selected devices of a
playback stream, and otherwise a stream that changes its devices is put to standby. It proceeds in
steps as long as nothing else is played in a call (`PhoneAudio.Act.proceeds_applyParameters`).
-/

namespace PhoneAudio

/-- The stream with other devices selected. -/
def Stream.turned (devices : Devices) (stream : Stream) : Stream :=
  { stream with devices := devices }

/-- The stream with devices selected, in a phone mode. -/
def Stream.selecting (mode : PhoneMode) (devices : Devices) (stream : Stream) : Stream :=
  if devices.isEmpty then stream
  else if stream.direction = .playback ∧ mode = .inCall then stream.turned devices
  else if stream.devices = devices then stream
  else stream.asleep.turned devices

/-- The pairs that are left once the devices that they select are. -/
def KeyValues.unconsumed (pairs : KeyValues) : KeyValues :=
  if (selectedDevices? pairs).isSome then (pairs.erase routingKey).2 else pairs

/-- The answer to parameters of which some pairs are left. -/
def refusing (direction : Direction) (rest : KeyValues) : Except AudioError Unit :=
  if rest.isEmpty then .ok ()
  else .error (.badValue s!"unsupported {direction.word} parameters: {rest.toText}")

namespace Machine

/-- The state with the route of the call following devices. -/
def followed (machine : Machine) (devices : Devices) : Machine :=
  if machine.hardware.mode = .inCall then
    (machine.reroute (·.setRoute .downlink devices.downlinkRoute)).reroute
      (·.setRoute .uplink devices.uplinkRoute)
  else machine

/-- The state with devices selected for a stream. -/
def selected (machine : Machine) (id : StreamId) (devices : Devices) : Machine :=
  let stream := machine.stream id
  if devices.isEmpty then machine
  else if stream.direction = .playback ∧ machine.hardware.mode = .inCall then
    (machine.adjust id (Stream.turned devices)).followed devices
  else if stream.devices = devices then machine
  else (machine.slept id).adjust id (Stream.turned devices)

/-- The state with parameters set for a stream. -/
def tuned (machine : Machine) (id : StreamId) (text : String) : Machine :=
  if machine.hardware.present then
    match selectedDevices? (KeyValues.ofText text) with
    | none => machine
    | some devices => machine.selected id devices
  else machine

variable {machine : Machine} {exempt : List StreamId}

/-- Following devices leaves the desk. -/
theorem desk_followed (machine : Machine) (devices : Devices) :
    (machine.followed devices).desk = machine.desk := by
  unfold followed
  split
  · rw [desk_setRoute, desk_setRoute]
  · rfl

theorem streams_followed (machine : Machine) (devices : Devices) :
    (machine.followed devices).streams = machine.streams := by
  unfold followed
  split <;> rfl

/-- A stream whose devices are selected selects them. -/
theorem stream_selected {id : StreamId} (inside : id < machine.streams.length) (devices : Devices) :
    (machine.selected id devices).stream id =
      (machine.stream id).selecting machine.hardware.mode devices := by
  unfold selected Stream.selecting
  dsimp only
  split
  · rfl
  split
  · rw [stream_congr (streams_followed _ devices), stream_adjust _ _ inside]
  split
  · rfl
  · have room : id < (machine.slept id).streams.length := by
      rw [slept, length_adjust, streams_unrouted]
      exact inside
    have asleep : (machine.slept id).stream id = (machine.stream id).asleep := by
      rw [slept, stream_adjust _ _ (by rwa [streams_unrouted]), stream_unrouted]
    rw [stream_adjust _ _ room, asleep]

/-- Following devices leads a sound state on. -/
theorem Sound.follows_followed (sound : machine.Sound exempt) (devices : Devices) :
    machine.Follows exempt (machine.followed devices) := by
  refine ⟨?_, machine.desk_followed devices, congrArg List.length (machine.streams_followed _)⟩
  unfold followed
  split
  · rename_i mode
    have inCall : machine.hardware.inCall = true := by
      rw [sound.called, decide_eq_true mode]
    have downlink : Router.Allows machine.hardware .downlink devices.downlinkRoute :=
      fun out => absurd out (ne_false_of_eq_true inCall)
    have uplink : Router.Allows machine.hardware .uplink devices.uplinkRoute :=
      fun out => absurd out (ne_false_of_eq_true inCall)
    exact (sound.setRoute downlink nofun).setRoute uplink nofun
  · exact sound

/-- Turning a stream to devices leads a sound state on. -/
theorem Sound.follows_turned (sound : machine.Sound exempt) (id : StreamId) (devices : Devices) :
    machine.Follows exempt (machine.adjust id (Stream.turned devices)) := by
  refine ⟨?_, rfl, machine.length_adjust id _⟩
  by_cases inside : id < machine.streams.length
  · refine sound.adjust (fun _ => ⟨rfl, rfl, rfl⟩) (fun _ _ member => member)
      (sound.quiet id inside) (sound.closed id) ?_
    intro router there routed output
    obtain ⟨active, filled, awake⟩ := sound.playing router there routed
    rw [output] at filled
    cases filled
    exact awake
  · unfold Machine.adjust
    rw [List.modify_eq_self (Nat.le_of_not_lt inside)]
    exact sound

/-- Selecting devices leads a sound state on. -/
theorem Sound.follows_selected (sound : machine.Sound []) (id : StreamId) (devices : Devices) :
    machine.Follows [] (machine.selected id devices) := by
  unfold selected
  dsimp only
  split
  · exact sound.follows
  split
  · have turned := sound.follows_turned id devices
    exact turned.trans (turned.sound.follows_followed devices)
  split
  · exact sound.follows
  · have exempted : machine.Sound [id] := sound.weaken nofun
    have slept := exempted.follows_slept
    exact slept.trans (slept.sound.follows_turned id devices)

/-- Parameters lead a sound state on. -/
theorem Sound.follows_tuned (sound : machine.Sound []) (id : StreamId) (text : String) :
    machine.Follows [] (machine.tuned id text) := by
  unfold tuned
  split
  · split
    · exact sound.follows
    · exact sound.follows_selected id _
  · exact sound.follows

end Machine

namespace Act

variable {state : Machine}

/-- Following devices leads to routes that follow them. -/
theorem leads_followDevices (devices : Devices) :
    Leads Run.Shows (followDevices devices) state fun _ after =>
      after = state.followed devices := by
  refine leads_hardware.read fun read same => ?_
  have mode : read.mode = state.hardware.mode := congrArg (fun h => h.mode) same
  unfold Machine.followed
  rw [mode]
  split
  · exact (leads_setRoute _ _).then fun _ => leads_setRoute _ _
  · exact leads_pure _ rfl

/-- Selecting devices leads to the stream that selected them. -/
theorem leads_selectDevices (id : StreamId) (devices : Devices) :
    Leads Run.Shows (selectDevices id devices) state fun _ after =>
      after = state.selected id devices := by
  unfold selectDevices Machine.selected
  dsimp only
  by_cases empty : devices.isEmpty = true
  · rw [if_pos empty, if_pos empty]
    exact leads_pure _ rfl
  rw [if_neg empty, if_neg empty]
  refine leads_withHardware ((leads_stream id).read fun read same => ?_)
  refine leads_hardware.read fun hardware shown => ?_
  have direction : read.direction = (state.stream id).direction := by
    rw [← same]
    rfl
  have selected : read.devices = (state.stream id).devices := by
    rw [← same]
    rfl
  have mode : hardware.mode = state.hardware.mode := congrArg (fun h => h.mode) shown
  have turn : ∀ {state : Machine}, Leads Run.Shows
      (changeStream id fun stream => { stream with devices := devices }) state fun _ after =>
        after = state.adjust id (Stream.turned devices) :=
    leads_changeStream id (fun _ => rfl) (fun _ => rfl) fun _ => rfl
  rw [direction, selected, mode]
  by_cases follows : (state.stream id).direction = .playback ∧ state.hardware.mode = .inCall
  · rw [if_neg fun sleeps => sleeps.2 follows, if_pos follows, if_pos follows]
    exact turn.then fun _ => leads_followDevices devices
  rw [if_neg follows, if_neg follows]
  by_cases kept : (state.stream id).devices = devices
  · rw [if_neg fun sleeps => sleeps.1 kept, if_pos kept]
    refine turn.then fun _ => leads_pure _ (Machine.adjust_of_fixed ?_)
    rw [Stream.turned, ← kept]
  · rw [if_pos ⟨kept, follows⟩, if_neg kept]
    exact (leads_standbyLocked id).then fun _ => turn.then fun _ => leads_pure _ rfl

/-- As long as the audio hardware is there, the devices that parameters select are selected, and the
pairs that are left are refused. -/
theorem leads_applyParameters_answer {id : StreamId}
    (calm : (state.stream id).status.lockWanted = false) (text : String) :
    Leads Run.Shows (applyParameters id text) state fun answer after =>
      after = state.tuned id text ∧ (state.hardware.present = true →
        answer = refusing (after.stream id).direction (KeyValues.ofText text).unconsumed) := by
  refine leads_hardware.read fun read same => ?_
  have present : read.present = state.hardware.present := congrArg (fun h => h.present) same
  unfold Machine.tuned
  rw [present]
  split
  · refine (leads_askForLock id).then fun _ => (leads_lockFor id calm).then fun _ => ?_
    have finish : ∀ {state : Machine} (rest : KeyValues), Leads Run.Shows
        (do
          unlock (.stream id)
          if rest.isEmpty then return .ok ()
          else
            let word := (← stream id).direction.word
            return .error (.badValue s!"unsupported {word} parameters: {rest.toText}"))
        state fun (answer : Except AudioError Unit) after =>
          after = state ∧ answer = refusing (state.stream id).direction rest := by
      intro state rest
      refine (leads_unlock _).then fun _ => ?_
      unfold refusing
      split
      · exact leads_pure _ ⟨rfl, rfl⟩
      · refine (leads_stream id).read fun read same => leads_pure _ ⟨rfl, ?_⟩
        rw [← same]
        rfl
    unfold KeyValues.unconsumed
    cases selectedDevices? (KeyValues.ofText text) with
    | none =>
        refine (finish _).mono fun answer after ⟨same, refused⟩ => ⟨same, fun _ => ?_⟩
        rw [same]
        exact refused
    | some devices =>
        refine (leads_selectDevices id devices).then fun _ => ?_
        refine (finish _).mono fun answer after ⟨same, refused⟩ => ⟨same, fun _ => ?_⟩
        rw [same]
        exact refused
  · rename_i absent
    exact leads_pure _ ⟨rfl, fun there => absurd there absent⟩

/-- **Parameters.** As long as the audio hardware is there, the devices that parameters select are
selected. -/
theorem leads_applyParameters {id : StreamId} (calm : (state.stream id).status.lockWanted = false)
    (text : String) :
    Leads Run.Shows (applyParameters id text) state fun _ after =>
      after = state.tuned id text :=
  (leads_applyParameters_answer calm text).mono fun _ _ => And.left

/-- A query leaves what is shown. -/
theorem leads_find (query : Query) :
    Leads Run.Shows (find query) state fun _ after => after = state := by
  have composes : Composes fun action =>
      Leads Run.Shows action state fun _ after => after = state :=
    ⟨fun _ => leads_pure _ rfl, fun _ _ shown => ⟨state, shown, rfl⟩, Leads.then⟩
  exact composes.find (fun what _ => leads_note what) leads_setLocked query

/-- Answering about parameters leaves what is shown. -/
theorem leads_answerKeys (id : StreamId) (keys : String) :
    Leads Run.Shows (answerKeys id keys) state fun _ after => after = state := by
  unfold answerKeys
  dsimp only
  split
  · refine (leads_lock _).then fun _ => (leads_stream id).read fun _ _ => ?_
    exact (leads_unlock _).then fun _ => leads_pure _ rfl
  · exact leads_pure _ rfl

variable {alone : Prop} {run : Run}

theorem proceeds_followDevices (devices : Devices) (silent : run.machine.SilentInCall) :
    run.Proceeds alone (followDevices devices run).2 := by
  unfold followDevices
  rw [bind_apply, hardware_apply]
  dsimp only
  split
  · rename_i inCall
    have downlink : run.Instant alone (setRoute .downlink devices.downlinkRoute run).2 := by
      refine .routed (.setRoute .downlink devices.downlinkRoute) fun router there balanced => ?_
      exact RouterCall.balanced_setRoute balanced (.inl (silent inCall router there))
    have uplink : Proceeds alone (setRoute .uplink devices.uplinkRoute) :=
      proceeds_call (.setRoute .uplink devices.uplinkRoute) trivial
    exact Relation.ReflTransGen.head downlink (uplink _)
  · exact .refl

/-- Selecting devices proceeds, as long as nothing is played in a call. -/
theorem proceeds_selectDevices (id : StreamId) (devices : Devices)
    (silent : run.machine.SilentInCall) :
    run.Proceeds alone (selectDevices id devices run).2 := by
  have turn : Aside (changeStream id fun stream => { stream with devices := devices }) := by
    refine wires_changeStream id ?_
    exact fun _ => rfl
  unfold selectDevices
  split
  · exact .refl
  refine proceeds_withHardware_from ?_
  rw [bind_apply, stream_apply, bind_apply, hardware_apply]
  dsimp only
  -- the lock of the audio hardware is of no account here
  have silent : (lock .hardware run).2.machine.SilentInCall := silent
  generalize (lock .hardware run).2 = run at silent
  split
  · rename_i sleeps
    refine (proceeds_standbyLocked id).bind (fun _ => turn.then fun _ => ?_) run
    rw [if_neg sleeps.2]
    exact proceeds_pure _
  · refine .head (.aside (turn run)) ?_
    split
    · exact proceeds_followDevices devices silent
    · exact .refl

/-- **Parameters** are set in steps, as long as nothing else is played in a call. -/
theorem proceeds_applyParameters (id : StreamId) (text : String)
    (silent : run.machine.SilentInCall) :
    run.Proceeds alone (applyParameters id text run).2 := by
  have finish : ∀ rest : KeyValues, Aside
      (do
        unlock (.stream id)
        if rest.isEmpty then return .ok ()
        else
          let word := (← stream id).direction.word
          return .error (.badValue s!"unsupported {word} parameters: {rest.toText}") :
        Act (Except AudioError Unit)) := by
    intro rest
    refine (aside_unlock _).bind fun _ => ?_
    split
    · exact stays_pure _
    · exact (stays_stream id).bind fun _ => stays_pure _
  unfold applyParameters
  rw [bind_apply, hardware_apply]
  dsimp only
  split
  · refine .head (.aside (aside_askForLock id run)) (.head (.aside (aside_lockFor id _)) ?_)
    have silent : (lockFor id (askForLock id run).2).2.machine.SilentInCall := silent
    rw [bind_apply, bind_apply]
    generalize (lockFor id (askForLock id run).2).2 = run at silent
    cases selectedDevices? (KeyValues.ofText text) with
    | none => exact (finish _).proceeds run
    | some devices =>
        exact (proceeds_selectDevices id devices silent).trans ((finish _).proceeds _)
  · exact .refl

/-- Only the stream's lock is taken for an answer. -/
theorem wires_answerKeys {kind : Happening → Bool} (locks : ∀ target, kind (.lock target) = true)
    (unlocks : ∀ target, kind (.unlock target) = true) (id : StreamId) (keys : String) :
    Stays Machine.wires kind (answerKeys id keys) := by
  unfold answerKeys
  dsimp only
  split
  · refine (wires_lock (locks _)).bind fun _ => (stays_stream id).bind fun _ => ?_
    exact (wires_unlock (unlocks _)).bind fun _ => stays_pure _
  · exact stays_pure _

theorem aside_find (query : Query) : Aside (find query) := by
  refine composes_stays.find (fun what sort => stays_note ?_) wires_setLocked query
  cases what <;> first | rfl | cases sort

theorem aside_answerKeys (id : StreamId) (keys : String) : Aside (answerKeys id keys) :=
  wires_answerKeys (fun _ => rfl) (fun _ => rfl) id keys

end Act

end PhoneAudio
