import PhoneAudio.Proofs.Handset.Capturing
import PhoneAudio.Proofs.Handset.Microphone
import PhoneAudio.Proofs.Machine.Conditions

/-!
# Sessions

Runs of operations one after the other from audio hardware that was just built
(`PhoneAudio.Session`). Before each operation the drivers may be given any faults, scripts and
captured samples, so that opening and transferring may fail at any time. Every operation leads from
a sound state to a sound state (`PhoneAudio.Operation.leads_perform`), and so does every session.
-/

namespace PhoneAudio

/-- A run in which audio hardware was built on drivers that had no PCM open, and nothing else
happened. -/
def Run.Built (run : Run) : Prop :=
  ∃ (plan : Plan) (drivers : Drivers), drivers.pcm.live = [] ∧
    Act.build plan { machine := { drivers := drivers } } = (.ok (), run)

/-- The questions that a caller can ask: about audio hardware that was not dropped, and about any
stream that was opened. -/
def Query.Possible (machine : Machine) : Query → Prop
  | devices id | dumpStream id => id < machine.streams.length
  | mode | inCall | muted | route _ | isOff _ | dump => machine.hardware.present = true

instance (machine : Machine) : (query : Query) → Decidable (query.Possible machine)
  | .devices id | .dumpStream id => inferInstanceAs (Decidable (id < machine.streams.length))
  | .mode | .inCall | .muted | .route _ | .isOff _ | .dump =>
    inferInstanceAs (Decidable (machine.hardware.present = true))

/-- The operations that a caller can perform: the audio hardware must not have been dropped, a
stream must have been opened, even if it was closed again, and transfers go in its direction. -/
def Operation.Possible (machine : Machine) : Operation → Prop
  | openStream .. | setMode _ | setMuted _ | setCallVolume _ | setMediaVolume _
  | setCallDevices _ | dropHardware => machine.hardware.present = true
  | close id => machine.hardware.present = true ∧ id < machine.streams.length
  | standby id | applyParameters id _ | answerKeys id _ => id < machine.streams.length
  | write id _ => id < machine.streams.length ∧ (machine.stream id).direction = .playback
  | read id _ => id < machine.streams.length ∧ (machine.stream id).direction = .capture
  | ask query => query.Possible machine

instance (machine : Machine) : (operation : Operation) → Decidable (operation.Possible machine)
  | .openStream .. | .setMode _ | .setMuted _ | .setCallVolume _ | .setMediaVolume _
  | .setCallDevices _ | .dropHardware =>
    inferInstanceAs (Decidable (machine.hardware.present = true))
  | .close id =>
    inferInstanceAs (Decidable (machine.hardware.present = true ∧ id < machine.streams.length))
  | .standby id | .applyParameters id _ | .answerKeys id _ =>
    inferInstanceAs (Decidable (id < machine.streams.length))
  | .write id _ =>
    inferInstanceAs
      (Decidable (id < machine.streams.length ∧ (machine.stream id).direction = .playback))
  | .read id _ =>
    inferInstanceAs
      (Decidable (id < machine.streams.length ∧ (machine.stream id).direction = .capture))
  | .ask query => inferInstanceAs (Decidable (query.Possible machine))

/-- Operations that are performed one after the other, each under its own conditions. -/
inductive Session (first : Run) : List Operation → Run → Prop
  | start : Session first [] first
  | step {operations : List Operation} {run : Run} (earlier : Session first operations run)
      (conditions : Conditions) {operation : Operation}
      (possible : operation.Possible run.machine) :
      Session first (operations ++ [operation]) (operation.perform (run.under conditions)).2

/-- How operations change a sound state. -/
structure Machine.Advances (before : Machine) (operations : List Operation) (after : Machine) :
    Prop where
  sound : after.Sound []
  grown : before.streams.length ≤ after.streams.length
  shut : ∀ id < before.streams.length, before.isOpen id = false → after.isOpen id = false
  mic : after.mic = operations.foldl (fun mic operation => operation.onMic mic) before.mic

namespace Machine

/-- Without an operation, nothing advances. -/
theorem Sound.advances {machine : Machine} (sound : machine.Sound []) :
    machine.Advances [] machine :=
  ⟨sound, Nat.le_refl _, fun _ _ closed => closed, rfl⟩

/-- Operations advance one after the other. -/
theorem Advances.trans {first second third : Machine} {operations more : List Operation}
    (start : first.Advances operations second) (rest : second.Advances more third) :
    first.Advances (operations ++ more) third := by
  refine ⟨rest.sound, Nat.le_trans start.grown rest.grown, fun id inside closed => ?_, ?_⟩
  · exact rest.shut id (Nat.lt_of_lt_of_le inside start.grown) (start.shut id inside closed)
  · rw [rest.mic, start.mic, List.foldl_append]

/-- The streams that are open, and how many there ever were. -/
def roster (machine : Machine) : Option StreamId × List StreamId × Nat :=
  (machine.hardware.output, machine.hardware.inputs, machine.streams.length)

/-- The roster is made of the desk and the number of streams. -/
theorem roster_of_desk {first second : Machine} (desk : first.desk = second.desk)
    (length : first.streams.length = second.streams.length) : first.roster = second.roster := by
  have output := congrArg (fun desk => desk.1.output) desk
  have inputs := congrArg (fun desk => desk.1.inputs) desk
  exact Prod.ext output (Prod.ext inputs length)

theorem roster_sleptIf (machine : Machine) (id : Option StreamId) :
    (machine.sleptIf id).roster = machine.roster :=
  roster_of_desk (machine.desk_sleptIf id) (machine.length_sleptIf id)

theorem roster_moded (machine : Machine) (mode : PhoneMode) :
    (machine.moded mode).roster = machine.roster := by
  have marked : ∀ (machine : Machine) (inCall : Bool), (machine.govern fun hardware =>
      { hardware with inCall := inCall }).roster = machine.roster := fun _ _ => rfl
  have entered : ∀ machine : Machine, machine.entered.roster = machine.roster := fun _ => rfl
  have left : ∀ machine : Machine, machine.left.roster = machine.roster := fun _ => rfl
  unfold moded switched
  split
  · rfl
  split
  · rw [marked, entered, roster_sleptIf, roster_sleptIf]
    rfl
  · rw [marked, roster_sleptIf, roster_sleptIf, left]
    rfl

theorem roster_muted (machine : Machine) (muted : Bool) :
    (machine.muted muted).roster = machine.roster := by
  unfold Machine.muted
  split
  · rw [roster_sleptIf]
    rfl
  · rfl

theorem roster_voiced (machine : Machine) (volume : Float32) :
    (machine.voiced volume).roster = machine.roster := by
  unfold voiced
  dsimp only
  split <;> rfl

/-- An operation that opens and closes no stream. -/
theorem Sound.advances_of_roster {before after : Machine} (sound : after.Sound [])
    (roster : after.roster = before.roster) {operation : Operation}
    (mic : after.mic = operation.onMic before.mic) : before.Advances [operation] after := by
  obtain ⟨output, rest⟩ := Prod.ext_iff.mp roster
  obtain ⟨inputs, length⟩ := Prod.ext_iff.mp rest
  refine ⟨sound, Nat.le_of_eq length.symm, fun id _ closed => ?_, mic⟩
  unfold isOpen at closed ⊢
  rw [← closed, show after.hardware.output = before.hardware.output from output,
    show after.hardware.inputs = before.hardware.inputs from inputs]

/-- Stream operations do nothing about the microphones. -/
theorem Follows.advances {before after : Machine} (follows : before.Follows [] after)
    {operation : Operation} (deaf : operation.onMic before.mic = before.mic) :
    before.Advances [operation] after :=
  follows.sound.advances_of_roster (roster_of_desk follows.desk follows.length)
    ((mic_of_desk follows.desk).trans deaf.symm)

/-- An operation that opens and closes no stream and makes none capture. -/
theorem restrains_of_roster {before after : Machine} (roster : after.roster = before.roster)
    (active : ∀ id, (after.stream id).isActive = true → (before.stream id).isActive = true) :
    before.Restrains after :=
  restrains_of_inputs (congrArg (fun roster => roster.2.1) roster) active

variable {machine : Machine}

/-- Opening a stream advances to one more. -/
theorem advances_joined {stream : Stream} (joined : (machine.joined stream).Sound [])
    (vacant : stream.direction = .playback → machine.hardware.output = none)
    (direction : Direction) (devices : Devices) (request : FormatRequest) :
    machine.Advances [.openStream direction devices request] (machine.joined stream) := by
  refine ⟨joined, ?_, fun id inside closed => ?_, machine.mic_joined stream⟩
  · rw [length_joined]
    exact Nat.le_succ _
  · rw [machine.isOpen_joined id vacant, closed, decide_eq_false (Nat.ne_of_lt inside)]
    rfl

/-- Closing a stream advances to one less. -/
theorem Sound.advances_retired (sound : machine.Sound []) {id : StreamId}
    (isOpen : machine.isOpen id = true) :
    machine.Advances [.close id] ((machine.removed id).retired id) := by
  refine ⟨sound.retired isOpen, ?_, fun other _ closed => ?_, (machine.removed id).mic_retired id⟩
  · rw [length_retired]
    exact Nat.le_refl _
  · rw [isOpen_of_desk ((machine.removed id).desk_retired id),
      machine.isOpen_removed id other sound.nodup, closed, Bool.false_and]

/-- Dropping the audio hardware advances to none. -/
theorem Follows.advances_gone {between : Machine}
    (follows : (machine.offering none []).Follows [] between) :
    machine.Advances [.dropHardware] between.gone := by
  have output : between.hardware.output = none :=
    congrArg (fun desk => desk.1.output) follows.desk
  have inputs : between.hardware.inputs = [] :=
    congrArg (fun desk => desk.1.inputs) follows.desk
  refine ⟨follows.sound.gone output inputs, Nat.le_of_eq follows.length.symm, fun id _ _ => ?_, ?_⟩
  · change (decide (between.hardware.output = some id) || between.hardware.inputs.contains id) =
      false
    rw [output, inputs]
    rfl
  · have same := mic_of_desk follows.desk
    change { between.mic with captureOff := none } = { machine.mic with captureOff := none }
    rw [same]
    rfl

end Machine

namespace Operation

variable {state : Machine}

/-- **Operations.** Every operation that is possible in a sound state leads to a sound state, in
which no other stream captures than before but one that was read from. -/
theorem leads_perform {operation : Operation} (sound : state.Sound [])
    (possible : operation.Possible state) :
    Act.Leads Run.Shows operation.perform state fun _ after =>
      state.Advances [operation] after ∧ state.Admits operation after := by
  -- All but a read make no stream capture.
  have done : ∀ {α : Type} {answer : α} {operation : Operation} {after : Machine},
      state.Advances [operation] after → state.Restrains after →
      (∀ id buffer, operation ≠ .read id buffer) →
      Act.Leads Run.Shows (pure answer) after fun _ last =>
        state.Advances [operation] last ∧ state.Admits operation last :=
    fun advances restrains other => Act.leads_pure _ ⟨advances, restrains.admits other⟩
  have still : state.Restrains state := fun _ captures => captures
  cases operation with
  | openStream direction devices request =>
      refine (Act.leads_openStream direction devices request).bind ?_
      rintro opened _ (rfl | ⟨stream, fresh, empty, vacant, rfl⟩)
      · cases opened <;> exact done (sound.follows.advances rfl) still nofun
      · have joined := sound.joined possible fresh empty vacant
        have advances := Machine.advances_joined joined vacant direction devices request
        cases opened <;> exact done advances (sound.restrains_joined fresh) nofun
  | close id =>
      refine (Act.leads_close sound possible.1).bind ?_
      rintro closed _ rfl
      split
      · rename_i isOpen
        exact done (sound.advances_retired isOpen) (state.restrains_retired id) nofun
      · exact done (sound.follows.advances rfl) still nofun
  | standby id =>
      refine (Act.leads_standby id (sound.calm id possible)).bind ?_
      rintro answer _ rfl
      have exempted : state.Sound [id] := sound.weaken nofun
      split
      · exact done (exempted.follows_slept.advances rfl) (state.restrains_slept id) nofun
      · exact done (sound.follows.advances rfl) still nofun
  | applyParameters id text =>
      refine (Act.leads_applyParameters (sound.calm id possible) text).bind ?_
      rintro answer _ rfl
      have follows := sound.follows_tuned id text
      refine done (follows.advances rfl) ?_ nofun
      exact Machine.restrains_of_inputs (Machine.inputs_of_desk follows.desk) fun _ =>
        state.isActive_tuned
  | answerKeys id keys =>
      exact (Act.leads_answerKeys id keys).then fun _ =>
        done (sound.follows.advances rfl) still nofun
  | write id bytes =>
      refine (Act.leads_write possible.1 sound bytes).bind fun answer after roused => ?_
      rw [possible.2] at roused
      cases answer <;>
        exact done (roused.toFollows.advances rfl) (roused.restrains sound possible.2) nofun
  | read id buffer =>
      refine (Act.leads_read possible.1 sound buffer).bind fun answer after roused => ?_
      rw [possible.2] at roused
      have admits := roused.admits sound buffer
      obtain ⟨outcome, filled⟩ := answer
      cases outcome <;> exact Act.leads_pure _ ⟨roused.toFollows.advances rfl, admits⟩
  | setMode mode =>
      refine (Act.leads_setMode sound mode).bind ?_
      rintro answer _ rfl
      have roster := state.roster_moded mode
      exact done ((sound.moded mode).advances_of_roster roster (state.mic_moded mode))
        (Machine.restrains_of_roster roster fun _ => Machine.isActive_switched _) nofun
  | setMuted muted =>
      refine (Act.leads_setMuted sound muted).bind ?_
      rintro answer _ rfl
      have roster := state.roster_muted muted
      exact done ((sound.muted muted).advances_of_roster roster (state.mic_muted muted))
        (Machine.restrains_of_roster roster fun _ => state.isActive_muted) nofun
  | setCallVolume volume =>
      refine (Act.leads_setCallVolume volume).bind ?_
      rintro answer _ rfl
      have roster := state.roster_voiced volume
      refine done ((sound.voiced volume).advances_of_roster roster (state.mic_voiced volume)) ?_
        nofun
      exact Machine.restrains_of_roster roster fun id =>
        (state.isActive_voiced volume id).symm.trans
  | setMediaVolume volume =>
      refine (Act.leads_setMediaVolume volume).bind ?_
      rintro answer _ rfl
      exact done ((sound.follows_mediaVolume volume).advances rfl) still nofun
  | setCallDevices devices =>
      refine (Act.leads_setCallDevices devices).bind ?_
      rintro answer _ rfl
      have follows := sound.follows_followed devices
      refine done (follows.advances rfl) ?_ nofun
      refine Machine.restrains_of_inputs (Machine.inputs_of_desk follows.desk) fun id active => ?_
      rwa [Machine.stream_congr (state.streams_followed devices)] at active
  | ask query =>
      exact (Act.leads_find query).then fun _ => done (sound.follows.advances rfl) still nofun
  | dropHardware =>
      refine (Act.leads_dropHardware sound possible).bind ?_
      rintro answer _ ⟨between, follows, rfl⟩
      refine done follows.advances_gone (fun id captures => ?_) nofun
      have none : between.hardware.inputs = [] := Machine.inputs_of_desk follows.desk
      have member : id ∈ between.hardware.inputs := captures.1
      rw [none] at member
      cases member

end Operation

/-- Possibility only depends on what runs show. -/
theorem Operation.Possible.core {operation : Operation} {run : Run} {state : Machine}
    (possible : operation.Possible run.machine) (shows : run.Shows state) :
    operation.Possible state := by
  have length := shows.length
  have present := shows.present
  have direction := shows.direction
  cases operation with
  | ask query =>
      cases query <;>
        simp only [Operation.Possible, Query.Possible, length, present] at possible ⊢ <;>
        exact possible
  | _ =>
      simp only [Operation.Possible, length, present, direction] at possible ⊢
      exact possible

/-- Building by a plan without a fault succeeds. -/
theorem Run.built_of_faultless {plan : Plan} {drivers : Drivers} (faultless : plan.fault? = none)
    (quiet : drivers.pcm.live = []) :
    (Act.build plan { machine := { drivers := drivers } }).2.Built := by
  refine ⟨plan, drivers, quiet, Prod.ext ?_ rfl⟩
  unfold Act.build
  rw [faultless]
  rfl

/-- Stock audio hardware on drivers without faults. -/
def Run.stock : Run :=
  (Act.build {} { machine := { drivers := {} } }).2

/-- The stock settings were built. -/
theorem Run.built_stock : Run.stock.Built :=
  Run.built_of_faultless rfl rfl

/-- The run after one more operation, under conditions without faults. -/
def Run.next (run : Run) (operation : Operation) : Run :=
  (operation.perform (run.under {})).2

/-- A session goes on with an operation that is possible. -/
theorem Session.next {first run : Run} {operations : List Operation}
    (session : Session first operations run) (operation : Operation)
    (possible : operation.Possible run.machine) :
    Session first (operations ++ [operation]) (run.next operation) :=
  session.step {} possible

/-- Sessions that go on are sessions. -/
theorem Session.append {first middle last : Run} {operations more : List Operation}
    (earlier : Session first operations middle) (rest : Session middle more last) :
    Session first (operations ++ more) last := by
  induction rest with
  | start =>
      rw [List.append_nil]
      exact earlier
  | step _ conditions possible ih =>
      rw [← List.append_assoc]
      exact ih.step conditions possible

/-- The last operation of a session, and what went before it. -/
theorem Session.last_step {first last : Run} {operations : List Operation} {operation : Operation}
    (session : Session first (operations ++ [operation]) last) :
    ∃ run conditions, Session first operations run ∧ operation.Possible run.machine ∧
      last = (operation.perform (run.under conditions)).2 := by
  generalize same : operations ++ [operation] = all at session
  cases session with
  | start => exact absurd same (List.append_ne_nil_of_right_ne_nil _ (List.cons_ne_nil _ _))
  | step earlier conditions possible =>
      obtain ⟨rfl, last⟩ := List.append_inj' same rfl
      cases last
      exact ⟨_, conditions, earlier, possible, rfl⟩

/-- Audio hardware that was just built has no streams. -/
theorem Run.Built.shows_vacant {run : Run} (built : run.Built) :
    ∃ settings, ∃ tables : Option CodecTables, run.Shows (Machine.mk settings
      { present := true, router := tables.map fun tables => { tables := tables } } [] {}) := by
  obtain ⟨plan, drivers, quiet, done⟩ := built
  have tallied : Tallied [] drivers.pcm.live {} := by
    refine ⟨fun direction => ?_, fun _ member => absurd member List.not_mem_nil, ?_⟩
    · rw [quiet]
      rfl
    · intro direction pcm linked
      cases direction <;> cases linked
  have fresh : Run.Shows { machine := { drivers := drivers } } {} := ⟨rfl, tallied⟩
  obtain ⟨state, shown, reached⟩ := Act.leads_build plan _ fresh
  rw [done] at shown reached
  obtain rfl | rfl := reached rfl
  · exact ⟨plan.settings, none, shown⟩
  · exact ⟨plan.settings, some plan.tables, shown⟩

/-- Audio hardware that was just built shows a sound state, neither in a call nor muted. -/
theorem Run.Built.shows {run : Run} (built : run.Built) : ∃ state, run.Shows state ∧
    state.Sound [] ∧ state.hardware.inCall = false ∧ state.hardware.muted = false := by
  obtain ⟨settings, tables, shown⟩ := built.shows_vacant
  exact ⟨_, shown, Machine.sound_built settings tables, rfl, rfl⟩

/-- **Sessions.** A session from a sound state leads to a sound state. -/
theorem Session.advances {first last : Run} {operations : List Operation} {state : Machine}
    (session : Session first operations last) (shown : first.Shows state)
    (sound : state.Sound []) : ∃ after, last.Shows after ∧ state.Advances operations after := by
  induction session with
  | start => exact ⟨state, shown, sound.advances⟩
  | step earlier conditions possible ih =>
      obtain ⟨before, shows, advanced⟩ := ih
      obtain ⟨after, reached, next, -⟩ := Operation.leads_perform advanced.sound
        (possible.core shows) _ (shows.under conditions)
      exact ⟨after, reached, advanced.trans next⟩

end PhoneAudio
