import PhoneAudio.Handset.Lifecycle
import PhoneAudio.Proofs.Machine.Apart

/-!
# Locks and what they guard

The rules of locking: in which order locks are taken, and which of them are held at a call to a
driver (`PhoneAudio.Happening.Lawful`). What happens to a thread is a course from the locks that it
holds at first to those that it holds in the end (`PhoneAudio.Course`). Actions are followed from
held locks to held locks, with the directions of the streams that matter to the order, and with any
other property of runs that actions keep (`PhoneAudio.Run.Abides`).
-/

namespace PhoneAudio

/-- The locks that are held after something happened. -/
def Happening.heldAfter (held : List Lock) : Happening → List Lock
  | lock target | tryLock target true => target :: held
  | unlock target => held.erase target
  | _ => held

/-- The lock of a component is held, if it has one of its own. -/
def Component.Locked (held : List Lock) : Component → Prop
  | router => True
  | stream id => .stream id ∈ held

/-- What may happen in a state to a thread that holds locks. It waits for the lock of a playback
stream ahead of those of capture streams, for these ahead of the lock of the audio hardware, and for
none that it holds. It may try to take a lock in any order, but it gets none that it holds. The
mixer, the wake lock, standby and the PCMs as such are guarded by the lock of the audio hardware,
transfers by that of their stream alone; and no failure is told under a lock. -/
def Happening.Lawful (machine : Machine) (held : List Lock) : Happening → Prop
  | lock .hardware => .hardware ∉ held
  | lock (.stream id) => .hardware ∉ held ∧ .stream id ∉ held ∧
      ((machine.stream id).direction = .playback →
        ∀ other, .stream other ∈ held → (machine.stream other).direction = .playback)
  | tryLock target taken => taken = true → target ∉ held
  | unlock target => target ∈ held
  | openMixer | findControl _ | setControl .. => .hardware ∈ held
  | openPcm owner _ | closePcm owner _ | startPcm owner _ => .hardware ∈ held ∧ owner.Locked held
  | writePcm id _ | readPcm id _ => .stream id ∈ held ∧ .hardware ∉ held
  | standby id | acquireWake id _ | releaseWake id _ => .hardware ∈ held ∧ .stream id ∈ held
  | event _ (.transferFailed ..) => held = []
  | event _ _ => True

/-- What lawfully happens to a thread from locks that it holds to others. -/
inductive Course : List Lock → List Moment → List Lock → Prop
  | none (held : List Lock) : Course held [] held
  | some {held later : List Lock} {moment : Moment} {moments : List Moment}
      (lawful : moment.what.Lawful moment.before held)
      (rest : Course (moment.what.heldAfter held) moments later) :
      Course held (moment :: moments) later

/-- A course that goes on with one more lawful moment. -/
theorem Course.snoc {held later : List Lock} {moments : List Moment}
    (course : Course held moments later) {moment : Moment}
    (lawful : moment.what.Lawful moment.before later) :
    Course held (moments ++ [moment]) (moment.what.heldAfter later) := by
  induction course with
  | none held => exact .some lawful (.none _)
  | some first _ ih => exact .some first (ih lawful)

namespace Machine

/-- The directions of the streams. -/
def ways (machine : Machine) : List Direction :=
  machine.streams.map Stream.direction

/-- The open streams have the direction in which they are open. -/
structure Staffed (machine : Machine) : Prop where
  output : ∀ id, machine.hardware.output = some id → machine.ways[id]? = some .playback
  inputs : ∀ id ∈ machine.hardware.inputs, machine.ways[id]? = some .capture

variable {machine : Machine}

/-- The directions of streams are those listed. -/
theorem direction_of_ways {id : StreamId} {direction : Direction}
    (way : machine.ways[id]? = some direction) : (machine.stream id).direction = direction := by
  have mapped : machine.ways.getD id (default : Stream).direction =
      (machine.stream id).direction := List.getD_map machine.streams default _
  rw [← mapped, List.getD_eq_getElem?_getD, way]
  rfl

theorem ways_of_inside {id : StreamId} (inside : id < machine.streams.length) :
    machine.ways[id]? = some (machine.stream id).direction := by
  have here : machine.stream id = machine.streams[id] := List.getD_eq_getElem _ _ inside
  unfold ways
  rw [List.getElem?_map, List.getElem?_eq_getElem inside, here]
  rfl

/-- The active stream of a direction has it. -/
theorem Staffed.active (staffed : machine.Staffed) {direction : Direction} {id : StreamId}
    (active : machine.active direction = some id) : machine.ways[id]? = some direction := by
  cases direction with
  | playback => exact staffed.output id (Option.filter_eq_some_iff.mp active).1
  | capture =>
      have found : machine.hardware.inputs.find? (fun id => (machine.stream id).isActive) =
          some id := active
      exact staffed.inputs id (List.mem_of_find?_eq_some found)

/-- Streams that are added leave the directions of those before them. -/
theorem ways_extended {after : Machine} (prefixed : machine.ways <+: after.ways) {id : StreamId}
    {direction : Direction} (way : machine.ways[id]? = some direction) :
    after.ways[id]? = some direction := by
  obtain ⟨more, appended⟩ := prefixed
  obtain ⟨inside, -⟩ := List.getElem?_eq_some_iff.mp way
  rw [← appended, List.getElem?_append_left inside, way]

/-- Streams keep their directions when there are more of them. -/
theorem Staffed.extended (staffed : machine.Staffed) {after : Machine}
    (output : after.hardware.output = machine.hardware.output)
    (inputs : after.hardware.inputs = machine.hardware.inputs)
    (ways : machine.ways <+: after.ways) : after.Staffed := by
  refine ⟨fun id filled => ?_, fun id member => ?_⟩
  · rw [output] at filled
    exact ways_extended ways (staffed.output id filled)
  · rw [inputs] at member
    exact ways_extended ways (staffed.inputs id member)

end Machine

/-- Whether something that happens says what a stream's PCM gives: that it is opened, or read. -/
def Happening.isIntake : Happening → Bool
  | openPcm (.stream _) _ | readPcm .. => true
  | _ => false

/-- What happened to the PCMs that are read, so far. -/
def Run.intakes (run : Run) : List Moment :=
  run.history.filter fun moment => moment.what.isIntake

/-- A stream as it is opened. -/
def Stream.IsNew (stream : Stream) : Prop :=
  ∃ settings devices request, Stream.newPlayback settings devices request = .ok stream ∨
    Stream.newCapture settings devices request = .ok stream

/-- A property of runs that actions keep, but for reads. It depends on the streams and on what
happened to their PCMs only, it outlasts changes that touch neither filters nor PCMs but to close
them, and the opening of PCMs and of streams. -/
structure Upheld (kept : Run → Prop) : Prop where
  of_eq : ∀ {run after : Run}, after.machine.streams = run.machine.streams →
    after.intakes = run.intakes → kept run → kept after
  changed : ∀ {f : Stream → Stream} (id : StreamId),
    (∀ stream, (f stream).direction = stream.direction ∧ (f stream).format = stream.format ∧
      (f stream).pipeline = stream.pipeline ∧
      ((f stream).pcm = stream.pcm ∨ (f stream).pcm = none)) →
    ∀ run, kept run → kept (Act.changeStream id f run).2
  opened : ∀ id run, kept run → kept (Act.openLocked id run).2
  joined : ∀ {stream : Stream}, stream.IsNew → ∀ run, kept run →
    kept (Act.addStream stream run).2

theorem upheld_true : Upheld fun _ => True :=
  ⟨fun _ _ _ => trivial, fun _ _ _ _ => trivial, fun _ _ _ => trivial, fun _ _ _ => trivial⟩

theorem Upheld.note {kept : Run → Prop} (upheld : Upheld kept) {what : Happening}
    (quiet : what.isIntake = false) (run : Run) (holds : kept run) :
    kept (Act.note what run).2 := by
  have same : (Act.note what run).2.machine.streams = run.machine.streams := rfl
  refine upheld.of_eq same ?_ holds
  change List.filter _ (run.history ++ [⟨what, run.machine⟩]) = List.filter _ _
  rw [List.filter_append, List.filter_cons_of_neg (by simp [quiet]), List.filter_nil,
    List.append_nil]

/-- A run of a thread that abided by the rules since an earlier run and now holds locks, in a state
with some known directions and a property. -/
structure Run.Abides (kept : Run → Prop) (origin run : Run)
    (seen : List Lock × List (StreamId × Direction)) : Prop where
  course : ∃ moments, run.history = origin.history ++ moments ∧ Course [] moments seen.1
  staffed : run.machine.Staffed
  known : ∀ entry ∈ seen.2, run.machine.ways[entry.1]? = some entry.2
  holds : kept run

namespace Run.Abides

variable {kept : Run → Prop} {origin run after : Run} {held : List Lock}
  {known more : List (StreamId × Direction)}

theorem forget (abides : Abides kept origin run (held, more)) (fewer : known ⊆ more) :
    Abides kept origin run (held, known) :=
  ⟨abides.course, abides.staffed, fun entry member => abides.known entry (fewer member),
    abides.holds⟩

/-- A change without a trace that keeps the directions. -/
theorem extended (abides : Abides kept origin run (held, known))
    (history : after.history = run.history) (staffed : after.machine.Staffed)
    (ways : run.machine.ways <+: after.machine.ways) (holds : kept after) :
    Abides kept origin after (held, known) := by
  refine ⟨?_, staffed, fun entry member => ?_, holds⟩
  · rw [history]
    exact abides.course
  · exact Machine.ways_extended ways (abides.known entry member)

/-- A known direction is that of the stream. -/
theorem direction (abides : Abides kept origin run (held, known)) {id : StreamId}
    {direction : Direction} (member : (id, direction) ∈ known) :
    (run.machine.stream id).direction = direction :=
  Machine.direction_of_ways (abides.known _ member)

end Run.Abides

/-- What is known of a state. -/
def Machine.Bears (machine : Machine) (known : List (StreamId × Direction)) : Prop :=
  ∀ entry ∈ known, machine.ways[entry.1]? = some entry.2

/-- A direction that is known is that of the stream. -/
theorem Machine.Bears.direction {machine : Machine} {known : List (StreamId × Direction)}
    (bears : machine.Bears known) {id : StreamId} {direction : Direction}
    (member : (id, direction) ∈ known) : (machine.stream id).direction = direction :=
  direction_of_ways (bears _ member)

namespace Act

variable {α : Type} {kept : Run → Prop} {origin : Run} {held : List Lock}
  {known : List (StreamId × Direction)}

/-- A note is lawful as long as every state that bears what is known allows for it. -/
theorem abides_note {what : Happening} (stays : ∀ run, kept run → kept (note what run).2)
    (lawful : ∀ machine : Machine, machine.Bears known → what.Lawful machine held) :
    Leads (Run.Abides kept origin) (note what) (held, known) fun _ after =>
      after = (what.heldAfter held, known) := by
  rintro run ⟨⟨moments, history, course⟩, staffed, bears, holds⟩
  have longer : (note what run).2.history =
      origin.history ++ (moments ++ [⟨what, run.machine⟩]) := by
    rw [← List.append_assoc, ← history]
    rfl
  have further : Course [] (moments ++ [⟨what, run.machine⟩]) (what.heldAfter held) :=
    course.snoc (lawful run.machine bears)
  exact ⟨(_, known), ⟨⟨_, longer, further⟩, staffed, bears, stays run holds⟩, rfl⟩

/-- A change of the state that nobody notes. -/
theorem abides_change {f : Machine → Machine}
    (stays : ∀ run, kept run → kept (change f run).2)
    (staffed : ∀ machine : Machine, machine.Staffed → (f machine).Staffed)
    (ways : ∀ machine : Machine, machine.Staffed → machine.ways <+: (f machine).ways) :
    Leads (Run.Abides kept origin) (change f) (held, known) fun _ after =>
      after = (held, known) := by
  intro run abides
  have settled := staffed run.machine abides.staffed
  have longer := ways run.machine abides.staffed
  exact ⟨_, abides.extended rfl settled longer (stays run abides.holds), rfl⟩

theorem abides_changeStream (id : StreamId) {f : Stream → Stream}
    (stays : ∀ run, kept run → kept (changeStream id f run).2)
    (direction : ∀ stream, (f stream).direction = stream.direction) :
    Leads (Run.Abides kept origin) (changeStream id f) (held, known) fun _ after =>
      after = (held, known) := by
  have ways : ∀ machine : Machine,
      ({ machine with streams := machine.streams.modify id f } : Machine).ways = machine.ways :=
    fun machine => map_modify_of_unseen direction machine.streams id
  refine abides_change stays (fun machine staffed => ?_) fun machine _ => ?_
  · exact staffed.extended rfl rfl (ways machine ▸ List.prefix_refl _)
  · exact ways machine ▸ List.prefix_refl _

/-- A change of the audio hardware after which the open streams still have the direction in which
they are open. -/
theorem abides_restaff (upheld : Upheld kept) {f : Hardware → Hardware}
    (staffed : ∀ machine : Machine, machine.Staffed → machine.Bears known →
      ({ machine with hardware := f machine.hardware } : Machine).Staffed) :
    Leads (Run.Abides kept origin) (changeHardware f) (held, known) fun _ after =>
      after = (held, known) := by
  intro run abides
  have streams : (changeHardware f run).2.machine.streams = run.machine.streams := rfl
  have holds := upheld.of_eq streams rfl abides.holds
  have settled := staffed run.machine abides.staffed abides.known
  exact ⟨_, abides.extended rfl settled (List.prefix_refl _) holds, rfl⟩

/-- A change of the audio hardware that opens and closes no stream. -/
theorem abides_changeHardware (upheld : Upheld kept) {f : Hardware → Hardware}
    (output : ∀ hardware, (f hardware).output = hardware.output)
    (inputs : ∀ hardware, (f hardware).inputs = hardware.inputs) :
    Leads (Run.Abides kept origin) (changeHardware f) (held, known) fun _ after =>
      after = (held, known) :=
  abides_restaff upheld fun machine staffed _ =>
    staffed.extended (output machine.hardware) (inputs machine.hardware) (List.prefix_refl _)

/-- A driver is called with any locks held. -/
theorem abides_drive (upheld : Upheld kept) (effect : Drivers → α × Drivers) :
    Leads (Run.Abides kept origin) (drive effect) (held, known) fun _ after =>
      after = (held, known) := by
  intro run abides
  have streams : (drive effect run).2.machine.streams = run.machine.streams := rfl
  have holds := upheld.of_eq streams rfl abides.holds
  have staffed : (drive effect run).2.machine.Staffed :=
    abides.staffed.extended rfl rfl (List.prefix_refl _)
  exact ⟨_, abides.extended rfl staffed (List.prefix_refl _) holds, rfl⟩

theorem abides_machine :
    Leads (Run.Abides kept origin) machine (held, known) fun read after =>
      after = (held, known) ∧ read.Staffed ∧ read.Bears known :=
  fun _ abides => ⟨_, abides, rfl, abides.staffed, abides.known⟩

theorem abides_hardware :
    Leads (Run.Abides kept origin) hardware (held, known) fun _ after =>
      after = (held, known) :=
  fun _ abides => ⟨_, abides, rfl⟩

theorem abides_stream (id : StreamId) :
    Leads (Run.Abides kept origin) (stream id) (held, known) fun read after =>
      after = (held, known) ∧ ∀ direction, (id, direction) ∈ known → read.direction = direction :=
  fun _ abides => ⟨_, abides, rfl, fun _ member => abides.direction member⟩

section Locks

variable (upheld : Upheld kept)
include upheld

theorem abides_setLocked (locked : Bool) (target : Lock) :
    Leads (Run.Abides kept origin) (setLocked locked target) (held, known) fun _ after =>
      after = (held, known) := by
  cases target with
  | hardware => exact abides_changeHardware upheld (fun _ => rfl) fun _ => rfl
  | stream id =>
      have stays := upheld.changed (f := fun stream => { stream with locked := locked }) id
        fun _ => ⟨rfl, rfl, rfl, .inl rfl⟩
      exact abides_changeStream id stays fun _ => rfl

/-- A lock is taken if it is lawful, and is held then. -/
theorem abides_lock {target : Lock} (lawful : ∀ machine : Machine, machine.Bears known →
    (Happening.lock target).Lawful machine held) :
    Leads (Run.Abides kept origin) (lock target) (held, known) fun _ after =>
      after = (target :: held, known) :=
  (abides_note (upheld.note rfl) lawful).then fun _ => abides_setLocked upheld true target

/-- A lock that is held is given up. -/
theorem abides_unlock {target : Lock} {left : List Lock} (member : target ∈ held)
    (rest : held.erase target = left) :
    Leads (Run.Abides kept origin) (unlock target) (held, known) fun _ after =>
      after = (left, known) := by
  rw [← rest]
  exact Leads.then (abides_note (upheld.note rfl) fun _ _ => member) fun _ =>
    abides_setLocked upheld false target

/-- The lock that was taken last is given back. -/
theorem abides_unlock_head (target : Lock) :
    Leads (Run.Abides kept origin) (unlock target) (target :: held, known) fun _ after =>
      after = (held, known) :=
  abides_unlock upheld (List.mem_cons_self ..) (List.erase_cons_head ..)

/-- The lock of a stream is given back under the lock of the audio hardware. -/
theorem abides_unlock_behind (id : StreamId) :
    Leads (Run.Abides kept origin) (unlock (.stream id))
      (.hardware :: .stream id :: held, known) fun _ after => after = (.hardware :: held, known) :=
  abides_unlock upheld (by simp) (by simp)

/-- The lock of a stream is given back that was taken ahead of two others. -/
theorem abides_unlock_last (own id : StreamId) :
    Leads (Run.Abides kept origin) (unlock (.stream id))
      ([.hardware, .stream own, .stream id], known) fun _ after =>
        after = ([.hardware, .stream own], known) := by
  refine abides_unlock upheld (by simp) ?_
  by_cases same : own = id <;> simp [same]

/-- What is done with the hardware lock held leaves the locks as they were. -/
theorem abides_withHardware {action : Act α} (free : .hardware ∉ held)
    (leads : Leads (Run.Abides kept origin) action (.hardware :: held, known) fun _ after =>
      after = (.hardware :: held, known)) :
    Leads (Run.Abides kept origin) (withHardware action) (held, known) fun _ after =>
      after = (held, known) := by
  refine Leads.then (abides_lock upheld fun _ _ => free) fun _ => leads.then fun answer => ?_
  exact (abides_unlock_head upheld _).then fun _ => leads_pure _ rfl

theorem abides_setActivity (activity : Activity) (component : Component) :
    Leads (Run.Abides kept origin) (setActivity activity component) (held, known) fun _ after =>
      after = (held, known) := by
  cases component with
  | router => exact abides_changeHardware upheld (fun _ => rfl) fun _ => rfl
  | stream id =>
      have stays := upheld.changed (f := fun stream => { stream with activity := activity }) id
        fun _ => ⟨rfl, rfl, rfl, .inl rfl⟩
      exact abides_changeStream id stays fun _ => rfl

section Calls

variable (what : Happening) (stays : ∀ run, kept run → kept (note what run).2)
  (lawful : ∀ machine : Machine, machine.Bears known → what.Lawful machine held)
  (apart : what.heldAfter held = held)
include stays lawful apart

theorem abides_bareCall (effect : Drivers → α × Drivers) :
    Leads (Run.Abides kept origin) (bareCall what effect) (held, known) fun _ after =>
      after = (held, known) := by
  refine (abides_note stays lawful).then fun _ => ?_
  rw [apart]
  exact abides_drive upheld effect

theorem abides_call (caller : Component) (activity : Activity)
    (effect : Drivers → α × Drivers) :
    Leads (Run.Abides kept origin) (call caller activity what effect) (held, known)
      fun _ after => after = (held, known) :=
  (abides_setActivity upheld _ _).then fun _ =>
    (abides_bareCall upheld what stays lawful apart effect).then fun _ =>
      (abides_setActivity upheld _ _).then fun _ => leads_pure _ rfl

theorem abides_callWakeLock (wakeCall : Bench.WakeCall) :
    Leads (Run.Abides kept origin) (callWakeLock what wakeCall) (held, known) fun _ after =>
      after = (held, known) := by
  refine abides_machine.read fun machine _ => ?_
  split
  · exact abides_bareCall upheld what stays lawful apart _
  · exact leads_pure _ rfl

end Calls

section Wake

variable (guarded : .hardware ∈ held) {id : StreamId} (own : .stream id ∈ held)
include guarded own

theorem abides_acquireWake :
    Leads (Run.Abides kept origin) (acquireWake id) (held, known) fun _ after =>
      after = (held, known) :=
  (abides_stream id).read fun _ _ =>
    abides_callWakeLock upheld (.acquireWake id _) (upheld.note rfl)
      (fun _ _ => ⟨guarded, own⟩) rfl _

theorem abides_releaseWake :
    Leads (Run.Abides kept origin) (releaseWake id) (held, known) fun _ after =>
      after = (held, known) :=
  (abides_stream id).read fun _ _ =>
    abides_callWakeLock upheld (.releaseWake id _) (upheld.note rfl)
      (fun _ _ => ⟨guarded, own⟩) rfl _

end Wake

theorem abides_tell (id : Option StreamId) (event : Event)
    (lawful : ∀ machine : Machine, (Happening.event id event).Lawful machine held) :
    Leads (Run.Abides kept origin) (tell id event) (held, known) fun _ after =>
      after = (held, known) := by
  refine abides_machine.read fun machine _ => ?_
  split
  · exact abides_bareCall upheld _ (upheld.note rfl) (fun machine _ => lawful machine) rfl _
  · exact leads_pure _ rfl

theorem abides_setLink (direction : Direction) (link : LinkEnd) :
    Leads (Run.Abides kept origin) (setLink direction link) (held, known) fun _ after =>
      after = (held, known) :=
  abides_changeHardware upheld (fun _ => rfl) fun _ => rfl

section Routing

variable (guarded : .hardware ∈ held)
include guarded

theorem abides_writeControl (control : String) (value : ControlValue) :
    Leads (Run.Abides kept origin) (writeControl control value) (held, known) fun _ after =>
      after = (held, known) := by
  refine (abides_call upheld (.findControl control) (upheld.note rfl) (fun _ _ => guarded) rfl
    _ _ _).then fun handle => ?_
  cases handle with
  | none => exact leads_pure _ rfl
  | some handle =>
      exact (abides_call upheld (.setControl control value) (upheld.note rfl) (fun _ _ => guarded)
        rfl _ _ _).then fun _ => leads_pure _ rfl

theorem abides_openLink (direction : Direction) :
    Leads (Run.Abides kept origin) (openLink direction) (held, known) fun _ after =>
      after = (held, known) := by
  refine (abides_bareCall upheld (.openPcm .router _) (upheld.note rfl)
    (fun _ _ => ⟨guarded, trivial⟩) rfl _).then fun opened => ?_
  cases opened with
  | error error => exact leads_pure _ rfl
  | ok pcm =>
      dsimp only
      split
      · exact (abides_bareCall upheld (.startPcm .router _) (upheld.note rfl)
          (fun _ _ => ⟨guarded, trivial⟩) rfl _).then fun _ => leads_pure _ rfl
      · exact leads_pure _ rfl

theorem abides_closeLink (direction : Direction) :
    Leads (Run.Abides kept origin) (closeLink direction) (held, known) fun _ after =>
      after = (held, known) := by
  refine abides_hardware.then fun hardware => ?_
  refine (abides_setLink upheld direction _).then fun _ => ?_
  cases (hardware.links.get direction).pcm with
  | none => exact leads_pure _ rfl
  | some pcm =>
      exact abides_bareCall upheld (.closePcm .router _) (upheld.note rfl)
        (fun _ _ => ⟨guarded, trivial⟩) rfl _

theorem abides_takeStep (step : RouteStep) :
    Leads (Run.Abides kept origin) (takeStep step) (held, known) fun _ after =>
      after = (held, known) := by
  cases step with
  | write control value => exact abides_writeControl upheld guarded control value
  | hold direction =>
      refine abides_hardware.then fun hardware => ?_
      dsimp only
      cases Word.next? (hardware.links.get direction).holds with
      | none => exact leads_pure _ rfl
      | some holds =>
          refine (abides_setLink upheld direction _).then fun _ => ?_
          split
          · exact (abides_openLink upheld guarded direction).then fun _ =>
              abides_setLink upheld direction _
          · exact leads_pure _ rfl
  | letGo direction =>
      refine abides_hardware.then fun hardware => ?_
      dsimp only
      split
      · refine (abides_setLink upheld direction _).then fun _ => ?_
        split
        · exact abides_closeLink upheld guarded direction
        · exact leads_pure _ rfl
      · exact leads_pure _ rfl

theorem abides_takeSteps (steps : List RouteStep) :
    Leads (Run.Abides kept origin) (takeSteps steps) (held, known) fun _ after =>
      after = (held, known) := by
  induction steps with
  | nil => exact leads_pure _ rfl
  | cons step rest ih => exact (abides_takeStep upheld guarded step).then fun _ => ih

/-- Routing takes the lock of the audio hardware. -/
theorem abides_reroute (f : Router → Router × List RouteStep) :
    Leads (Run.Abides kept origin) (reroute f) (held, known) fun _ after =>
      after = (held, known) := by
  refine abides_hardware.then fun hardware => ?_
  cases hardware.router with
  | none => exact leads_pure _ rfl
  | some router =>
      refine (abides_changeHardware upheld ?_ ?_).then fun _ => ?_
      · exact fun _ => rfl
      · exact fun _ => rfl
      · exact abides_takeSteps upheld guarded (f router).2

end Routing

end Locks

end Act

end PhoneAudio
