import Mathlib.Data.List.GetD
import PhoneAudio.Machine.Route
import PhoneAudio.Proofs.Machine.Leads

/-!
# What matters of a machine

The part of the machine's state on which operations decide: the core, without locks, links, drivers
and notes of driver calls (`PhoneAudio.Machine.core`). A run shows a core if that is the core of its
state and the PCM driver has exactly the PCMs open that the streams and the links hold
(`PhoneAudio.Run.Shows`). The actions that all operations are made of lead from core to core as if
they worked on nothing else.
-/

namespace PhoneAudio

/-- Mapping a changed list, for a map under which the change is a change of the images. -/
theorem map_modify {α β : Type} {f : α → β} {g : α → α} {h : β → β}
    (commutes : ∀ a, f (g a) = h (f a)) (list : List α) (place : Nat) :
    (list.modify place g).map f = (list.map f).modify place h := by
  apply List.ext_getElem?
  intro other
  simp only [List.getElem?_map, List.getElem?_modify, Option.map_eq_map, Option.map_map]
  congr 1
  funext a
  by_cases same : place = other
  · simp only [same, ↓reduceIte, Function.comp_apply, commutes]
  · simp only [same, ↓reduceIte, Function.comp_apply]

/-- Mapping a changed list, for a map that does not see the change. -/
theorem map_modify_of_unseen {α β : Type} {f : α → β} {g : α → α} (unseen : ∀ a, f (g a) = f a)
    (list : List α) (place : Nat) : (list.modify place g).map f = list.map f := by
  rw [map_modify (h := id) unseen, List.modify_id]

/-- A stream without its lock, its note of driver calls, its filters and its buffers. -/
def Stream.core (stream : Stream) : Stream :=
  { stream with locked := false, activity := .idle, pipeline := {}, raw := [], samples := [] }

/-- The audio hardware without its lock, its links and the router's note of driver calls. -/
def Hardware.core (hardware : Hardware) : Hardware :=
  { hardware with locked := false, links := {}, activity := .idle }

namespace Machine

/-- The state without what operations do not decide on. -/
def core (machine : Machine) : Machine where
  settings := machine.settings
  hardware := machine.hardware.core
  streams := machine.streams.map Stream.core

/-- The state with a stream changed. -/
def adjust (machine : Machine) (id : StreamId) (f : Stream → Stream) : Machine :=
  { machine with streams := machine.streams.modify id f }

/-- The state with the audio hardware changed. -/
def govern (machine : Machine) (f : Hardware → Hardware) : Machine :=
  { machine with hardware := f machine.hardware }

/-- The state with the router changed, if there is one. -/
def reroute (machine : Machine) (f : Router → Router × List RouteStep) : Machine :=
  machine.govern fun hardware =>
    { hardware with router := hardware.router.map fun router => (f router).1 }

/-- Without a router, nothing is rerouted. -/
theorem reroute_of_none {machine : Machine} (f : Router → Router × List RouteStep)
    (absent : machine.hardware.router = none) : machine.reroute f = machine := by
  obtain ⟨settings, hardware, streams, drivers⟩ := machine
  obtain ⟨present, locked, router, rest⟩ := hardware
  cases absent
  rfl

/-- With a router, rerouting changes the router alone. -/
theorem reroute_of_some {machine : Machine} {router : Router}
    (f : Router → Router × List RouteStep) (there : machine.hardware.router = some router) :
    machine.reroute f = machine.govern fun hardware =>
      { hardware with router := some (f router).1 } := by
  obtain ⟨settings, hardware, streams, drivers⟩ := machine
  obtain ⟨present, locked, other, rest⟩ := hardware
  cases there
  rfl

/-- Of changes to the router, only the router afterwards matters. -/
theorem reroute_congr {machine : Machine} {f g : Router → Router × List RouteStep}
    (same : ∀ router, machine.hardware.router = some router → (f router).1 = (g router).1) :
    machine.reroute f = machine.reroute g := by
  have routers : machine.hardware.router.map (fun router => (f router).1) =
      machine.hardware.router.map fun router => (g router).1 := Option.map_congr same
  unfold reroute govern
  dsimp only
  rw [routers]

/-- Rerouting twice is rerouting once. -/
theorem reroute_reroute (machine : Machine) (f g : Router → Router × List RouteStep) :
    (machine.reroute f).reroute g = machine.reroute fun router => g (f router).1 := by
  unfold reroute govern
  dsimp only
  rw [Option.map_map]
  rfl

/-- The core of a stream is the stream of the core. -/
theorem stream_core (machine : Machine) (id : StreamId) :
    machine.core.stream id = (machine.stream id).core :=
  List.getD_map machine.streams default Stream.core

/-- The core says which stream is active. -/
theorem active_core (machine : Machine) (direction : Direction) :
    machine.core.active direction = machine.active direction := by
  have same : ∀ id, (machine.core.stream id).isActive = (machine.stream id).isActive := by
    intro id
    rw [stream_core]
    rfl
  cases direction with
  | playback => exact congrArg (machine.hardware.output.filter ·) (funext same)
  | capture => exact congrArg (machine.hardware.inputs.find? ·) (funext same)

/-- A stream that is changed is what it was changed to. -/
theorem stream_adjust (machine : Machine) {id : StreamId} (f : Stream → Stream)
    (inside : id < machine.streams.length) :
    (machine.adjust id f).stream id = f (machine.stream id) := by
  unfold adjust stream
  rw [List.getD_eq_getElem?_getD, List.getElem?_modify_eq, List.getD_eq_getElem?_getD,
    List.getElem?_eq_getElem inside]
  rfl

/-- The other streams are left. -/
theorem stream_adjust_of_ne (machine : Machine) {id other : StreamId} (f : Stream → Stream)
    (different : other ≠ id) : (machine.adjust id f).stream other = machine.stream other := by
  unfold adjust stream
  rw [List.getD_eq_getElem?_getD, List.getElem?_modify_ne _ _ different.symm,
    ← List.getD_eq_getElem?_getD]

theorem length_adjust (machine : Machine) (id : StreamId) (f : Stream → Stream) :
    (machine.adjust id f).streams.length = machine.streams.length :=
  List.length_modify ..

/-- Changing a stream twice is changing it once. -/
theorem adjust_adjust (machine : Machine) (id : StreamId) (f g : Stream → Stream) :
    (machine.adjust id f).adjust id g = machine.adjust id (g ∘ f) := by
  unfold adjust
  congr 1
  exact List.modify_modify_eq ..

/-- Changing a stream commutes with the core as far as the change does. -/
theorem core_adjust (machine : Machine) (id : StreamId) {f g : Stream → Stream}
    (commutes : ∀ stream, (f stream).core = g stream.core) :
    (machine.adjust id f).core = machine.core.adjust id g := by
  unfold core adjust
  congr 1
  exact map_modify commutes machine.streams id

theorem adjust_id (machine : Machine) (id : StreamId) :
    machine.adjust id (fun stream => stream) = machine := by
  unfold adjust
  congr 1
  exact List.modify_id ..

/-- A change that the core does not see leaves the core. -/
theorem core_adjust_of_unseen (machine : Machine) (id : StreamId) {f : Stream → Stream}
    (unseen : ∀ stream, (f stream).core = stream.core) :
    (machine.adjust id f).core = machine.core := by
  have kept : (machine.adjust id f).core = machine.core.adjust id fun stream => stream :=
    machine.core_adjust id unseen
  rwa [adjust_id] at kept

end Machine

/-- The codec's PCMs that are open are those that the streams hold, and links hold other ones. -/
structure Tallied (streams : List Stream) (live : List (PcmBus × Direction)) (links : Links) :
    Prop where
  live_eq : ∀ direction, live.count (.codec, direction) =
    streams.countP fun stream => stream.direction = direction && stream.pcm.isSome
  held : ∀ stream ∈ streams, ∀ pcm, stream.pcm = some pcm →
    pcm.setup.bus = .codec ∧ pcm.setup.direction = stream.direction
  linked : ∀ direction pcm, (links.get direction).pcm = some pcm → pcm.setup.bus = .bluetooth

namespace Tallied

variable {streams : List Stream} {live : List (PcmBus × Direction)} {links : Links}

/-- Changes that leave the directions and the PCMs of streams leave the tally. -/
theorem modify (tallied : Tallied streams live links) (id : StreamId) {f : Stream → Stream}
    (direction : ∀ stream, (f stream).direction = stream.direction)
    (pcm : ∀ stream, (f stream).pcm = stream.pcm) : Tallied (streams.modify id f) live links := by
  by_cases inside : id < streams.length
  · obtain ⟨front, stream, back, rfl, -, changed⟩ := List.exists_of_modify f inside
    rw [changed]
    refine ⟨fun way => ?_, ?_, tallied.linked⟩
    · rw [tallied.live_eq, List.countP_append, List.countP_append, List.countP_cons,
        List.countP_cons, direction, pcm]
    · intro other member
      rw [List.mem_append, List.mem_cons] at member
      obtain before | rfl | after := member
      · exact tallied.held other (List.mem_append_left _ before)
      · rw [direction, pcm]
        exact tallied.held stream (List.mem_append_right _ (List.mem_cons_self ..))
      · exact tallied.held other (List.mem_append_right _ (List.mem_cons_of_mem _ after))
  · rw [List.modify_eq_self (Nat.le_of_not_lt inside)]
    exact tallied

theorem getD_middle (front back : List Stream) (stream : Stream) :
    (front ++ stream :: back).getD front.length default = stream := by
  rw [List.getD_append_right _ _ _ _ (Nat.le_refl _), Nat.sub_self, List.getD_cons_zero]

/-- A stream without a PCM that is given one. -/
theorem install (tallied : Tallied streams live links) {id : StreamId}
    (inside : id < streams.length) (empty : (streams.getD id default).pcm = none)
    {pcm : OpenPcm} (bus : pcm.setup.bus = .codec)
    (way : pcm.setup.direction = (streams.getD id default).direction) :
    Tallied (streams.modify id fun stream => { stream with pcm := some pcm })
      ((pcm.setup.bus, pcm.setup.direction) :: live) links := by
  obtain ⟨front, stream, back, rfl, rfl, changed⟩ :=
    List.exists_of_modify (fun stream => { stream with pcm := some pcm }) inside
  rw [getD_middle] at empty way
  rw [changed, bus, way]
  refine ⟨fun direction => ?_, ?_, tallied.linked⟩
  · rw [List.count_cons, tallied.live_eq, List.countP_append, List.countP_append,
      List.countP_cons, List.countP_cons]
    by_cases same : stream.direction = direction
    · simp [same, empty]
      omega
    · simp [same]
  · intro other member held holds
    rw [List.mem_append, List.mem_cons] at member
    obtain before | rfl | after := member
    · exact tallied.held other (List.mem_append_left _ before) held holds
    · cases holds
      exact ⟨bus, way⟩
    · exact tallied.held other (List.mem_append_right _ (List.mem_cons_of_mem _ after)) held holds

/-- A stream whose PCM is taken away and closed. -/
theorem remove (tallied : Tallied streams live links) {id : StreamId}
    (inside : id < streams.length) {pcm : OpenPcm}
    (holds : (streams.getD id default).pcm = some pcm) :
    Tallied (streams.modify id fun stream => { stream with pcm := none })
      (live.erase (pcm.setup.bus, pcm.setup.direction)) links := by
  obtain ⟨front, stream, back, rfl, rfl, changed⟩ :=
    List.exists_of_modify (fun stream => { stream with pcm := none }) inside
  rw [getD_middle] at holds
  obtain ⟨bus, way⟩ := tallied.held stream
    (List.mem_append_right _ (List.mem_cons_self ..)) pcm holds
  rw [changed, bus, way]
  refine ⟨fun direction => ?_, ?_, tallied.linked⟩
  · rw [List.count_erase, tallied.live_eq, List.countP_append, List.countP_append,
      List.countP_cons, List.countP_cons]
    by_cases same : stream.direction = direction
    · simp [same, holds]
    · simp [same]
  · intro other member held some
    rw [List.mem_append, List.mem_cons] at member
    obtain before | rfl | after := member
    · exact tallied.held other (List.mem_append_left _ before) held some
    · cases some
    · exact tallied.held other (List.mem_append_right _ (List.mem_cons_of_mem _ after)) held some

/-- A new stream without a PCM. -/
theorem append (tallied : Tallied streams live links) {stream : Stream}
    (empty : stream.pcm = none) : Tallied (streams ++ [stream]) live links := by
  refine ⟨fun direction => ?_, ?_, tallied.linked⟩
  · rw [List.countP_append, ← tallied.live_eq, List.countP_singleton, empty]
    simp
  · intro other member held holds
    rw [List.mem_append, List.mem_singleton] at member
    obtain before | rfl := member
    · exact tallied.held other before held holds
    · rw [empty] at holds
      cases holds

/-- Closing a PCM that is not the codec's. -/
theorem erase_other (tallied : Tallied streams live links) {entry : PcmBus × Direction}
    (other : entry.1 ≠ .codec) : Tallied streams (live.erase entry) links := by
  refine ⟨fun direction => ?_, tallied.held, tallied.linked⟩
  rw [← tallied.live_eq]
  exact List.count_erase_of_ne fun same => other (congrArg Prod.fst same).symm

end Tallied

/-- A run whose state has a core, with the PCM driver in step. -/
structure Run.Shows (run : Run) (state : Machine) : Prop where
  core_eq : run.machine.core = state
  tallied : Tallied state.streams run.machine.drivers.pcm.live run.machine.hardware.links

/-- What a run shows depends on the core, the open PCMs and the links. -/
theorem Run.Shows.of_eq {run after : Run} {state : Machine} (shows : run.Shows state)
    (core : after.machine.core = run.machine.core)
    (live : after.machine.drivers.pcm.live = run.machine.drivers.pcm.live)
    (links : after.machine.hardware.links = run.machine.hardware.links) : after.Shows state := by
  refine ⟨core.trans shows.core_eq, ?_⟩
  rw [live, links]
  exact shows.tallied

theorem Run.Shows.stream {run : Run} {state : Machine} (shows : run.Shows state)
    (id : StreamId) : (run.machine.stream id).core = state.stream id := by
  rw [← shows.core_eq, Machine.stream_core]

theorem Run.Shows.direction {run : Run} {state : Machine} (shows : run.Shows state)
    (id : StreamId) : (run.machine.stream id).direction = (state.stream id).direction := by
  rw [← shows.stream id]
  rfl

theorem Run.Shows.status {run : Run} {state : Machine} (shows : run.Shows state)
    (id : StreamId) : (run.machine.stream id).status = (state.stream id).status := by
  rw [← shows.stream id]
  rfl

theorem Run.Shows.present {run : Run} {state : Machine} (shows : run.Shows state) :
    run.machine.hardware.present = state.hardware.present := by
  rw [← shows.core_eq]
  rfl

theorem Run.Shows.mode {run : Run} {state : Machine} (shows : run.Shows state) :
    run.machine.hardware.mode = state.hardware.mode := by
  rw [← shows.core_eq]
  rfl

theorem Run.Shows.active {run : Run} {state : Machine} (shows : run.Shows state)
    (direction : Direction) : run.machine.active direction = state.active direction := by
  rw [← shows.core_eq, Machine.active_core]

theorem Run.Shows.length {run : Run} {state : Machine} (shows : run.Shows state) :
    run.machine.streams.length = state.streams.length := by
  rw [← shows.core_eq]
  exact (List.length_map ..).symm

theorem Run.Shows.router {run : Run} {state : Machine} (shows : run.Shows state) :
    run.machine.hardware.router = state.hardware.router := by
  rw [← shows.core_eq]
  rfl

theorem Run.Shows.isOpen {run : Run} {state : Machine} (shows : run.Shows state)
    (id : StreamId) : run.machine.isOpen id = state.isOpen id := by
  rw [← shows.core_eq]
  rfl

namespace Act

variable {α : Type} {state : Machine}

theorem leads_machine :
    Leads Run.Shows machine state fun read after => after = state ∧ read.core = state :=
  fun _ shown => ⟨state, shown, rfl, shown.core_eq⟩

theorem leads_hardware :
    Leads Run.Shows hardware state fun read after =>
      after = state ∧ read.core = state.hardware :=
  fun _ shown => ⟨state, shown, rfl, congrArg Machine.hardware shown.core_eq⟩

theorem leads_stream (id : StreamId) :
    Leads Run.Shows (stream id) state fun read after =>
      after = state ∧ read.core = state.stream id :=
  fun _ shown => ⟨state, shown, rfl, shown.stream id⟩

theorem leads_changeHardware {f g : Hardware → Hardware}
    (commutes : ∀ hardware, (f hardware).core = g hardware.core)
    (links : ∀ hardware, (f hardware).links = hardware.links) :
    Leads Run.Shows (changeHardware f) state fun _ after => after = state.govern g := by
  refine fun run shown => ⟨_, ⟨?_, ?_⟩, rfl⟩
  · rw [← shown.core_eq]
    exact congrArg (fun hardware => Machine.mk _ hardware _ _) (commutes run.machine.hardware)
  · have tallied := shown.tallied
    rw [← links] at tallied
    exact tallied

/-- A change of the audio hardware that does the same to its core. -/
theorem leads_govern {f : Hardware → Hardware}
    (commutes : ∀ hardware, (f hardware).core = f hardware.core)
    (links : ∀ hardware, (f hardware).links = hardware.links) :
    Leads Run.Shows (changeHardware f) state fun _ after => after = state.govern f :=
  leads_changeHardware commutes links

/-- A stream is changed in what is shown as far as the change commutes with the core. -/
theorem leads_changeStream (id : StreamId) {f g : Stream → Stream}
    (commutes : ∀ stream, (f stream).core = g stream.core)
    (direction : ∀ stream, (g stream).direction = stream.direction)
    (pcm : ∀ stream, (g stream).pcm = stream.pcm) :
    Leads Run.Shows (changeStream id f) state fun _ after => after = state.adjust id g := by
  refine fun run shown => ⟨_, ⟨?_, ?_⟩, rfl⟩
  · rw [← shown.core_eq]
    exact run.machine.core_adjust id commutes
  · exact shown.tallied.modify id direction pcm

theorem leads_changeStatus (id : StreamId) (f : StreamStatus → StreamStatus) :
    Leads Run.Shows (changeStatus id f) state fun _ after =>
      after = state.adjust id fun stream => { stream with status := f stream.status } :=
  leads_changeStream id (fun _ => rfl) (fun _ => rfl) fun _ => rfl

theorem leads_note (what : Happening) :
    Leads Run.Shows (note what) state fun _ after => after = state :=
  leads_of_unseen fun _ _ shown => shown.of_eq rfl rfl rfl

theorem leads_unseenStream (id : StreamId) {f : Stream → Stream}
    (core : ∀ stream, (f stream).core = stream.core) :
    Leads Run.Shows (changeStream id f) state fun _ after => after = state :=
  leads_of_unseen fun run _ shown =>
    shown.of_eq (run.machine.core_adjust_of_unseen id core) rfl rfl

theorem leads_unseenHardware {f : Hardware → Hardware}
    (core : ∀ hardware, (f hardware).core = hardware.core)
    (links : ∀ hardware, (f hardware).links = hardware.links) :
    Leads Run.Shows (changeHardware f) state fun _ after => after = state :=
  leads_of_unseen fun run _ shown =>
    shown.of_eq (congrArg (fun hardware => Machine.mk _ hardware _ _) (core run.machine.hardware))
      rfl (links _)

theorem leads_setLocked (locked : Bool) (target : Lock) :
    Leads Run.Shows (setLocked locked target) state fun _ after => after = state := by
  cases target with
  | hardware => exact leads_unseenHardware (fun _ => rfl) fun _ => rfl
  | stream id => exact leads_unseenStream id fun _ => rfl

theorem leads_lock (target : Lock) :
    Leads Run.Shows (lock target) state fun _ after => after = state :=
  (leads_note _).then fun _ => leads_setLocked true target

theorem leads_unlock (target : Lock) :
    Leads Run.Shows (unlock target) state fun _ after => after = state :=
  (leads_note _).then fun _ => leads_setLocked false target

/-- What an action leads to does not depend on the lock that is held meanwhile. -/
theorem leads_withHardware {action : Act α} {post : α → Machine → Prop}
    (leads : Leads Run.Shows action state post) :
    Leads Run.Shows (withHardware action) state post :=
  (leads_lock _).then fun _ => leads.bind fun _ _ holds =>
    (leads_unlock _).then fun _ => leads_pure _ holds

theorem leads_setActivity (activity : Activity) (component : Component) :
    Leads Run.Shows (setActivity activity component) state fun _ after => after = state := by
  cases component with
  | router => exact leads_unseenHardware (fun _ => rfl) fun _ => rfl
  | stream id => exact leads_unseenStream id fun _ => rfl

/-- A note of what a component is doing leaves the drivers and the core. -/
theorem setActivity_effect (activity : Activity) (component : Component) (run : Run) :
    (setActivity activity component run).2.machine.drivers = run.machine.drivers ∧
      (setActivity activity component run).2.machine.core = run.machine.core ∧
      (setActivity activity component run).2.machine.hardware.links =
        run.machine.hardware.links := by
  cases component with
  | router => exact ⟨rfl, rfl, rfl⟩
  | stream id => exact ⟨rfl, run.machine.core_adjust_of_unseen id fun _ => rfl, rfl⟩

/-- What a driver call answers and does to the drivers; it shows nothing else. -/
theorem call_effect (caller : Component) (activity : Activity) (what : Happening)
    (effect : Drivers → α × Drivers) (run : Run) :
    (call caller activity what effect run).1 = (effect run.machine.drivers).1 ∧
      (call caller activity what effect run).2.machine.drivers =
        (effect run.machine.drivers).2 ∧
      (call caller activity what effect run).2.machine.core = run.machine.core ∧
      (call caller activity what effect run).2.machine.hardware.links =
        run.machine.hardware.links := by
  obtain ⟨drivers, core, links⟩ := setActivity_effect activity caller run
  obtain ⟨kept, settled, linked⟩ := setActivity_effect .idle caller
    (bareCall what effect (setActivity activity caller run).2).2
  refine ⟨?_, ?_, settled.trans core, linked.trans links⟩
  · rw [← drivers]
    rfl
  · rw [← drivers]
    exact kept

/-- A driver call that neither opens nor closes a PCM. -/
theorem leads_bareCall (what : Happening) {effect : Drivers → α × Drivers}
    (live : ∀ drivers, (effect drivers).2.pcm.live = drivers.pcm.live) :
    Leads Run.Shows (bareCall what effect) state fun _ after => after = state :=
  (leads_note _).then fun _ => leads_of_unseen fun _ _ shown => shown.of_eq rfl (live _) rfl

/-- A call to a driver that leaves the open PCMs leaves what is shown. -/
theorem leads_call (caller : Component) (activity : Activity) (what : Happening)
    {effect : Drivers → α × Drivers}
    (live : ∀ drivers, (effect drivers).2.pcm.live = drivers.pcm.live) :
    Leads Run.Shows (call caller activity what effect) state fun _ after => after = state :=
  (leads_setActivity _ _).then fun _ => (leads_bareCall what live).then fun _ =>
    (leads_setActivity _ _).then fun _ => leads_pure _ rfl

theorem leads_callWakeLock (what : Happening) (wakeCall : Bench.WakeCall) :
    Leads Run.Shows (callWakeLock what wakeCall) state fun _ after => after = state := by
  refine leads_machine.read fun read _ => ?_
  split
  · exact leads_bareCall what fun _ => rfl
  · exact leads_pure _ rfl

theorem leads_acquireWake (id : StreamId) :
    Leads Run.Shows (acquireWake id) state fun _ after => after = state :=
  (leads_stream id).read fun _ _ => leads_callWakeLock _ _

theorem leads_releaseWake (id : StreamId) :
    Leads Run.Shows (releaseWake id) state fun _ after => after = state :=
  (leads_stream id).read fun _ _ => leads_callWakeLock _ _

theorem leads_tell (id : Option StreamId) (event : Event) :
    Leads Run.Shows (tell id event) state fun _ after => after = state := by
  refine leads_machine.read fun read _ => ?_
  split
  · exact leads_bareCall _ fun _ => rfl
  · exact leads_pure _ rfl

end Act

end PhoneAudio
