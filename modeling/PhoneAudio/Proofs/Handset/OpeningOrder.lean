import PhoneAudio.Proofs.Handset.Progress

/-!
# The order of opening

While one capture stream at most is open, the codec never has more than one PCM in a direction, and
playback is always opened ahead of capture (`PhoneAudio.Session.opensInTurn`), at every moment and
however opening fails. What makes a PCM be opened closes the PCMs that would have to come later.
-/

namespace PhoneAudio

namespace Machine

variable {machine after : Machine} {direction : Direction}

/-- The codec has one PCM open in each direction at most, and that for playback was opened first. -/
def InOrder (machine : Machine) : Prop :=
  machine.codecLive.Sublist [(.codec, .capture), (.codec, .playback)]

theorem InOrder.of_eq (order : machine.InOrder) (same : after.codecLive = machine.codecLive) :
    after.InOrder := by
  unfold InOrder
  rwa [same]

/-- The PCM of a stream is held. -/
theorem mem_held (machine : Machine) {id : StreamId} {pcm : OpenPcm}
    (there : (machine.stream id).pcm = some pcm) : pcm ∈ machine.held := by
  unfold Machine.stream at there
  by_cases inside : id < machine.streams.length
  · rw [List.getD_eq_getElem _ _ inside] at there
    exact List.mem_filterMap.mpr ⟨_, List.getElem_mem inside, there⟩
  · rw [List.getD_eq_default _ _ (Nat.le_of_not_lt inside)] at there
    cases there

/-- A stream that is changed holds what it is given, and the others what they held. -/
theorem mem_held_adjust (machine : Machine) (id : StreamId) (f : Stream → Stream) {pcm : OpenPcm}
    (member : pcm ∈ (machine.adjust id f).held) :
    pcm ∈ machine.held ∨ (f (machine.stream id)).pcm = some pcm := by
  obtain ⟨stream, among, there⟩ := List.mem_filterMap.mp member
  obtain ⟨other, inside, rfl⟩ := List.mem_iff_getElem.mp among
  have here : (machine.adjust id f).streams[other] = (machine.adjust id f).stream other :=
    (List.getD_eq_getElem _ _ inside).symm
  rw [here] at there
  obtain ⟨rfl, changed⟩ | same := machine.stream_adjust_cases id other f
  · rw [changed] at there
    exact .inr there
  · rw [same] at there
    exact .inl (machine.mem_held there)

/-- Closing a PCM leaves the others in order. -/
theorem InOrder.erased (order : machine.InOrder) {entry : PcmBus × Direction}
    (erased : after.drivers.pcm.live = machine.drivers.pcm.live.erase entry) : after.InOrder := by
  have sublist := (machine.drivers.pcm.live.erase_sublist (a := entry)).filter
    fun entry => decide (entry.1 = PcmBus.codec)
  rw [← erased] at sublist
  exact sublist.trans order

/-- A PCM that is opened while the codec is free for it comes in order. -/
theorem InOrder.opened (order : machine.InOrder) (free : machine.FreeFor direction)
    (opened : after.drivers.pcm.live = (.codec, direction) :: machine.drivers.pcm.live) :
    after.InOrder := by
  have cons : after.codecLive = (.codec, direction) :: machine.codecLive := by
    have filtered := congrArg (List.filter fun entry => decide (entry.1 = PcmBus.codec)) opened
    exact filtered.trans (List.filter_cons_of_pos rfl)
  have shorter : ∀ {other : Direction} {rest : List (PcmBus × Direction)},
      machine.drivers.pcm.liveOn .codec other = 0 →
      machine.codecLive.Sublist ((.codec, other) :: rest) → machine.codecLive.Sublist rest := by
    intro other rest none sublist
    obtain shorter | ⟨tail, same, -⟩ := List.sublist_cons_iff.mp sublist
    · exact shorter
    · have member : (PcmBus.codec, other) ∈ machine.codecLive := same ▸ List.mem_cons_self ..
      exact absurd (List.mem_filter.mp member).1 (List.count_eq_zero.mp none)
  have last : machine.codecLive.Sublist [(.codec, .playback)] := shorter free.1 order
  unfold InOrder
  rw [cons]
  cases direction with
  | capture => exact last.cons_cons _
  | playback =>
      have none := shorter (free.2 rfl) last
      rw [List.sublist_nil.mp none]
      exact (List.Sublist.refl _).cons _

/-- Nothing is open at the beginning. -/
theorem Bare.inOrder (bare : machine.Bare) : machine.InOrder := by
  unfold InOrder codecLive
  rw [bare.live]
  exact List.nil_sublist _

end Machine

/-- A moment at which the codec's PCMs are in order and, if one is being opened, the codec is free
for it. -/
structure Moment.InTurn (moment : Moment) : Prop where
  order : moment.before.InOrder
  free : ∀ owner setup, moment.what = .openPcm owner setup → setup.bus = .codec →
    moment.before.FreeFor setup.direction

namespace Run

/-- The codec's PCMs are in order now and were at every moment. -/
structure InTurn (run : Run) : Prop where
  order : run.machine.InOrder
  moments : ∀ moment ∈ run.history, moment.InTurn

/-- Streams hold PCMs of the codec, and links of their own; if capture streams are alone, the
codec's PCMs are in turn. -/
structure Tidy (alone : Prop) (run : Run) : Prop where
  turns : alone → run.InTurn
  held : ∀ pcm ∈ run.machine.held, pcm.setup.bus = .codec
  links : run.board.Ordered fun _ => 0

variable {run after : Run} {alone : Prop}

/-- As long as no PCM of the codec is opened or closed, moments are in turn. -/
theorem InTurn.stays (turns : run.InTurn)
    (stays : run.Stays Machine.codecLive Happening.sparesCodec after) : after.InTurn := by
  obtain ⟨more, history, before⟩ := stays.moments
  refine ⟨turns.order.of_eq stays.kept, fun moment member => ?_⟩
  rw [history] at member
  obtain early | late := List.mem_append.mp member
  · exact turns.moments moment early
  · obtain ⟨same, spares⟩ := before moment late
    refine ⟨turns.order.of_eq same, fun owner setup opens codec => ?_⟩
    rw [opens] at spares
    simp [Happening.sparesCodec, codec] at spares

/-- What is aside leaves the PCMs tidy. -/
theorem Tidy.aside (tidy : run.Tidy alone)
    (stays : run.Stays Machine.wires Happening.isAside after) : after.Tidy alone := by
  have codec : run.Stays Machine.codecLive Happening.sparesCodec after := by
    have live := stays.map fun wires => wires.2.2.2.filter fun entry => entry.1 = .codec
    refine Stays.mono live fun what aside => ?_
    cases what <;> first | rfl | cases aside
  have wires := stays.kept
  simp only [Machine.wires, Prod.mk.injEq] at wires
  obtain ⟨-, links, held, live⟩ := wires
  have same : after.board = run.board := congrArg₂ LinkBoard.mk links live
  exact ⟨fun unaccompanied => (tidy.turns unaccompanied).stays codec, held ▸ tidy.held,
    same ▸ tidy.links⟩

/-- What goes on about links and controls leaves the streams. -/
theorem Tidy.routed (tidy : run.Tidy alone)
    (stays : run.Stays Machine.codecLive Happening.sparesCodec after)
    (streams : after.machine.streams = run.machine.streams)
    (links : after.board.Ordered fun _ => 0) : after.Tidy alone := by
  have same : after.machine.held = run.machine.held := congrArg (List.filterMap Stream.pcm) streams
  exact ⟨fun unaccompanied => (tidy.turns unaccompanied).stays stays, same ▸ tidy.held, links⟩

/-- A stream's call to the PCM driver. -/
theorem Tidy.pcmCall {α : Type} (tidy : run.Tidy alone) (id : StreamId) (activity : Activity)
    {what : Happening} {effect : Drivers → α × Drivers}
    (free : alone → ∀ owner setup, what = .openPcm owner setup → setup.bus = .codec →
      run.machine.FreeFor setup.direction)
    (order : alone → (Act.call (.stream id) activity what effect run).2.machine.InOrder)
    (apart : ∀ direction, (effect run.machine.drivers).2.pcm.live.count (.bluetooth, direction) =
      run.machine.drivers.pcm.live.count (.bluetooth, direction)) :
    (Act.call (.stream id) activity what effect run).2.Tidy alone := by
  refine ⟨fun unaccompanied => ⟨order unaccompanied, fun moment member => ?_⟩, ?_,
    tidy.links.idle, tidy.links.own, ?_⟩
  · have turns := tidy.turns unaccompanied
    obtain early | now := List.mem_append.mp member
    · exact turns.moments moment early
    · rw [List.mem_singleton.mp now]
      exact ⟨turns.order, free unaccompanied⟩
  · have set : ∀ (machine : Machine) (activity : Activity),
        (machine.adjust id fun stream => { stream with activity := activity }).held =
          machine.held := fun machine _ => machine.held_adjust id fun _ => rfl
    have same : (Act.call (.stream id) activity what effect run).2.machine.held =
        run.machine.held := (set _ .idle).trans (set run.machine activity)
    exact same ▸ tidy.held
  · exact fun direction => (apart direction).trans (tidy.links.live direction)

/-- A stream's call that closes a PCM of the codec. -/
theorem Tidy.closeCall (tidy : run.Tidy alone) (id : StreamId) (setup : PcmSetup) {pcm : OpenPcm}
    (codec : pcm.setup.bus = .codec) :
    (Act.call (.stream id) .closingPcm (.closePcm (.stream id) setup) (Act.closing pcm)
      run).2.Tidy alone := by
  have closed : (Act.call (.stream id) .closingPcm (.closePcm (.stream id) setup)
      (Act.closing pcm) run).2.machine.drivers.pcm.live =
        run.machine.drivers.pcm.live.erase (pcm.setup.bus, pcm.setup.direction) := rfl
  refine tidy.pcmCall id _ (fun _ _ _ opens => ?_)
    (fun unaccompanied => (tidy.turns unaccompanied).order.erased closed) fun direction => ?_
  · cases opens
  · refine List.count_erase_of_ne fun same => ?_
    rw [codec] at same
    cases same

/-- A stream that is given a PCM of the codec, or none. -/
theorem Tidy.holding (tidy : run.Tidy alone) (id : StreamId) {pcm : Option OpenPcm}
    (codec : ∀ other, pcm = some other → other.setup.bus = .codec) :
    (Act.changeStream id (fun stream => { stream with pcm := pcm }) run).2.Tidy alone := by
  refine ⟨fun unaccompanied => ?_, fun other member => ?_, tidy.links⟩
  · exact ⟨(tidy.turns unaccompanied).order, (tidy.turns unaccompanied).moments⟩
  · obtain before | now := run.machine.mem_held_adjust id _ member
    · exact tidy.held other before
    · exact codec other now

/-- Closing the PCM of a stream leaves the rest tidy. -/
theorem Tidy.shut (tidy : run.Tidy alone) (id : StreamId) :
    (Act.closeStreamPcm id run).2.Tidy alone := by
  unfold Act.closeStreamPcm
  rw [Act.bind_apply, Act.stream_apply]
  dsimp only
  cases there : (run.machine.stream id).pcm with
  | none => exact tidy
  | some pcm =>
      have emptied :
          (Act.changeStream id (fun stream => { stream with pcm := none }) run).2.Tidy alone :=
        tidy.holding id fun _ => nofun
      exact emptied.closeCall id pcm.setup (tidy.held pcm (run.machine.mem_held there))

/-- A stream's call that opens a PCM of the codec, if it may while that is free for it. -/
theorem Tidy.openCall (tidy : run.Tidy alone) (id : StreamId) {setup : PcmSetup}
    (codec : setup.bus = .codec) (free : alone → run.machine.FreeFor setup.direction) :
    (Act.call (.stream id) .openingPcm (.openPcm (.stream id) setup)
      (Act.onPcm (·.openPcm setup)) run).2.Tidy alone := by
  have turn : alone → ∀ owner other, Happening.openPcm (.stream id) setup = .openPcm owner other →
      other.bus = .codec → run.machine.FreeFor other.direction := by
    rintro unaccompanied _ _ ⟨⟩ _
    exact free unaccompanied
  obtain ⟨_, -, live⟩ | ⟨_, -, -, live⟩ := run.machine.drivers.pcm.openPcm_cases setup
  · refine tidy.pcmCall id _ turn (fun unaccompanied => ?_) fun direction =>
      congrArg (List.count _) live
    exact (tidy.turns unaccompanied).order.of_eq (congrArg (List.filter _) live)
  · rw [codec] at live
    refine tidy.pcmCall id _ turn (fun unaccompanied => ?_) fun direction => ?_
    · exact (tidy.turns unaccompanied).order.opened (free unaccompanied) live
    · refine (congrArg (List.count _) live).trans (List.count_cons_of_ne fun same => ?_)
      cases same

/-- **Opening** a stream's PCM while the codec is free for it keeps to the order, however it
ends. -/
theorem Tidy.engaged (tidy : run.Tidy alone) (id : StreamId)
    (empty : (run.machine.stream id).pcm = none)
    (free : alone → run.machine.FreeFor (run.machine.stream id).direction) :
    (Act.engage id run).2.Tidy alone := by
  unfold Act.engage
  rw [Act.bind_apply, Act.machine_apply, Act.bind_apply, Act.stream_apply]
  dsimp only
  rw [Act.bind_apply]
  generalize planned : PcmSetup.codec run.machine.settings (run.machine.stream id).direction = setup
  have codec : setup.bus = .codec := by
    rw [← planned]
    rfl
  have direction : setup.direction = (run.machine.stream id).direction := by
    rw [← planned]
    rfl
  have opened := tidy.openCall id codec (direction ▸ free)
  generalize called : Act.call (.stream id) .openingPcm (.openPcm (.stream id) setup)
    (Act.onPcm (·.openPcm setup)) run = answered at opened
  have vacant : (answered.2.machine.stream id).pcm = none := by
    have set : ∀ (machine : Machine) (activity : Activity), ((machine.adjust id fun stream =>
        { stream with activity := activity }).stream id).pcm = (machine.stream id).pcm :=
      fun machine _ => machine.view_adjust Stream.pcm id id fun _ => rfl
    rw [← called]
    exact ((set _ .idle).trans (set run.machine .openingPcm)).trans empty
  have answer : (run.machine.drivers.pcm.openPcm setup).1 = answered.1 := by
    rw [← called]
    rfl
  obtain ⟨error | pcm, after⟩ := answered
  · exact opened
  have own : pcm.setup.bus = .codec := by
    obtain ⟨_, failed, -⟩ | ⟨_, done, same, -⟩ := run.machine.drivers.pcm.openPcm_cases setup
    · cases failed.symm.trans answer
    · cases done.symm.trans answer
      exact same ▸ codec
  dsimp only
  split
  · unfold Act.installPcm
    rw [Act.bind_apply, Act.bind_apply, Act.stream_apply]
    dsimp only
    rw [vacant, Act.bind_apply]
    refine opened.holding id fun other same => ?_
    cases same
    exact own
  · exact opened.closeCall id setup own

theorem Tidy.changeRouter (tidy : run.Tidy alone) (router : Option Router) :
    (Act.changeHardware (fun hardware => { hardware with router := router }) run).2.Tidy alone :=
  ⟨fun unaccompanied => ⟨(tidy.turns unaccompanied).order, (tidy.turns unaccompanied).moments⟩,
    tidy.held, tidy.links⟩

/-- A call on the router leaves the PCMs tidy. -/
theorem Tidy.perform (tidy : run.Tidy alone) (call : RouterCall) :
    (call.perform run).2.Tidy alone := by
  rw [call.perform_eq]
  cases there : run.machine.hardware.router with
  | none =>
      rw [Act.reroute_of_none there]
      exact tidy
  | some router =>
      rw [Act.reroute_of_some there]
      have changed := tidy.changeRouter (some (call.onRouter router).1)
      generalize (Act.changeHardware (fun hardware =>
        { hardware with router := some (call.onRouter router).1 }) run).2 = between at changed
      obtain ⟨stays, links⟩ :=
        between.stays_codecLive_takeSteps (call.onRouter router).2 changed.links
      have still := Act.keeps_takeSteps (call.onRouter router).2 between
      exact changed.routed stays (congrArg (fun machine => machine.streams) still :) links

theorem Tidy.closeLink (tidy : run.Tidy alone) (direction : Direction) :
    (Act.closeLink direction run).2.Tidy alone := by
  have stays := run.stays_codecLive_closeLink direction fun pcm there => by
    rw [tidy.links.own direction pcm there]
    rfl
  exact tidy.routed stays
    (congrArg (fun rest => rest.1.streams) (Act.keeps_closeLink direction run))
    (run.ordered_closeLink direction tidy.links)

/-- **Steps** keep to the order at every moment. -/
theorem Instant.tidy (instant : run.Instant alone after) (tidy : run.Tidy alone) :
    after.Tidy alone := by
  cases instant with
  | aside stays => exact tidy.aside stays
  | shut id => exact tidy.shut id
  | engaged id empty free => exact tidy.engaged id empty free
  | routed call => exact tidy.perform call
  | gone => exact ((tidy.changeRouter none).closeLink .capture).closeLink .playback

/-- Steps leave the PCMs tidy. -/
theorem Proceeds.tidy (proceeds : run.Proceeds alone after) (tidy : run.Tidy alone) :
    after.Tidy alone := by
  induction proceeds with
  | refl => exact tidy
  | tail _ instant ih => exact instant.tidy ih

theorem Bare.tidy (bare : run.Bare) : run.Tidy alone := by
  refine ⟨fun _ => ⟨bare.now.inOrder, fun moment member => ?_⟩, ?_, ?_⟩
  · refine ⟨(bare.ever moment member).inOrder, fun owner setup opens => ?_⟩
    have mixer := bare.mixer moment member
    rw [opens] at mixer
    cases mixer
  · rw [bare.now.held]
    exact fun _ member => absurd member List.not_mem_nil
  · have links : run.board = ⟨{}, []⟩ := congrArg₂ LinkBoard.mk bare.now.links bare.now.live
    rw [links]
    refine ⟨fun direction _ => ?_, fun direction pcm there => ?_, fun direction => ?_⟩
    · cases direction <;> rfl
    · cases direction <;> cases there
    · cases direction <;> rfl

end Run

/-- A session in which one capture stream at most is open at any time. -/
abbrev Session.Solo : Run → List Operation → Run → Prop :=
  Session.Through fun _ _ after => after.machine.hardware.inputs.length ≤ 1

/-- **The order of opening.** While one capture stream at most is open, and however the drivers do,
a PCM of the codec is opened for playback only while none is open at all, and for capture only while
none is open for capture; so if both are open, at any moment, playback was opened first. -/
theorem Session.opensInTurn {first last : Run} {operations : List Operation}
    (built : first.Built) (session : Session.Solo first operations last) :
    (∀ moment ∈ last.history, ∀ owner setup, moment.what = .openPcm owner setup →
      setup.bus = .codec → moment.before.FreeFor setup.direction) ∧
    last.Throughout Machine.InOrder := by
  obtain ⟨settings, tables, shown⟩ := built.shows_vacant
  have none : first.machine.hardware.inputs = [] := congrArg (fun machine =>
    machine.hardware.inputs) shown.core_eq
  have few : first.machine.hardware.inputs.length ≤ 1 := none ▸ Nat.zero_le 1
  have solo := session.mono fun _ _ _ few (_ : True) => few
  have proceeds := solo.proceeds shown (Machine.sound_built settings tables) fun _ => few
  have turns := (proceeds.tidy built.bare.tidy).turns trivial
  exact ⟨fun moment member => (turns.moments moment member).free, turns.order,
    fun moment member => (turns.moments moment member).order⟩

/-- A stream that plays and one that captures, both opened on the codec. -/
def Run.playedAndCaptured : Run :=
  (((Run.stock.next (.openStream .capture ⟨0x40000⟩ {})).next (.read 0 [0, 0, 0, 0])).next
    (.openStream .playback ⟨2⟩ {})).next (.write 1 4)

/-- One stream was captured with, and another is being played on. -/
theorem Session.playedAndCaptured : Session.Solo Run.stock
    [.openStream .capture ⟨0x40000⟩ {}, .read 0 [0, 0, 0, 0], .openStream .playback ⟨2⟩ {},
      .write 1 4] Run.playedAndCaptured := by
  have opened : Session.Solo Run.stock [.openStream .capture ⟨0x40000⟩ {}]
      (Run.stock.next (.openStream .capture ⟨0x40000⟩ {})) :=
    Session.Through.start.next _ (by decide +kernel) (by decide +kernel)
  have captured := opened.next (.read 0 [0, 0, 0, 0]) (by decide +kernel) (by decide +kernel)
  have joined := captured.next (.openStream .playback ⟨2⟩ {}) (by decide +kernel)
    (by decide +kernel)
  exact joined.next (.write 1 4) (by decide +kernel) (by decide +kernel)

/-- Though capture was on first, its PCM was opened again after that for playback. -/
theorem Session.opensInTurn_playedAndCaptured :
    (∀ moment ∈ Run.playedAndCaptured.history, ∀ owner setup,
      moment.what = .openPcm owner setup → setup.bus = .codec →
        moment.before.FreeFor setup.direction) ∧
    Run.playedAndCaptured.Throughout Machine.InOrder ∧
    Run.playedAndCaptured.machine.codecLive = [(.codec, .capture), (.codec, .playback)] := by
  obtain ⟨turns, order⟩ := Session.opensInTurn Run.built_stock Session.playedAndCaptured
  exact ⟨turns, order, by decide +kernel⟩

end PhoneAudio
