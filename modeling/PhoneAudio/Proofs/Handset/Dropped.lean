import PhoneAudio.Proofs.Handset.Logs
import PhoneAudio.Proofs.Handset.OpeningOrder
import PhoneAudio.Proofs.Handset.PlayedRoute

/-!
# After dropping the audio hardware

Dropping the audio hardware gives everything back, for good (`PhoneAudio.Session.releasesAll`): no
PCM is open, the wake lock is given back as often as it was taken, and all streams are in standby.
From then on nothing that is done with a stream calls a driver, and all that would need the audio
hardware is refused.
-/

namespace PhoneAudio

/-- Whether something that happens is a call to the mixer, to the PCM driver or to the wake lock. -/
def Happening.isDriverCall : Happening → Bool
  | lock _ | tryLock .. | unlock _ | standby _ | event .. => false
  | _ => true

/-- Whether something that happens is no such call. -/
def Happening.isQuiet (what : Happening) : Bool :=
  !what.isDriverCall

namespace Operation

/-- An operation that has to have the audio hardware: standby, parameters, and transfers of one
frame at least. -/
def NeedsHardware (machine : Machine) : Operation → Prop
  | standby _ | applyParameters .. | write .. => True
  | read id buffer => 0 < buffer.length / (machine.stream id).format.frameBytes
  | _ => False

instance (machine : Machine) : (operation : Operation) →
    Decidable (operation.NeedsHardware machine)
  | .standby _ | .applyParameters .. | .write .. => inferInstanceAs (Decidable True)
  | .read id buffer =>
    inferInstanceAs (Decidable (0 < buffer.length / (machine.stream id).format.frameBytes))
  | .openStream .. | .close _ | .answerKeys .. | .setMode _ | .setMuted _ | .setCallVolume _
  | .setMediaVolume _ | .setCallDevices _ | .ask _ | .dropHardware =>
    inferInstanceAs (Decidable False)

end Operation

/-- The calls to drivers so far. -/
def Run.driverCalls (run : Run) : List Happening :=
  (run.history.map Moment.what).filter Happening.isDriverCall

/-- What is quiet calls no driver. -/
theorem Run.Stays.driverCalls {β : Type} {view : Machine → β} {run after : Run}
    (stays : run.Stays view Happening.isQuiet after) : after.driverCalls = run.driverCalls :=
  stays.happened fun _ quiet => (Bool.not_eq_true' _).mp quiet

namespace Act

/-- An action that leaves the router, the links and the PCMs at every moment, and calls no
driver. -/
def Quiet {α : Type} (action : Act α) : Prop :=
  Stays Machine.wires Happening.isQuiet action

theorem quiet_lock (target : Lock) : Quiet (lock target) :=
  wires_lock rfl

theorem quiet_unlock (target : Lock) : Quiet (unlock target) :=
  wires_unlock rfl

theorem quiet_tell (id : Option StreamId) (event : Event) : Quiet (tell id event) :=
  wires_tell rfl

theorem quiet_answerKeys (id : StreamId) (keys : String) : Quiet (answerKeys id keys) :=
  wires_answerKeys (fun _ => rfl) (fun _ => rfl) id keys

theorem quiet_find (query : Query) : Quiet (find query) := by
  refine composes_stays.find (fun what sort => stays_note ?_) wires_setLocked query
  cases what <;> first | rfl | cases sort

section Absent

variable {run : Run} {id : StreamId} (absent : run.machine.hardware.present = false)
include absent

/-- Without audio hardware, no stream is put to standby. -/
theorem standby_absent : standby id run = (.error .notInitialized, run) := by
  unfold standby
  rw [bind_apply, hardware_apply]
  exact congrFun (if_neg (ne_true_of_eq_false absent)) run

/-- Without audio hardware, no parameters are applied. -/
theorem applyParameters_absent (text : String) :
    applyParameters id text run = (.error .notInitialized, run) := by
  unfold applyParameters
  rw [bind_apply, hardware_apply]
  exact congrFun (if_neg (ne_true_of_eq_false absent)) run

variable (asleep : (run.machine.stream id).isActive = false)
include asleep

/-- A stream in standby stays there. -/
theorem beginTransfer_absent :
    beginTransfer [] id run = (.error .notInitialized, (lock (.stream id) run).2) := by
  have still : ((lock (.stream id) run).2.machine.stream id).isActive = false := by
    refine Eq.trans (Machine.view_adjust Stream.isActive run.machine id id ?_) asleep
    exact fun _ => rfl
  have absent : (lock (.stream id) run).2.machine.hardware.present = false := absent
  unfold beginTransfer wake
  rw [bind_apply, bind_apply, stream_apply]
  generalize (lock (.stream id) run).2 = locked at still absent
  dsimp only
  rw [if_neg (ne_true_of_eq_false still)]
  split
  · rfl
  · rw [bind_apply, hardware_apply]
    dsimp only
    rw [absent]
    rfl

end Absent

theorem hardware_tell (id : Option StreamId) (event : Event) (run : Run) :
    (tell id event run).2.machine.hardware = run.machine.hardware := by
  unfold tell
  rw [bind_apply, machine_apply]
  dsimp only
  split <;> rfl

/-- A transfer that failed stays quiet without audio hardware. -/
theorem finishTransfer_absent {α : Type} {run : Run} (id : StreamId)
    (absent : run.machine.hardware.present = false) (error : AudioError) :
    (finishTransfer id (.error error : Except AudioError α) run).1 = .error error ∧
      run.Stays Machine.wires Happening.isQuiet
        (finishTransfer id (.error error : Except AudioError α) run).2 := by
  have unlocked := quiet_unlock (.stream id) run
  have absent : (unlock (.stream id) run).2.machine.hardware.present = false := absent
  unfold finishTransfer
  rw [bind_apply]
  generalize (unlock (.stream id) run).2 = after at unlocked absent
  dsimp only
  rw [bind_apply, stream_apply, bind_apply]
  have told := quiet_tell (some id)
    (.transferFailed (after.machine.stream id).direction error.message) after
  have gone := congrArg (fun hardware => hardware.present) (hardware_tell (some id)
    (.transferFailed (after.machine.stream id).direction error.message) after)
  dsimp only at gone ⊢
  rw [bind_apply, standby_absent (gone.trans absent)]
  exact ⟨rfl, unlocked.trans told⟩

section Transfers

variable {run : Run} {id : StreamId} (absent : run.machine.hardware.present = false)
  (asleep : (run.machine.stream id).isActive = false)
include absent asleep

/-- Without audio hardware, nothing is written, and no driver is called. -/
theorem write_absent (bytes : Nat) : (write id bytes run).1 = .error .notInitialized ∧
    run.Stays Machine.wires Happening.isQuiet (write id bytes run).2 := by
  have locked := quiet_lock (.stream id) run
  have gone : (lock (.stream id) run).2.machine.hardware.present = false := absent
  obtain ⟨refused, quiet⟩ := finishTransfer_absent (α := Nat) id gone .notInitialized
  unfold write writeAmid
  rw [bind_apply, beginTransfer_absent absent asleep]
  exact ⟨refused, locked.trans quiet⟩

/-- A read of no frame at all is refused before anything else. -/
theorem read_absent (buffer : List UInt8) :
    (0 < buffer.length / (run.machine.stream id).format.frameBytes →
      (read id buffer run).1.1 = .error .notInitialized) ∧
    run.Stays Machine.wires Happening.isQuiet (read id buffer run).2 := by
  have locked := quiet_lock (.stream id) run
  have gone : (lock (.stream id) run).2.machine.hardware.present = false := absent
  obtain ⟨refused, quiet⟩ := finishTransfer_absent (α := List Int16) id gone .notInitialized
  unfold read readAmid
  rw [bind_apply, stream_apply]
  dsimp only
  split
  · rename_i none
    exact ⟨fun some => absurd none (Nat.ne_of_gt some), .refl run⟩
  · rw [bind_apply, beginTransfer_absent absent asleep]
    generalize (lock (.stream id) run).2 = after at locked refused quiet
    unfold completeRead
    rw [bind_apply, stream_apply]
    dsimp only
    rw [bind_apply, pure_apply, bind_apply]
    dsimp only
    generalize finishTransfer id (.error .notInitialized : Except AudioError (List Int16)) after =
      finished at refused quiet
    obtain ⟨answer, last⟩ := finished
    obtain rfl : answer = .error .notInitialized := refused
    exact ⟨fun _ => rfl, locked.trans quiet⟩

end Transfers

end Act

/-- Without audio hardware, an operation on a stream in standby is quiet, and refused if it would
need the audio hardware. -/
theorem Operation.perform_absent {operation : Operation} {run : Run}
    (absent : run.machine.hardware.present = false)
    (asleep : ∀ id < run.machine.streams.length, (run.machine.stream id).isActive = false)
    (possible : operation.Possible run.machine) :
    run.Stays Machine.wires Happening.isQuiet (operation.perform run).2 ∧
      (operation.NeedsHardware run.machine →
        (operation.perform run).1 = .failed .notInitialized) := by
  cases operation with
  | standby id =>
      rw [Operation.perform, Act.bind_apply, Act.standby_absent absent]
      exact ⟨.refl run, fun _ => rfl⟩
  | applyParameters id text =>
      rw [Operation.perform, Act.bind_apply, Act.applyParameters_absent absent]
      exact ⟨.refl run, fun _ => rfl⟩
  | answerKeys id keys => exact ⟨Act.quiet_answerKeys id keys run, False.elim⟩
  | ask query => exact ⟨Act.quiet_find query run, False.elim⟩
  | write id bytes =>
      obtain ⟨refused, quiet⟩ := Act.write_absent absent (asleep id possible.1) bytes
      rw [Operation.perform, Act.bind_apply]
      generalize Act.write id bytes run = written at refused quiet
      obtain ⟨answer, after⟩ := written
      obtain rfl : answer = .error .notInitialized := refused
      exact ⟨quiet, fun _ => rfl⟩
  | read id buffer =>
      obtain ⟨refused, quiet⟩ := Act.read_absent absent (asleep id possible.1) buffer
      rw [Operation.perform, Act.bind_apply]
      generalize Act.read id buffer run = answered at refused quiet
      obtain ⟨⟨answer, filled⟩, after⟩ := answered
      constructor
      · cases answer <;> exact quiet
      · intro some
        obtain rfl : answer = .error .notInitialized := refused some
        rfl
  | close id =>
      have present : run.machine.hardware.present = true := possible.1
      rw [absent] at present
      cases present
  | _ =>
      have present : run.machine.hardware.present = true := possible
      rw [absent] at present
      cases present

namespace Machine

/-- Without audio hardware, all streams are in standby. -/
theorem Sound.asleep {machine : Machine} (sound : machine.Sound [])
    (absent : machine.hardware.present = false) {id : StreamId}
    (inside : id < machine.streams.length) : (machine.stream id).status.standby = true := by
  refine sound.closed id inside ?_
  rw [sound.attached id inside, sound.isOpen_of_absent absent]
  rfl

end Machine

/-- Taking the router off closes both links. -/
theorem Act.unlinked_closeRouter (run : Run) (direction : Direction) :
    ((Act.closeRouter run).2.machine.hardware.links.get direction).pcm = none := by
  obtain ⟨_, shown, rfl⟩ := Act.boards_closeLink .capture
    (Act.changeHardware (fun hardware => { hardware with router := none }) run).2 rfl
  obtain ⟨_, last, rfl⟩ := Act.boards_closeLink .playback _ shown
  have links := congrArg LinkBoard.links last
  change ((Act.closeRouter run).2.board.links.get direction).pcm = none
  rw [show (Act.closeRouter run).2.board.links = _ from links]
  cases direction <;> rfl

namespace Run

/-- What the audio hardware leaves when it goes. -/
structure Abandoned (run : Run) (state : Machine) : Prop where
  shows : run.Shows state
  sound : state.Sound []
  absent : state.hardware.present = false

variable {run : Run} {state : Machine} (abandoned : run.Abandoned state)
include abandoned

/-- The audio hardware is gone. -/
theorem Abandoned.present : run.machine.hardware.present = false :=
  abandoned.shows.present.trans abandoned.absent

/-- Every stream is in standby. -/
theorem Abandoned.asleep {id : StreamId} (inside : id < run.machine.streams.length) :
    (run.machine.stream id).status.standby = true := by
  rw [abandoned.shows.status]
  exact abandoned.sound.asleep abandoned.absent (abandoned.shows.length ▸ inside)

/-- No stream is active. -/
theorem Abandoned.inactive {id : StreamId} (inside : id < run.machine.streams.length) :
    (run.machine.stream id).isActive = false := by
  rw [Stream.isActive, abandoned.asleep inside]
  rfl

/-- No stream is out of standby. -/
theorem Abandoned.awake (direction : Direction) : run.machine.awake direction = 0 := by
  refine List.countP_eq_zero.mpr fun stream member => ?_
  obtain ⟨id, inside, rfl⟩ := List.mem_iff_getElem.mp member
  rw [run.machine.stream_getElem inside, abandoned.inactive inside, Bool.and_false]
  exact Bool.false_ne_true

/-- Streams in standby have no PCM. -/
theorem Abandoned.codec (direction : Direction) :
    run.machine.drivers.pcm.liveOn .codec direction = 0 := by
  refine abandoned.shows.liveOn_eq_zero (abandoned.sound.vacant nofun fun id isOpen => ?_)
  rw [abandoned.sound.isOpen_of_absent abandoned.absent] at isOpen
  cases isOpen

end Run

/-- An operation after which there is no audio hardware. -/
theorem Operation.abandons {operation : Operation} {run : Run} {state : Machine}
    (shown : run.Shows state) (sound : state.Sound []) (possible : operation.Possible state)
    (goes : (operation.onFrame state.frame).1 = false) :
    ∃ after, (operation.perform run).2.Abandoned after := by
  obtain ⟨after, reached, settled, steers⟩ := Operation.steers shown sound possible
  exact ⟨after, reached, settled, (congrArg Prod.fst steers.frame).trans goes⟩

namespace Session

variable {first middle last : Run} {operations : List Operation}

/-- **Dropping** the audio hardware leaves no PCM open. -/
theorem abandoned (built : first.Built)
    (session : Session first (operations ++ [.dropHardware]) last) :
    (∃ state, last.Abandoned state) ∧ last.machine.drivers.pcm.live = [] := by
  obtain ⟨start, shown, sound, -⟩ := built.shows
  have tidy := (session.proceeds shown sound).tidy built.bare.tidy
  obtain ⟨run, conditions, earlier, possible, rfl⟩ := session.last_step
  obtain ⟨before, shows, advanced⟩ := earlier.advances shown sound
  obtain ⟨state, abandoned⟩ := Operation.abandons (shows.under conditions) advanced.sound
    (possible.core shows) rfl
  have unlinked : ∀ direction, ((Operation.dropHardware.perform
      (run.under conditions)).2.board.links.get direction).pcm = none :=
    Act.unlinked_closeRouter _
  refine ⟨⟨state, abandoned⟩, List.eq_nil_iff_forall_not_mem.mpr fun ⟨bus, direction⟩ => ?_⟩
  cases bus with
  | codec => exact List.count_eq_zero.mp (abandoned.codec direction)
  | bluetooth =>
      refine List.count_eq_zero.mp ((tidy.links.live direction).trans ?_)
      rw [unlinked direction]
      rfl

/-- **Without audio hardware**, sessions go on quietly, and there will be none again. -/
theorem quiet {state : Machine} (session : Session middle operations last)
    (abandoned : middle.Abandoned state) :
    (∃ after, last.Abandoned after) ∧ middle.Stays Machine.wires Happening.isQuiet last := by
  induction session with
  | start => exact ⟨⟨state, abandoned⟩, .refl middle⟩
  | @step _ run _ conditions operation possible ih =>
      obtain ⟨⟨before, still⟩, behind⟩ := ih
      have ready : run.Stays Machine.wires Happening.isQuiet (run.under conditions) :=
        .of_history rfl rfl
      have absent : (run.under conditions).machine.hardware.present = false := still.present
      obtain ⟨ahead, -⟩ := Operation.perform_absent absent (fun id => still.inactive) possible
      refine ⟨Operation.abandons (still.shows.under conditions) still.sound
        (possible.core still.shows) ?_, behind.trans (ready.trans ahead)⟩
      cases operation with
      | dropHardware => rfl
      | _ => exact still.absent

end Session

/-- All that was taken since a first run is given back: no PCM is open, all streams are in standby,
and the wake lock was given back as often as it was taken, under each tag. -/
structure Run.Released (first run : Run) : Prop where
  closed : run.machine.drivers.pcm.live = []
  asleep : ∀ id < run.machine.streams.length, (run.machine.stream id).status.standby = true
  yielded : ∃ calls, run.machine.drivers.wakeCalls = first.machine.drivers.wakeCalls ++ calls ∧
    ∀ direction : Direction, calls.count (.acquire direction.wakeTag) =
      calls.count (.release direction.wakeTag)

namespace Session

variable {first middle last : Run} {operations more : List Operation}

/-- Streams in standby hold no wake lock. -/
theorem released {state : Machine} (built : first.Built) (session : Session first operations last)
    (abandoned : last.Abandoned state) (closed : last.machine.drivers.pcm.live = []) :
    first.Released last := by
  refine ⟨closed, fun _ => abandoned.asleep, ?_⟩
  cases there : first.machine.drivers.hasWakeLock with
  | false =>
      have same := congrArg Prod.snd (session.moves.wakes_of_absent there)
      exact ⟨[], same.trans (List.append_nil _).symm, fun _ => rfl⟩
  | true =>
      obtain ⟨calls, called, fit⟩ := (session.moves.held built.held).wakes there
      refine ⟨calls, called, fun direction => ?_⟩
      have none : last.ledger.awake direction = 0 :=
        (congrFun last.machine.awake_ledger direction).trans (abandoned.awake direction)
      have balanced := fit.balanced direction
      rwa [none] at balanced

/-- **For good.** Once the audio hardware is dropped, and whatever is done with the streams after
that, all is given back, no driver is called any more, and what would need the audio hardware is
refused. -/
theorem releasesAll (built : first.Built)
    (session : Session first (operations ++ [.dropHardware]) middle)
    (later : Session middle more last) :
    first.Released last ∧ last.driverCalls = middle.driverCalls ∧
      ∀ (conditions : Conditions) (operation : Operation), operation.Possible last.machine →
        operation.NeedsHardware last.machine →
          (operation.perform (last.under conditions)).1 = .failed .notInitialized := by
  obtain ⟨⟨state, abandoned⟩, closed⟩ := session.abandoned built
  obtain ⟨⟨after, still⟩, quiet⟩ := later.quiet abandoned
  have kept := congrArg (fun wires => wires.2.2.2) quiet.kept
  refine ⟨(session.append later).released built still (kept.trans closed), quiet.driverCalls, ?_⟩
  intro conditions operation possible
  have absent : (last.under conditions).machine.hardware.present = false := still.present
  exact (Operation.perform_absent absent (fun id => still.inactive) possible).2

end Session

/-- One stream plays to a Bluetooth headset and another captures. -/
def Run.wireless : Run :=
  (((Run.stock.next (.openStream .playback ⟨0x10⟩ {})).next (.write 0 4)).next
    (.openStream .capture ⟨0x40000⟩ {})).next (.read 1 [0, 0, 0, 0])

/-- One stream plays over Bluetooth, and another captures. -/
theorem Session.wireless : Session Run.stock
    [.openStream .playback ⟨0x10⟩ {}, .write 0 4, .openStream .capture ⟨0x40000⟩ {},
      .read 1 [0, 0, 0, 0]] Run.wireless := by
  have opened : Session Run.stock [.openStream .playback ⟨0x10⟩ {}]
      (Run.stock.next (.openStream .playback ⟨0x10⟩ {})) :=
    Session.start.next _ (by decide +kernel)
  have playing := opened.next (.write 0 4) (by decide +kernel)
  have ready := playing.next (.openStream .capture ⟨0x40000⟩ {}) (by decide +kernel)
  exact ready.next (.read 1 [0, 0, 0, 0]) (by decide +kernel)

/-- Three PCMs were open before the audio hardware was dropped. Writing after that fails. -/
theorem Session.releasesAll_wireless :
    Run.wireless.machine.drivers.pcm.live =
        [(.codec, .capture), (.bluetooth, .playback), (.codec, .playback)] ∧
      Run.stock.Released ((Run.wireless.next .dropHardware).next (.write 0 4)) ∧
      ((Run.wireless.next .dropHardware).next (.write 0 4)).driverCalls =
        (Run.wireless.next .dropHardware).driverCalls ∧
      (Operation.perform (.read 1 [0, 0, 0, 0])
        (((Run.wireless.next .dropHardware).next (.write 0 4)).under {})).1 =
          .failed .notInitialized := by
  have session := Session.wireless.next .dropHardware (by decide +kernel)
  have later : Session (Run.wireless.next .dropHardware) [.write 0 4]
      ((Run.wireless.next .dropHardware).next (.write 0 4)) :=
    Session.start.next _ (by decide +kernel)
  obtain ⟨released, quiet, refused⟩ := Session.releasesAll Run.built_stock session later
  exact ⟨by decide +kernel, released, quiet,
    refused {} (.read 1 [0, 0, 0, 0]) (by decide +kernel) (by decide +kernel)⟩

end PhoneAudio
