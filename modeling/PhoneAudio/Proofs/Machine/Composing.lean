import PhoneAudio.Handset.Control
import PhoneAudio.Handset.Lifecycle
import PhoneAudio.Handset.Queries

/-!
# Properties of actions that compose

Many properties of actions hold of doing nothing, of looking at the state, and of one action after
another if they hold of both (`PhoneAudio.Act.Composes`). Such a property holds of routing as soon
as it holds of the driver calls that routing is made of (`PhoneAudio.Act.Routes.takeSteps`), and of
finding something out as soon as it holds of taking locks and giving them back
(`PhoneAudio.Act.Composes.find`).
-/

namespace PhoneAudio

/-- Whether something that happens is that a lock is taken, tried or given back. -/
def Happening.isLocking : Happening → Bool
  | lock _ | tryLock .. | unlock _ => true
  | _ => false

namespace Act

/-- A property that actions have if they are put together of actions that have it. -/
structure Composes (holds : ∀ {α : Type}, Act α → Prop) : Prop where
  done : ∀ {α : Type} (answer : α), holds (pure answer : Act α)
  reads : ∀ {α : Type} (read : Machine → α), holds fun run => (read run.machine, run)
  next : ∀ {α γ : Type} {action : Act α} {rest : α → Act γ}, holds action →
    (∀ answer, holds (rest answer)) → holds (action >>= rest)

namespace Composes

variable {holds : ∀ {α : Type}, Act α → Prop} (composes : Composes holds)
include composes

theorem machine : holds machine :=
  composes.reads fun machine => machine

theorem hardware : holds hardware :=
  composes.reads fun machine => machine.hardware

theorem stream (id : StreamId) : holds (stream id) :=
  composes.reads fun machine => machine.stream id

/-- A call to the wake lock, for a property that the driver's part of it has. -/
theorem callWakeLock {what : Happening} {wakeCall : Bench.WakeCall}
    (called : holds (bareCall what fun drivers =>
      ((), { drivers with wakeCalls := drivers.wakeCalls ++ [wakeCall] }))) :
    holds (callWakeLock what wakeCall) := by
  refine composes.next composes.machine fun machine => ?_
  split
  · exact called
  · exact composes.done _

/-- Telling the listener, for a property that the driver's part of it has. -/
theorem tell {id : Option StreamId} {event : Event}
    (called : holds (bareCall (.event id event) fun drivers =>
      ((), { drivers with events := drivers.events ++ [event] }))) : holds (tell id event) := by
  refine composes.next composes.machine fun machine => ?_
  split
  · exact called
  · exact composes.done _

end Composes

/-- A property that composes, of the calls that routing makes and of its changes to the links. -/
structure Routes (holds : ∀ {α : Type}, Act α → Prop) : Prop extends Composes holds where
  finds : ∀ control, holds (call .router .findingControl (.findControl control)
    (onMixer (·.find control)))
  writes : ∀ control value handle, holds (call .router .settingControl (.setControl control value)
    (onMixer (·.write handle value)))
  opens : ∀ setup, holds (bareCall (.openPcm .router setup) (onPcm (·.openPcm setup)))
  starts : ∀ setup pcm, holds (bareCall (.startPcm .router setup) (onPcm (·.start pcm)))
  closes : ∀ pcm, holds (bareCall (.closePcm .router pcm.setup) (closing pcm))
  links : ∀ direction link, holds (setLink direction link)

namespace Routes

variable {holds : ∀ {α : Type}, Act α → Prop} (routes : Routes holds)
include routes

/-- A control is looked up, and written to if it is there. -/
theorem writeControl (control : String) (value : ControlValue) :
    holds (writeControl control value) := by
  refine routes.next (routes.finds control) fun handle => ?_
  cases handle with
  | none => exact routes.done _
  | some handle => exact routes.next (routes.writes control value handle) fun _ => routes.done _

/-- The PCM of a link is opened, and started if it is ready. -/
theorem openLink (direction : Direction) : holds (openLink direction) := by
  refine routes.next (routes.opens _) fun opened => ?_
  cases opened with
  | error error => exact routes.done _
  | ok pcm =>
      dsimp only
      split
      · exact routes.next (routes.starts _ pcm) fun _ => routes.done _
      · exact routes.done _

theorem closeLink (direction : Direction) : holds (closeLink direction) := by
  refine routes.next routes.hardware fun hardware => ?_
  refine routes.next (routes.links _ _) fun _ => ?_
  cases (hardware.links.get direction).pcm with
  | none => exact routes.done _
  | some pcm => exact routes.closes pcm

/-- A step of routing writes to a control, or holds or lets go of a link. -/
theorem takeStep (step : RouteStep) : holds (takeStep step) := by
  cases step with
  | write control value => exact routes.writeControl control value
  | hold direction =>
      refine routes.next routes.hardware fun hardware => ?_
      dsimp only
      cases Word.next? (hardware.links.get direction).holds with
      | none => exact routes.done _
      | some holds =>
          refine routes.next (routes.links _ _) fun _ => ?_
          split
          · exact routes.next (routes.openLink direction) fun _ => routes.links _ _
          · exact routes.done _
  | letGo direction =>
      refine routes.next routes.hardware fun hardware => ?_
      dsimp only
      split
      · refine routes.next (routes.links _ _) fun _ => ?_
        split
        · exact routes.closeLink direction
        · exact routes.done _
      · exact routes.done _

/-- Steps are taken one after the other. -/
theorem takeSteps (steps : List RouteStep) : holds (takeSteps steps) := by
  induction steps with
  | nil => exact routes.done _
  | cons step rest ih => exact routes.next (routes.takeStep step) fun _ => ih

section Router

variable (routed : ∀ router, holds (changeHardware fun hardware =>
  { hardware with router := router }))
include routed

/-- Routing, for a property that changes of the router have. -/
theorem reroute (f : Router → Router × List RouteStep) : holds (reroute f) := by
  refine routes.next routes.hardware fun hardware => ?_
  cases hardware.router with
  | none => exact routes.done _
  | some router => exact routes.next (routed _) fun _ => routes.takeSteps _

theorem closeRouter : holds closeRouter :=
  routes.next (routed _) fun _ => routes.next (routes.closeLink .capture) fun _ =>
    routes.closeLink .playback

end Router

end Routes

namespace Composes

variable {holds : ∀ {α : Type}, Act α → Prop} (composes : Composes holds)
  (reroutes : ∀ f, holds (reroute f))
include composes reroutes

theorem followDevices (devices : Devices) : holds (followDevices devices) := by
  refine composes.next composes.hardware fun hardware => ?_
  split
  · exact composes.next (reroutes _) fun _ => reroutes _
  · exact composes.done _

theorem enterCall : holds enterCall :=
  composes.next (reroutes _) fun _ => composes.next (reroutes _) fun _ =>
    composes.next composes.hardware fun _ => composes.next (reroutes _) fun _ =>
      composes.next (reroutes _) fun _ => reroutes _

theorem leaveCall : holds leaveCall :=
  composes.next (reroutes _) fun _ => composes.next (reroutes _) fun _ =>
    composes.next (reroutes _) fun _ => composes.next (reroutes _) fun _ => reroutes _

end Composes

namespace Composes

variable {holds : ∀ {α : Type}, Act α → Prop} (composes : Composes holds)
  (noted : ∀ what : Happening, what.isLocking = true → holds (note what))
  (sets : ∀ locked target, holds (setLocked locked target))
include composes noted sets

theorem lock (target : Lock) : holds (lock target) :=
  composes.next (noted _ rfl) fun _ => sets true target

theorem unlock (target : Lock) : holds (unlock target) :=
  composes.next (noted _ rfl) fun _ => sets false target

theorem tryLock (target : Lock) : holds (tryLock target) := by
  refine composes.next composes.machine fun machine => composes.next (noted _ rfl) fun _ => ?_
  split
  · exact composes.next (sets _ _) fun _ => composes.done _
  · exact composes.done _

theorem dumpStream (id : StreamId) : holds (dumpStream id) := by
  refine composes.next (composes.tryLock noted sets _) fun taken => ?_
  refine composes.next (composes.stream id) fun stream => ?_
  dsimp only
  split
  · exact composes.next (composes.unlock noted sets _) fun _ => composes.done _
  · exact composes.done _

/-- The streams of a dump are visited one after the other. -/
theorem dumpInputs (index : Nat) (ids : List StreamId) : holds (dumpInputs index ids) := by
  induction ids generalizing index with
  | nil => exact composes.done _
  | cons id rest ih =>
      exact composes.next (composes.dumpStream noted sets id) fun _ =>
        composes.next (ih _) fun _ => composes.done _

theorem dumpLocked : holds dumpLocked := by
  have output : ∀ output, holds (dumpOutput output) := fun output => by
    cases output with
    | none => exact composes.done _
    | some id => exact composes.dumpStream noted sets id
  refine composes.next composes.hardware fun hardware => composes.next (output _) fun _ => ?_
  exact composes.next (composes.dumpInputs noted sets _ _) fun _ => composes.done _

/-- The lock of the audio hardware is tried for so many times. -/
theorem tryHardware (attempts : Nat) : holds (tryHardware attempts) := by
  induction attempts with
  | zero => exact composes.done _
  | succ attempts ih =>
      refine composes.next (composes.tryLock noted sets _) fun taken => ?_
      split
      · exact composes.done _
      · exact ih

theorem dump : holds dump := by
  refine composes.next composes.machine fun machine => ?_
  refine composes.next (composes.tryHardware noted sets _) fun taken => ?_
  refine composes.next composes.hardware fun hardware => ?_
  dsimp only
  split
  · exact composes.next (composes.dumpLocked noted sets) fun _ =>
      composes.next (composes.unlock noted sets _) fun _ => composes.done _
  · exact composes.done _

/-- Finding something out, for a property that taking locks and giving them back have. -/
theorem find (query : Query) : holds (find query) := by
  have reads : ∀ {α : Type} (read : Machine → α), holds (readLocked read) := by
    intro α read
    refine composes.next (composes.lock noted sets _) fun _ => ?_
    refine composes.next (composes.next composes.machine fun machine => ?_) fun _ => ?_
    · exact composes.done (read machine)
    · exact composes.next (composes.unlock noted sets _) fun _ => composes.done _
  cases query with
  | mode | inCall | muted | route lane | isOff lane =>
      exact composes.next (reads _) fun _ => composes.done _
  | devices id =>
      exact composes.next (composes.lock noted sets _) fun _ =>
        composes.next (composes.stream id) fun _ =>
          composes.next (composes.unlock noted sets _) fun _ => composes.done _
  | dump => exact composes.next (composes.dump noted sets) fun _ => composes.done _
  | dumpStream id =>
      exact composes.next (composes.dumpStream noted sets id) fun _ => composes.done _

end Composes

end Act

end PhoneAudio
