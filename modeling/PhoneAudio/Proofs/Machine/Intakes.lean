import PhoneAudio.Proofs.Capture.Decimation
import PhoneAudio.Proofs.Machine.Locks

/-!
# What streams take in

How often a stream's PCM was opened, and what it has delivered since, read off what happened
(`PhoneAudio.Run.openings`, `PhoneAudio.Run.heard`). Only opening the stream and reading from it
matter: routing notes nothing that does (`PhoneAudio.Act.keeps_inlets_reroute`), and actions on
streams are described by the stream that they change and the moments that they note
(`PhoneAudio.Run.Turns`).
-/

namespace PhoneAudio

/-- Whether a PCM that is ready opens with a setup. -/
def Bench.Pcm.grants (driver : Pcm) (setup : PcmSetup) : Bool :=
  match (driver.openPcm setup).1 with
  | .ok pcm => pcm.ready
  | .error _ => false

namespace Moment

/-- Whether a stream's PCM is opened. -/
def opens (id : StreamId) (moment : Moment) : Bool :=
  match moment.what with
  | .openPcm (.stream owner) setup => owner = id && moment.before.drivers.pcm.grants setup
  | _ => false

/-- The stereo frames that a stream's PCM delivers. -/
def delivers (id : StreamId) (moment : Moment) : List Frame :=
  match moment.what with
  | .readPcm owner bytes =>
    if owner = id then
      match (moment.before.stream id).pcm with
      | none => []
      | some pcm =>
        match (moment.before.drivers.pcm.read pcm bytes).1 with
        | .ok samples => Frame.ofSamples 2 samples
        | .error _ => []
    else []
  | _ => []

/-- Moments that are no intake neither open nor deliver. -/
theorem idle_of_quiet {moment : Moment} (quiet : moment.what.isIntake = false) (id : StreamId) :
    moment.opens id = false ∧ moment.delivers id = [] := by
  obtain ⟨what, before⟩ := moment
  unfold opens delivers
  match what, quiet with
  | .openPcm .router _, _ => exact ⟨rfl, rfl⟩
  | .lock _, _ | .tryLock .., _ | .unlock _, _ | .standby _, _ | .openMixer, _ | .findControl _, _
  | .setControl .., _ | .closePcm .., _ | .startPcm .., _ | .writePcm .., _ | .acquireWake .., _
  | .releaseWake .., _ | .event .., _ => exact ⟨rfl, rfl⟩

end Moment

namespace Run

/-- How often a stream's PCM was opened. -/
def openings (run : Run) (id : StreamId) : Nat :=
  run.history.countP (Moment.opens id)

/-- What a stream heard once something more happens. -/
def hearing (id : StreamId) (frames : List Frame) (moment : Moment) : List Frame :=
  if moment.opens id then [] else frames ++ moment.delivers id

/-- The frames that a stream's PCM has delivered since it was opened. -/
def heard (run : Run) (id : StreamId) : List Frame :=
  run.history.foldl (hearing id) []

/-- Openings are counted over what was taken in. -/
theorem openings_eq (run : Run) (id : StreamId) :
    run.openings id = run.intakes.countP (Moment.opens id) := by
  unfold intakes
  rw [List.countP_filter]
  refine List.countP_congr fun moment _ => ?_
  cases quiet : moment.what.isIntake with
  | false => simp [(Moment.idle_of_quiet quiet id).1]
  | true => simp

/-- What was heard is folded over what was taken in. -/
theorem heard_eq (run : Run) (id : StreamId) :
    run.heard id = run.intakes.foldl (hearing id) [] := by
  unfold intakes heard
  rw [List.foldl_filter]
  congr 1
  funext frames moment
  cases quiet : moment.what.isIntake with
  | false =>
      obtain ⟨shut, silent⟩ := Moment.idle_of_quiet quiet id
      simp [hearing, shut, silent]
  | true => rfl

/-- The streams, and what happened to the PCMs that are read. -/
def inlets (run : Run) : List Stream × List Moment :=
  (run.machine.streams, run.intakes)

end Run

namespace Act

variable {α : Type}

/-- A note is taken in if it is a call that opens or reads a PCM. -/
theorem intakes_note (what : Happening) (run : Run) :
    (note what run).2.intakes =
      run.intakes ++ [Moment.mk what run.machine].filter fun moment => moment.what.isIntake :=
  List.filter_append ..

theorem keeps_inlets_note {what : Happening} (quiet : what.isIntake = false) :
    Keeps Run.inlets (note what) := by
  intro run
  refine Prod.ext rfl ?_
  change (note what run).2.intakes = run.intakes
  rw [intakes_note, List.filter_cons_of_neg (by simp [quiet]), List.filter_nil, List.append_nil]

theorem keeps_inlets_bareCall {what : Happening} (quiet : what.isIntake = false)
    (effect : Drivers → α × Drivers) : Keeps Run.inlets (bareCall what effect) :=
  (keeps_inlets_note quiet).bind fun _ _ => rfl

theorem keeps_inlets_routerCall {what : Happening} (quiet : what.isIntake = false)
    (activity : Activity) (effect : Drivers → α × Drivers) :
    Keeps Run.inlets (call .router activity what effect) := by
  refine Keeps.bind (fun _ => rfl) fun _ => ?_
  exact (keeps_inlets_bareCall quiet effect).bind fun _ => Keeps.bind (fun _ => rfl) fun _ =>
    keeps_pure _

theorem keeps_inlets_hardware : Keeps Run.inlets hardware :=
  fun _ => rfl

theorem routes_inlets : Routes fun action => Keeps Run.inlets action where
  toComposes := composes_keeps
  finds _ := keeps_inlets_routerCall rfl _ _
  writes _ _ _ := keeps_inlets_routerCall rfl _ _
  opens _ := keeps_inlets_bareCall rfl _
  starts _ _ := keeps_inlets_bareCall rfl _
  closes _ := keeps_inlets_bareCall rfl _
  links _ _ _ := rfl

/-- Routing changes no stream and takes nothing in. -/
theorem keeps_inlets_reroute (f : Router → Router × List RouteStep) :
    Keeps Run.inlets (reroute f) :=
  routes_inlets.reroute (fun _ _ => rfl) f

end Act

namespace Run

/-- A stream is changed and intakes are noted. -/
structure Turns (before : Run) (id : StreamId) (f : Stream → Stream) (taken : List Moment)
    (after : Run) : Prop where
  streams : after.machine.streams = (before.machine.adjust id f).streams
  intakes : after.intakes = before.intakes ++ taken

variable {before middle after : Run} {id : StreamId} {f g : Stream → Stream}
  {taken more : List Moment}

/-- What two actions take in one after the other is appended, and their changes are composed. -/
theorem Turns.trans (first : before.Turns id f taken middle)
    (second : middle.Turns id g more after) : before.Turns id (g ∘ f) (taken ++ more) after := by
  refine ⟨?_, ?_⟩
  · have same := congrArg (fun streams => streams.modify id g) first.streams
    rw [second.streams, ← Machine.adjust_adjust]
    exact same
  · rw [second.intakes, first.intakes, List.append_assoc]

/-- What is done besides to the rest of the state does not matter. -/
theorem Turns.beside (turns : before.Turns id f taken middle)
    (same : after.inlets = middle.inlets) : before.Turns id f taken after := by
  obtain ⟨streams, intakes⟩ := Prod.ext_iff.mp same
  exact ⟨streams.trans turns.streams, intakes.trans turns.intakes⟩

theorem turns_changeStream (run : Run) (id : StreamId) (f : Stream → Stream) :
    run.Turns id f [] (Act.changeStream id f run).2 :=
  ⟨rfl, (List.append_nil _).symm⟩

/-- A driver call on behalf of a stream is noted if it is an intake. -/
theorem turns_call {α : Type} (run : Run) (id : StreamId) (activity : Activity) (what : Happening)
    (effect : Drivers → α × Drivers) :
    run.Turns id (fun stream => { stream with activity := .idle })
      ([Moment.mk what (Act.setActivity activity (.stream id) run).2.machine].filter fun moment =>
        moment.what.isIntake)
      (Act.call (.stream id) activity what effect run).2 := by
  refine ⟨?_, ?_⟩
  · have twice := congrArg Machine.streams (Machine.adjust_adjust run.machine id
      (fun stream => { stream with activity := activity })
      fun stream => { stream with activity := .idle })
    exact twice
  · exact Act.intakes_note what (Act.setActivity activity (.stream id) run).2

end Run

end PhoneAudio
