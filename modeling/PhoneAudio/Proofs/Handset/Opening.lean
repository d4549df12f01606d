import PhoneAudio.Proofs.Capture.Streaming
import PhoneAudio.Proofs.Handset.Sound
import PhoneAudio.Proofs.Machine.Intakes

/-!
# Opening capture streams

Opening a capture stream empties its filters (`PhoneAudio.Act.passes_openLocked`). Everything else
that operations do but for reading leaves the filters, and what the stream heard, as they were
(`PhoneAudio.Run.upheld_passes`).
-/

namespace PhoneAudio

namespace Run

/-- A capture stream of a format with filters that fit it. -/
structure Records (run : Run) (id : StreamId) (format : StreamFormat) : Prop where
  inside : id < run.machine.streams.length
  direction : (run.machine.stream id).direction = .capture
  format_eq : (run.machine.stream id).format = format
  encoding : format.encoding = .pcm16
  fits : (run.machine.stream id).pipeline.Fits format

/-- What operations do to a capture stream, but for reading from it: its filters are as they were,
and it heard nothing, or its PCM was opened, its filters were emptied, and it heard nothing
since. -/
inductive Passes (id : StreamId) (format : StreamFormat) (before after : Run) : Prop
  | kept (records : after.Records id format) (openings : after.openings id = before.openings id)
    (heard : after.heard id = before.heard id)
    (pipeline : (after.machine.stream id).pipeline = (before.machine.stream id).pipeline)
  | renewed (records : after.Records id format) (openings : before.openings id < after.openings id)
    (heard : after.heard id = [])
    (serves : (after.machine.stream id).pipeline.Serves format [] [])

variable {before middle after : Run} {id other : StreamId} {format : StreamFormat}
  {f : Stream → Stream} {taken : List Moment}

theorem Records.passes (records : before.Records id format) : Passes id format before before :=
  .kept records rfl rfl rfl

/-- What passes keeps recording. -/
theorem Passes.records (passes : Passes id format before after) : after.Records id format := by
  cases passes with
  | kept records => exact records
  | renewed records => exact records

/-- Passing is transitive. -/
theorem Passes.trans (first : Passes id format before middle)
    (second : Passes id format middle after) : Passes id format before after := by
  cases second with
  | kept records openings heard pipeline =>
      cases first with
      | kept _ before_openings before_heard before_pipeline =>
          exact .kept records (openings.trans before_openings) (heard.trans before_heard)
            (pipeline.trans before_pipeline)
      | renewed _ more silent serves =>
          exact .renewed records (openings ▸ more) (heard.trans silent) (pipeline ▸ serves)
  | renewed records more heard serves =>
      refine .renewed records ?_ heard serves
      cases first with
      | kept _ openings => exact openings ▸ more
      | renewed _ earlier => exact Nat.lt_trans earlier more

/-- What is opened and heard does not change by moments that neither open nor deliver. -/
theorem Turns.idle (turns : before.Turns other f taken after)
    (quiet : ∀ moment ∈ taken, moment.opens id = false ∧ moment.delivers id = []) :
    after.openings id = before.openings id ∧ after.heard id = before.heard id := by
  rw [openings_eq, openings_eq, heard_eq, heard_eq, turns.intakes, List.countP_append,
    List.foldl_append]
  have shut : taken.countP (Moment.opens id) = 0 :=
    List.countP_eq_zero.mpr fun moment member => by simp [(quiet moment member).1]
  refine ⟨by rw [shut, Nat.add_zero], ?_⟩
  generalize before.intakes.foldl (hearing id) [] = frames
  clear turns shut
  induction taken with
  | nil => rfl
  | cons moment rest ih =>
      obtain ⟨shut, silent⟩ := quiet moment (List.mem_cons_self ..)
      have same : hearing id frames moment = frames := by simp [hearing, shut, silent]
      rw [List.foldl_cons, same]
      exact ih fun moment member => quiet moment (List.mem_cons_of_mem _ member)

/-- Turns of one stream leave the others. -/
theorem Turns.stream_of_ne (turns : before.Turns other f taken after) (different : id ≠ other) :
    after.machine.stream id = before.machine.stream id := by
  rw [Machine.stream_congr turns.streams, Machine.stream_adjust_of_ne _ _ different]

/-- Turns of a stream change it as they say. -/
theorem Turns.stream (turns : before.Turns id f taken after)
    (inside : id < before.machine.streams.length) :
    after.machine.stream id = f (before.machine.stream id) := by
  rw [Machine.stream_congr turns.streams, Machine.stream_adjust _ _ inside]

theorem Turns.length (turns : before.Turns other f taken after) :
    after.machine.streams.length = before.machine.streams.length := by
  rw [turns.streams, Machine.length_adjust]

/-- A stream keeps recording as long as its direction and format do not change and its filters
fit. -/
theorem Turns.records (turns : before.Turns id f taken after) (records : before.Records id format)
    (direction : ∀ stream, (f stream).direction = stream.direction)
    (format_eq : ∀ stream, (f stream).format = stream.format)
    (fits : (f (before.machine.stream id)).pipeline.Fits format) : after.Records id format := by
  have stream := turns.stream records.inside
  refine ⟨?_, ?_, ?_, records.encoding, ?_⟩
  · rw [turns.length]
    exact records.inside
  · rw [stream, direction, records.direction]
  · rw [stream, format_eq, records.format_eq]
  · rw [stream]
    exact fits

/-- A change to any stream that touches no filters of the one that records. -/
theorem Turns.passes (turns : before.Turns other f taken after)
    (records : before.Records id format)
    (quiet : ∀ moment ∈ taken, moment.opens id = false ∧ moment.delivers id = [])
    (untouched : other = id → ∀ stream, (f stream).direction = stream.direction ∧
      (f stream).format = stream.format ∧ (f stream).pipeline = stream.pipeline) :
    Passes id format before after := by
  obtain ⟨openings, heard⟩ := turns.idle quiet
  by_cases same : other = id
  · subst same
    have kept := untouched rfl
    have filters := (kept (before.machine.stream other)).2.2
    have fits := records.fits
    rw [← filters] at fits
    have recording := turns.records records (fun stream => (kept stream).1)
      (fun stream => (kept stream).2.1) fits
    exact .kept recording openings heard (by rw [turns.stream records.inside, filters])
  · have stream := turns.stream_of_ne fun equal => same equal.symm
    refine .kept ⟨?_, ?_, ?_, records.encoding, ?_⟩ openings heard (by rw [stream])
    · rw [turns.length]
      exact records.inside
    · rw [stream]
      exact records.direction
    · rw [stream]
      exact records.format_eq
    · rw [stream]
      exact records.fits

/-- A stream whose PCM is opened and whose filters are emptied. -/
theorem Turns.renews {moment : Moment} (turns : before.Turns id f [moment] after)
    (records : before.Records id format) (opens : moment.opens id = true)
    (direction : ∀ stream, (f stream).direction = stream.direction)
    (format_eq : ∀ stream, (f stream).format = stream.format)
    (reset : (f (before.machine.stream id)).pipeline = (before.machine.stream id).pipeline.reset) :
    Passes id format before after := by
  have serves := records.fits.serves_reset
  rw [← reset] at serves
  refine .renewed (turns.records records direction format_eq serves.toFits) ?_ ?_ ?_
  · rw [openings_eq, openings_eq, turns.intakes, List.countP_append,
      List.countP_cons_of_pos opens]
    exact Nat.lt_succ_self _
  · rw [heard_eq, turns.intakes, List.foldl_append, List.foldl_cons, List.foldl_nil]
    exact if_pos opens
  · rw [turns.stream records.inside]
    exact serves

end Run

namespace Act

/-- Installing a PCM changes the stream alone. -/
theorem turns_installPcm (run : Run) (id : StreamId) (pcm : OpenPcm) :
    run.Turns id (fun stream => { stream with pcm := some pcm }) [] (installPcm id pcm run).2 := by
  have fitted := run.turns_changeStream id fun stream => { stream with pcm := some pcm }
  unfold installPcm
  rw [bind_apply, stream_apply]
  dsimp only
  cases (run.machine.stream id).pcm with
  | none => exact fitted
  | some previous =>
      have quiet : (Happening.closePcm (.stream id) previous.setup).isIntake = false := rfl
      exact fitted.beside (keeps_inlets_bareCall quiet (closing previous) _)

/-- Capture streams start with empty filters. -/
theorem turns_routeOpened (run : Run) (id : StreamId) :
    run.Turns id (fun stream => if (run.machine.stream id).direction = .capture then
        { stream with pipeline := stream.pipeline.reset } else stream) []
      (routeOpened id run).2 := by
  unfold routeOpened
  rw [bind_apply, stream_apply]
  dsimp only
  cases (run.machine.stream id).direction with
  | playback =>
      have same : Keeps Run.inlets (do
          if (← hardware).mode ≠ .inCall then
            setRoute .playback (run.machine.stream id).devices.playbackRoute) := by
        refine keeps_inlets_hardware.bind fun _ => ?_
        split
        · exact keeps_inlets_reroute _
        · exact keeps_pure _
      have unchanged : run.Turns id (fun stream => stream) [] run :=
        ⟨(List.modify_id ..).symm, (List.append_nil _).symm⟩
      exact unchanged.beside (same run)
  | capture =>
      have emptied := run.turns_changeStream id fun stream =>
        { stream with pipeline := stream.pipeline.reset }
      exact emptied.beside (keeps_inlets_reroute _ _)

/-- Opening a stream notes one intake, which delivers nothing. If a PCM that is ready opens, the
filters of a capture stream are emptied; else they are left alone. -/
theorem turns_openLocked (run : Run) (id : StreamId) : ∃ f moment,
    run.Turns id f [moment] (openLocked id run).2 ∧ (∀ other, moment.delivers other = []) ∧
      (∀ stream, (f stream).direction = stream.direction ∧ (f stream).format = stream.format) ∧
      ((∀ other, moment.opens other = decide (id = other)) ∧
          ((run.machine.stream id).direction = .capture →
            (f (run.machine.stream id)).pipeline = (run.machine.stream id).pipeline.reset) ∨
        (∀ other, moment.opens other = false) ∧
          ∀ stream, (f stream).pipeline = stream.pipeline) := by
  unfold openLocked
  simp only [bind_apply, machine_apply, stream_apply]
  generalize PcmSetup.codec run.machine.settings (run.machine.stream id).direction = setup
  have called := run.turns_call id .openingPcm (.openPcm (.stream id) setup)
    (onPcm (·.openPcm setup))
  have answered : (call (.stream id) .openingPcm (.openPcm (.stream id) setup)
    (onPcm (·.openPcm setup)) run).1 = (run.machine.drivers.pcm.openPcm setup).1 := rfl
  generalize call (.stream id) .openingPcm (.openPcm (.stream id) setup)
    (onPcm (·.openPcm setup)) run = result at called answered ⊢
  obtain ⟨opened, after⟩ := result
  let moment : Moment :=
    ⟨.openPcm (.stream id) setup, (setActivity .openingPcm (.stream id) run).2.machine⟩
  have called : run.Turns id (fun stream => { stream with activity := .idle }) [moment] after :=
    called
  have silent : ∀ other, moment.delivers other = [] := fun _ => rfl
  have opens : ∀ other, moment.opens other =
      (decide (id = other) && run.machine.drivers.pcm.grants setup) := fun _ => rfl
  unfold Bench.Pcm.grants at opens
  rw [← answered] at opens
  cases opened with
  | error error =>
      refine ⟨_, moment, called, silent, fun _ => ⟨rfl, rfl⟩, .inr ⟨fun other => ?_, fun _ => rfl⟩⟩
      rw [opens, Bool.and_false]
  | ok pcm =>
      dsimp only at opens ⊢
      split
      · rename_i ready
        have installed := called.trans (turns_installPcm after id pcm)
        have routed := installed.trans (turns_routeOpened (installPcm id pcm after).2 id)
        have direction : ((installPcm id pcm after).2.machine.stream id).direction =
            (run.machine.stream id).direction := by
          rw [Machine.stream_congr installed.streams]
          exact Machine.view_adjust (fun stream => stream.direction) run.machine id id fun _ => rfl
        refine ⟨_, moment, routed, silent, fun stream => ?_,
          .inl ⟨fun other => ?_, fun capture => ?_⟩⟩
        · simp only [Function.comp_apply]
          split <;> exact ⟨rfl, rfl⟩
        · rw [opens, ready, Bool.and_true]
        · simp only [Function.comp_apply, direction, capture, if_true]
      · rename_i unready
        have closed := called.trans (after.turns_call id .closingPcm
          (.closePcm (.stream id) setup) (closing pcm))
        refine ⟨_, moment, closed, silent, fun _ => ⟨rfl, rfl⟩,
          .inr ⟨fun other => ?_, fun _ => rfl⟩⟩
        rw [opens, Bool.eq_false_of_not_eq_true unready, Bool.and_false]

/-- **Opening** a stream empties its filters, and touches no other stream's. -/
theorem passes_openLocked {run : Run} {id : StreamId} {format : StreamFormat}
    (records : run.Records id format) (other : StreamId) :
    Run.Passes id format run (openLocked other run).2 := by
  obtain ⟨f, moment, turns, silent, kept, ⟨opens, emptied⟩ | ⟨shut, untouched⟩⟩ :=
    turns_openLocked run other
  · by_cases own : other = id
    · subst own
      exact turns.renews records (by rw [opens, decide_eq_true rfl]) (fun stream => (kept stream).1)
        (fun stream => (kept stream).2) (emptied records.direction)
    · refine turns.passes records (fun noted member => ?_) fun equal => absurd equal own
      rw [List.mem_singleton.mp member, opens, decide_eq_false own]
      exact ⟨rfl, silent id⟩
  · refine turns.passes records (fun noted member => ?_) fun _ stream =>
      ⟨(kept stream).1, (kept stream).2, untouched stream⟩
    rw [List.mem_singleton.mp member]
    exact ⟨shut id, silent id⟩

end Act

namespace Run

variable {before after : Run} {id : StreamId} {format : StreamFormat}

/-- Nothing but the streams and the intakes matters to what a capture stream passes through. -/
theorem Records.passes_of_inlets (records : before.Records id format)
    (same : after.inlets = before.inlets) : Passes id format before after := by
  have unchanged : before.Turns id (fun stream => stream) [] before :=
    ⟨(List.modify_id ..).symm, (List.append_nil _).symm⟩
  exact (unchanged.beside same).passes records (List.forall_mem_nil _) fun _ _ => ⟨rfl, rfl, rfl⟩

/-- Everything but reading is an opening, or leaves what was heard and the filters. -/
theorem upheld_passes (id : StreamId) (format : StreamFormat) (origin : Run) :
    Upheld (Passes id format origin) where
  of_eq {run after} streams intakes holds := by
    have same : after.inlets = run.inlets := Prod.ext streams intakes
    exact holds.trans (holds.records.passes_of_inlets same)
  changed {f} other same run holds := by
    have untouched : other = id → ∀ stream, (f stream).direction = stream.direction ∧
        (f stream).format = stream.format ∧ (f stream).pipeline = stream.pipeline :=
      fun _ stream => ⟨(same stream).1, (same stream).2.1, (same stream).2.2.1⟩
    have turned := run.turns_changeStream other f
    exact holds.trans (turned.passes holds.records (List.forall_mem_nil _) untouched)
  opened other _ holds := holds.trans (Act.passes_openLocked holds.records other)
  joined {stream} _ run holds := by
    have records := holds.records
    have same : (Act.addStream stream run).2.machine.stream id = run.machine.stream id :=
      List.getD_append _ _ _ _ records.inside
    have longer : (Act.addStream stream run).2.machine.streams.length =
        run.machine.streams.length + 1 := List.length_append
    refine holds.trans (.kept ⟨?_, ?_, ?_, records.encoding, ?_⟩ rfl rfl ?_)
    · rw [longer]
      exact Nat.lt_succ_of_lt records.inside
    · rw [same, records.direction]
    · rw [same, records.format_eq]
    · rw [same]
      exact records.fits
    · rw [same]

end Run

end PhoneAudio
