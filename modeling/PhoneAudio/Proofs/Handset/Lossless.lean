import PhoneAudio.Proofs.Handset.Reopening
import PhoneAudio.Proofs.Handset.Supplies

/-!
# Lossless capture

Capture in the codec's own format passes through no filter. Whatever else goes on, and whatever the
drivers do, the samples that reads of the stream returned and those that wait to be captured are
together the samples that the driver accepted, in order (`PhoneAudio.Recorded.lossless`). Silence
only stands in for samples where a read asks for more than wait, and reads that fail take none.
-/

namespace PhoneAudio

namespace Bench.Pcm

/-- Reading takes the samples that wait first, followed by silence, or fails and takes none. -/
theorem read_cases (driver : Pcm) (pcm : OpenPcm) (bytes : Nat) :
    (∃ error, (driver.read pcm bytes).1 = .error error ∧
        (driver.read pcm bytes).2.queue = driver.queue) ∨
      (driver.read pcm bytes).1 = .ok (padded (bytes / 2) driver.queue) ∧
        (driver.read pcm bytes).2.queue = driver.queue.drop (bytes / 2) := by
  have begun := driver.queue_beginTransfer pcm (.read bytes)
  unfold read
  generalize driver.beginTransfer pcm (.read bytes) = answered at begun
  obtain ⟨error | done, after⟩ := answered
  · exact .inl ⟨error, rfl, begun⟩
  · dsimp only at begun ⊢
    rw [begun, List.length_take]
    have silence : bytes / 2 - min (bytes / 2) driver.queue.length =
        bytes / 2 - driver.queue.length := by omega
    rw [silence]
    exact .inr ⟨rfl, rfl⟩

end Bench.Pcm

/-- The codec's own format needs no filter. -/
theorem Pipeline.Fits.transparent {pipeline : Pipeline} (fits : pipeline.Fits .hardware) :
    pipeline = {} := by
  obtain ⟨downmix, decimator⟩ := pipeline
  cases downmix with
  | some downmix => exact absurd (fits.mixes.mp rfl) (by decide)
  | none =>
      cases decimator with
      | some decimator => exact absurd (fits.decimates decimator rfl).1 (by decide)
      | none => rfl

namespace Act

variable {id : StreamId} {pcm : OpenPcm} {run : Run}

/-- The samples that wait to be captured. -/
abbrev queue (run : Run) : List Int16 :=
  run.machine.drivers.pcm.queue

/-- Capturing frames takes the samples that wait first, or fails and takes none. -/
theorem captured_cases (id : StreamId) (pcm : OpenPcm) (wanted : Nat) (run : Run) :
    (∃ error, (captured id pcm wanted run).1 = .failed error ∧
        queue (captured id pcm wanted run).2 = queue run) ∨
      (captured id pcm wanted run).1 = .ofSamples 2 (padded wanted (queue run)) ∧
        queue (captured id pcm wanted run).2 = (queue run).drop wanted := by
  obtain ⟨answered, -⟩ := captured_eq id pcm wanted run
  have taken : queue (captured id pcm wanted run).2 =
      (run.machine.drivers.pcm.read pcm (wanted * 2)).2.queue :=
    captured_ends (queue · = (run.machine.drivers.pcm.read pcm (wanted * 2)).2.queue) rfl
      fun _ _ same => same
  have cases := run.machine.drivers.pcm.read_cases pcm (wanted * 2)
  rw [Nat.mul_div_cancel _ Nat.two_pos] at cases
  rw [answered, taken]
  obtain ⟨error, failed, same⟩ | ⟨read, rest⟩ := cases
  · rw [failed]
    exact .inl ⟨error, rfl, same⟩
  · rw [read]
    exact .inr ⟨rfl, rest⟩

/-- Nothing more is collected when no frames are left to collect. -/
theorem collect_zero {σ : Type} (source : Source σ) (channels pulls : Nat) (buffer : List Int16)
    (state : σ) : collect source channels pulls 0 buffer state = ((.ok (), buffer), state) := by
  cases pulls <;> rfl

/-- Without filters, all frames are collected at once. -/
theorem collect_transparent {frames : Nat} (some : 0 < frames) (id : StreamId) (pcm : OpenPcm)
    {buffer : List Int16} (room : buffer.length = frames * 2) (run : Run) : ∃ filled after,
    (∃ error, collect (Pipeline.through (captured id pcm)) 2 frames frames buffer ({}, run) =
        ((.error (.pcm error), filled), {}, after) ∧ queue after = queue run) ∨
      collect (Pipeline.through (captured id pcm)) 2 frames frames buffer ({}, run) =
          ((.ok (), padded (frames * 2) (queue run)), {}, after) ∧
        queue after = (queue run).drop (frames * 2) := by
  have through : Pipeline.through (captured id pcm) (frames * 2) ({}, run) =
      ((captured id pcm (frames * 2) run).1, {}, (captured id pcm (frames * 2) run).2) := rfl
  have cases := captured_cases id pcm (frames * 2) run
  obtain ⟨rest, rfl⟩ := Nat.exists_eq_add_of_lt some
  rw [Nat.zero_add] at through cases room ⊢
  rw [collect, if_neg (Nat.succ_ne_zero rest), through]
  generalize captured id pcm ((rest + 1) * 2) run = delivered at cases ⊢
  obtain ⟨⟨samples, outcome⟩, after⟩ := delivered
  obtain ⟨error, failed, same⟩ | ⟨made, taken⟩ := cases
  · cases failed
    exact ⟨_, after, .inl ⟨error, rfl, same⟩⟩
  · have size : (padded ((rest + 1) * 2) (queue run)).length = (rest + 1) * 2 := length_padded ..
    have counted : (padded ((rest + 1) * 2) (queue run)).length / 2 = rest + 1 := by
      rw [size, Nat.mul_div_cancel _ Nat.two_pos]
    rw [Delivery.ofSamples, counted] at made
    cases made
    refine ⟨buffer, after, .inr ⟨?_, taken⟩⟩
    simp only [Nat.sub_self, collect_zero]
    rw [Delivery.fillWithin_of_length (size.trans room.symm)]
    dsimp only
    rw [List.take_of_length_le (Nat.le_of_eq size), List.drop_of_length_le (Nat.le_of_eq size),
      List.append_nil]

/-- Reading from a PCM in the codec's own format takes the samples that wait first, or fails and
takes none. -/
theorem readOpen_hardware (records : run.Records id .hardware) {frames : Nat}
    (some : 0 < frames) :
    (∃ error, (readOpen id frames run).1 = .error error ∧
        queue (readOpen id frames run).2 = queue run) ∨
      (readOpen id frames run).1 = .ok (padded (frames * 2) (queue run)) ∧
        queue (readOpen id frames run).2 = (queue run).drop (frames * 2) := by
  cases there : (run.machine.stream id).pcm with
  | none =>
      rw [readOpen_of_none there]
      exact .inl ⟨_, rfl, rfl⟩
  | some pcm =>
      have width : (run.machine.stream id).format.channels.toNat = 2 := by
        rw [records.format_eq]
        rfl
      obtain ⟨filled, after, ⟨error, ended, same⟩ | ⟨ended, taken⟩⟩ :=
        collect_transparent some id pcm (length_padded (frames * 2) (run.machine.stream id).samples)
          run
      · have stopped :
            collected id pcm frames run = ((.error (.pcm error), filled), {}, after) := by
          rw [collected, width, records.fits.transparent]
          exact ended
        rw [readOpen_of_some there frames stopped]
        exact .inl ⟨_, rfl, same⟩
      · have taken' : collected id pcm frames run =
            ((.ok (), padded (frames * 2) (queue run)), {}, after) := by
          rw [collected, width, records.fits.transparent]
          exact ended
        rw [readOpen_of_some there frames taken']
        exact .inr ⟨rfl, taken⟩

/-- What a read begins with leaves the samples that wait. -/
theorem queue_beginTransfer (tied : run.machine.Tied) (inside : id < run.machine.streams.length) :
    queue (beginTransfer [] id run).2 = queue run := by
  -- as far as this goes, a read is like a write
  have tasks := (tasks_beginTransfer (.write id 0) tied inside rfl).1
  exact congrArg Prod.snd (Run.Tasks.supplies tasks fun _ _ => nofun)

/-- What a read ends with leaves the samples that wait. -/
theorem queue_finishTransfer {α : Type} (id : StreamId) (tied : run.machine.Tied)
    (outcome : Except AudioError α) : queue (finishTransfer id outcome run).2 = queue run := by
  have orderly : Orderly (.write id 0) (finishTransfer id outcome) :=
    orderly_finishTransfer (not_displaces rfl) outcome
  exact congrArg Prod.snd (Run.Tasks.supplies (orderly run tied).1 fun _ _ => nofun)

/-- What a read does that was begun. -/
theorem completeRead_hardware (tied : run.machine.Tied) (records : run.Records id .hardware)
    {buffer : List UInt8} (some : 0 < buffer.length / 4) (begun : Except AudioError Unit) :
    (∃ error, (completeRead id buffer begun run).1 = (.error error, buffer) ∧
        queue (completeRead id buffer begun run).2 = queue run) ∨
      (completeRead id buffer begun run).1 = (.ok (buffer.length / 4 * 4),
          (Sample.encodeInto (padded (buffer.length / 4 * 2) (queue run)) buffer).2) ∧
        queue (completeRead id buffer begun run).2 =
          (queue run).drop (buffer.length / 4 * 2) := by
  have refused : ∀ (error : AudioError) (run : Run),
      (finishTransfer id (.error error : Except AudioError (List Int16)) run).1 = .error error :=
    fun _ _ => rfl
  have frame : (run.machine.stream id).format.frameBytes = 4 := by
    rw [records.format_eq]
    rfl
  unfold completeRead
  rw [bind_apply, stream_apply]
  dsimp only
  rw [frame]
  cases begun with
  | error error =>
      have same : queue (finishTransfer id (.error error : Except AudioError (List Int16)) run).2 =
          queue run := queue_finishTransfer id tied _
      simp only [bind_apply, pure_apply, refused]
      exact .inl ⟨error, rfl, same⟩
  | ok done =>
      have settled : (readOpen id (buffer.length / 4) run).2.machine.Tied :=
        tied.of_ties (keeps_ties_readOpen id _ run)
      have cases := readOpen_hardware records some
      simp only [bind_apply]
      generalize readOpen id (buffer.length / 4) run = collected at settled cases ⊢
      obtain ⟨answer, after⟩ := collected
      have same := queue_finishTransfer id settled answer
      obtain ⟨error, rfl, waits⟩ | ⟨rfl, waits⟩ := cases
      · simp only [refused, pure_apply]
        exact .inl ⟨error, rfl, same.trans waits⟩
      · exact .inr ⟨rfl, same.trans waits⟩

/-- **Reading** in the codec's own format takes the samples that wait first, followed by silence, or
fails and takes none. -/
theorem read_hardware (tied : run.machine.Tied) (staffed : run.machine.Staffed)
    (records : run.Records id .hardware) (buffer : List UInt8) :
    (∃ error, (read id buffer run).1 = (.error error, buffer) ∧
        queue (read id buffer run).2 = queue run) ∨
      (read id buffer run).1 = (.ok (buffer.length / 4 * 4),
          (Sample.encodeInto (padded (buffer.length / 4 * 2) (queue run)) buffer).2) ∧
        queue (read id buffer run).2 = (queue run).drop (buffer.length / 4 * 2) := by
  have frame : (run.machine.stream id).format.frameBytes = 4 := by
    rw [records.format_eq]
    rfl
  unfold read readAmid
  rw [bind_apply, stream_apply]
  dsimp only
  rw [frame]
  split
  · exact .inl ⟨_, rfl, rfl⟩
  · rename_i room
    have passes := Operation.passes_beginTransfer staffed records
    have waits := queue_beginTransfer tied records.inside
    have settled := (tasks_beginTransfer (.write id 0) tied records.inside rfl).2
    rw [bind_apply, ← waits]
    exact completeRead_hardware settled passes.records (Nat.pos_of_ne_zero room) _

end Act

/-- A read from a capture stream: the samples that waited, the buffer and the answer. -/
structure Reading where
  pending : List Int16
  buffer : List UInt8
  answer : Answer

namespace Reading

/-- The samples that a read of whole stereo frames asks for. -/
def wanted (reading : Reading) : Nat :=
  reading.buffer.length / 4 * 2

/-- Whether a read takes these samples: those that wait first, as far as they go, if it succeeds,
and none if it fails. The front of the buffer is filled with them and silence where there are fewer
than it asks for, and the rest of the buffer is left. -/
def Takes (reading : Reading) (portion : List Int16) : Prop :=
  match reading.answer with
  | .filled count filled =>
    portion = reading.pending.take reading.wanted ∧ count = reading.buffer.length / 4 * 4 ∧
      filled = Sample.bytes (portion ++ List.replicate (reading.wanted - portion.length) 0) ++
        reading.buffer.drop count
  | .failed _ => portion = []
  | _ => False

end Reading

/-- The reads of a capture stream in an operation with so many samples waiting. -/
def Operation.readings (id : StreamId) (pending : List Int16) (operation : Operation)
    (answer : Answer) : List Reading :=
  match operation with
  | read owner buffer => if owner = id then [⟨pending, buffer, answer⟩] else []
  | _ => []

/-- What follows on a session, in which the driver accepts samples for capture and operations are
performed under any conditions, but nothing is read except from one capture stream in the codec's
own format: all samples that waited or were accepted, those that wait now, and the reads. -/
inductive Recorded (first : Run) (id : StreamId) :
    List Int16 → List Int16 → List Reading → List Operation → Run → Prop
  | start {operations : List Operation} {run : Run} (session : Session first operations run) :
      Recorded first id run.machine.drivers.pcm.queue run.machine.drivers.pcm.queue [] operations
        run
  | queued {accepted pending : List Int16} {readings : List Reading} {operations : List Operation}
      {run : Run} (earlier : Recorded first id accepted pending readings operations run)
      (samples : List Int16) {count : Nat} {driver : Bench.Pcm}
      (enqueued : Bench.Pcm.enqueue { run.machine.drivers.pcm with queue := pending } samples =
        (count, driver)) :
      Recorded first id (accepted ++ samples.take count) driver.queue readings operations run
  | performed {accepted pending : List Int16} {readings : List Reading}
      {operations : List Operation} {run after : Run}
      (earlier : Recorded first id accepted pending readings operations run)
      (conditions : Conditions) {operation : Operation} {answer : Answer}
      (possible : operation.Possible run.machine)
      (alone : ∀ owner buffer, operation = .read owner buffer →
        owner = id ∧ (run.machine.stream id).format = .hardware)
      (done : operation.perform (run.under { conditions with queue := pending }) =
        (answer, after)) :
      Recorded first id accepted after.machine.drivers.pcm.queue
        (readings ++ operation.readings id pending answer) (operations ++ [operation]) after

/-- What a read that succeeds returns is what it takes. -/
theorem Reading.takes_filled (pending : List Int16) (buffer : List UInt8) :
    Reading.Takes ⟨pending, buffer, .filled (buffer.length / 4 * 4)
      (Sample.encodeInto (padded (buffer.length / 4 * 2) pending) buffer).2⟩
      (pending.take (buffer.length / 4 * 2)) := by
  have whole := Nat.div_mul_le_self buffer.length 4
  have size : (padded (buffer.length / 4 * 2) pending).length * 2 = buffer.length / 4 * 4 := by
    rw [length_padded]
    omega
  have silence : buffer.length / 4 * 2 - (pending.take (buffer.length / 4 * 2)).length =
      buffer.length / 4 * 2 - pending.length := by
    rw [List.length_take]
    omega
  refine ⟨rfl, rfl, ?_⟩
  rw [Sample.encodeInto_eq (size ▸ whole), size, Reading.wanted, silence]
  rfl

namespace Recorded

variable {first run : Run} {id : StreamId} {accepted pending : List Int16}
  {readings : List Reading} {operations : List Operation}

/-- What was recorded is a session. -/
theorem session (recorded : Recorded first id accepted pending readings operations run) :
    Session first operations run := by
  induction recorded with
  | start session => exact session
  | queued earlier samples enqueued ih => exact ih
  | performed earlier conditions possible alone done ih =>
      rename_i pending _ _ _ _ _ _
      have next := ih.step { conditions with queue := pending } possible
      rwa [done] at next

/-- A read under conditions with so many samples waiting. -/
theorem takes_read (built : first.Built) (session : Session first operations run)
    (conditions : Conditions) {buffer : List UInt8}
    (possible : (Operation.read id buffer).Possible run.machine)
    (hardware : (run.machine.stream id).format = .hardware) {answer : Answer} {after : Run}
    (done : (Operation.read id buffer).perform (run.under conditions) = (answer, after)) :
    ∃ portion, Reading.Takes ⟨conditions.queue, buffer, answer⟩ portion ∧
      portion ++ after.machine.drivers.pcm.queue = conditions.queue := by
  obtain ⟨staffed, filtered⟩ := session.filtered built
  obtain ⟨format, records⟩ := filtered id (possible.2 ▸ Machine.ways_of_inside possible.1)
  cases records.format_eq.symm.trans hardware
  have same : (run.under conditions).inlets = run.inlets := rfl
  have settled : run.machine.Tied := session.tied built
  have under : (run.under conditions).machine.Tied := settled
  have staffed : (run.under conditions).machine.Staffed :=
    staffed.extended rfl rfl (List.prefix_refl _)
  have waits : Act.queue (run.under conditions) = conditions.queue := rfl
  have cases := Act.read_hardware under staffed (records.passes_of_inlets same).records buffer
  rw [waits] at cases
  rcases transferred : Act.read id buffer (run.under conditions) with ⟨outcome, last⟩
  rw [transferred] at cases
  simp only [Operation.perform, Act.bind_apply, transferred] at done
  obtain ⟨error, ⟨⟩, left⟩ | ⟨⟨⟩, left⟩ := cases
  · cases done
    exact ⟨[], rfl, left⟩
  · cases done
    refine ⟨_, Reading.takes_filled _ _, ?_⟩
    have rest : after.machine.drivers.pcm.queue =
        conditions.queue.drop (buffer.length / 4 * 2) := left
    rw [rest, List.take_append_drop]

/-- **Lossless capture.** Whatever else is done, and whatever the drivers do, the samples that reads
took and those that wait are those that the driver accepted, in order. -/
theorem lossless (built : first.Built)
    (recorded : Recorded first id accepted pending readings operations run) :
    ∃ portions, List.Forall₂ Reading.Takes readings portions ∧
      portions.flatten ++ pending = accepted := by
  induction recorded with
  | start session => exact ⟨[], .nil, rfl⟩
  | queued earlier samples enqueued ih =>
      obtain ⟨portions, taken, whole⟩ := ih
      refine ⟨portions, taken, ?_⟩
      unfold Bench.Pcm.enqueue at enqueued
      cases enqueued
      rw [← whole, List.append_assoc, List.length_take, ← List.take_take, List.take_length]
  | performed earlier conditions possible alone done ih =>
      rename_i pending readings operations run after operation answer
      obtain ⟨portions, taken, whole⟩ := ih
      by_cases reads : ∃ owner buffer, operation = .read owner buffer
      · obtain ⟨owner, buffer, rfl⟩ := reads
        obtain ⟨rfl, hardware⟩ := alone owner buffer rfl
        obtain ⟨portion, takes, left⟩ := takes_read built earlier.session
          { conditions with queue := pending } possible hardware done
        refine ⟨portions ++ [portion], ?_, ?_⟩
        · have one : (Operation.read owner buffer).readings owner pending answer =
              [⟨pending, buffer, answer⟩] := if_pos rfl
          rw [one]
          exact List.rel_append taken (.cons takes .nil)
        · rw [← whole, List.flatten_append, List.flatten_singleton, List.append_assoc, left]
      · have unread : ∀ owner buffer, operation ≠ .read owner buffer :=
          fun owner buffer same => reads ⟨owner, buffer, same⟩
        have none : operation.readings id pending answer = [] := by
          cases operation with
          | read owner buffer => exact absurd rfl (unread owner buffer)
          | _ => rfl
        have tasks := earlier.session.tasks built { conditions with queue := pending } possible
        have left : after.machine.drivers.pcm.queue = pending := by
          have kept := congrArg Prod.snd (Run.Tasks.supplies tasks unread)
          rwa [done] at kept
        rw [none, List.append_nil, left]
        exact ⟨portions, taken, whole⟩

end Recorded

/-- A capture stream in the codec's own format that was not read from yet. -/
def Run.recording : Run :=
  Run.stock.next (.openStream .capture ⟨0x40000⟩ {})

/-- A capture stream has been opened. -/
theorem Session.recording :
    Session Run.stock [.openStream .capture ⟨0x40000⟩ {}] Run.recording :=
  Session.start.next (.openStream .capture ⟨0x40000⟩ {}) (by decide +kernel)

/-- The driver accepts samples that there is room for. -/
theorem Recorded.accepts {first run : Run} {id : StreamId} {accepted pending : List Int16}
    {readings : List Reading} {operations : List Operation}
    (earlier : Recorded first id accepted pending readings operations run) {samples : List Int16}
    (room : pending.length + samples.length ≤ Bench.Pcm.capacity) :
    Recorded first id (accepted ++ samples) (pending ++ samples) readings operations run := by
  have all : samples.take (Bench.Pcm.capacity - pending.length) = samples :=
    List.take_of_length_le (Nat.le_sub_of_add_le' room)
  have queued := earlier.queued samples rfl
  dsimp only [Bench.Pcm.enqueue] at queued
  rwa [all, List.take_length] at queued

/-- A read of the first stream with so many samples waiting, into a buffer of nines. -/
def Run.takeIn (run : Run) (failing : Bool) (pending : List Int16) (bytes : Nat) : Answer × Run :=
  (Operation.read 0 (List.replicate bytes 9)).perform
    (run.under { failsTransfers := failing, queue := pending })

theorem Recorded.takeIn {first run : Run} {accepted pending : List Int16} {readings : List Reading}
    {operations : List Operation}
    (earlier : Recorded first 0 accepted pending readings operations run) (failing : Bool)
    (bytes : Nat) (possible : (Operation.read 0 (List.replicate bytes 9)).Possible run.machine)
    (hardware : (run.machine.stream 0).format = .hardware) :
    Recorded first 0 accepted (run.takeIn failing pending bytes).2.machine.drivers.pcm.queue
      (readings ++ [⟨pending, List.replicate bytes 9, (run.takeIn failing pending bytes).1⟩])
      (operations ++ [.read 0 (List.replicate bytes 9)]) (run.takeIn failing pending bytes).2 := by
  refine earlier.performed { failsTransfers := failing } possible (fun owner taken same => ?_)
    Prod.mk.eta.symm
  cases same
  exact ⟨rfl, hardware⟩

/-- A read with an odd byte, one that fails, and one that asks for more than waits. -/
theorem Recorded.lossless_recording : ∃ accepted pending readings operations run,
    Recorded Run.stock 0 accepted pending readings operations run ∧
      accepted = [1, 2, 3, 4, 5, 6] ∧
      readings.map Reading.answer =
        [.filled 8 [1, 0, 2, 0, 3, 0, 4, 0, 9], .failed (.pcm (.transfer "injected failure")),
          .filled 8 [5, 0, 6, 0, 0, 0, 0, 0]] ∧
      ∃ portions, List.Forall₂ Reading.Takes readings portions ∧
        portions.flatten ++ pending = accepted := by
  have none : Run.recording.machine.drivers.pcm.queue = [] := by decide +kernel
  have started : Recorded Run.stock 0 _ _ [] _ Run.recording := .start Session.recording
  rw [none] at started
  have queued : Recorded Run.stock 0 [1, 2, 3, 4, 5, 6] [1, 2, 3, 4, 5, 6] [] _ Run.recording :=
    started.accepts (by decide)
  have odd := queued.takeIn false 9 (by decide +kernel) (by decide +kernel)
  have two : (Run.recording.takeIn false [1, 2, 3, 4, 5, 6] 9).2.machine.drivers.pcm.queue =
    [5, 6] := by decide +kernel
  rw [two] at odd
  have failed := odd.takeIn true 4 (by decide +kernel) (by decide +kernel)
  have kept : ((Run.recording.takeIn false [1, 2, 3, 4, 5, 6] 9).2.takeIn true
    [5, 6] 4).2.machine.drivers.pcm.queue = [5, 6] := by decide +kernel
  rw [kept] at failed
  have silent := failed.takeIn false 8 (by decide +kernel) (by decide +kernel)
  exact ⟨_, _, _, _, _, silent, rfl, by decide +kernel, Recorded.lossless Run.built_stock silent⟩

end PhoneAudio
