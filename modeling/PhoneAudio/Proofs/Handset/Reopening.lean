import PhoneAudio.Proofs.Capture.Collecting
import PhoneAudio.Proofs.Handset.LockDiscipline
import PhoneAudio.Proofs.Handset.Opening

/-!
# Reopened capture streams

However a capture stream's PCM comes to be opened, the stream's filters are empty then, and all that
is read while the PCM stays open is made of what the PCM delivers from then on. So nothing that was
captured before is ever read after (`PhoneAudio.Listening.carriesNothingOver`).
-/

namespace PhoneAudio

/-- A capture stream that has a PCM. -/
structure Run.RecordsFrom (run : Run) (id : StreamId) (format : StreamFormat) (pcm : OpenPcm) :
    Prop extends run.Records id format where
  pcm_eq : (run.machine.stream id).pcm = some pcm

/-- A read that succeeds brings as many samples as there is room for. -/
theorem Bench.Pcm.length_read {driver : Pcm} {pcm : OpenPcm} {bytes : Nat} {samples : List Int16}
    (read : (driver.read pcm bytes).1 = .ok samples) : samples.length = bytes / 2 := by
  unfold Bench.Pcm.read at read
  generalize driver.beginTransfer pcm (.read bytes) = begun at read
  obtain ⟨error | done, after⟩ := begun
  · cases read
  · cases read
    rw [List.length_append, List.length_replicate, List.length_take]
    omega

namespace Act

open Run

variable {id : StreamId} {pcm : OpenPcm} {format : StreamFormat}

/-- What the driver put into a buffer of the size of the request is decoded as it was. -/
theorem decodeInto_padded {samples : List Int16} {wanted : Nat} (size : samples.length = wanted)
    (raw : List UInt8) : Sample.decodeInto (Sample.encodeInto samples (padded (wanted * 2) raw)).2
      (List.replicate wanted 0) = (wanted, samples) := by
  have room : (padded (wanted * 2) raw).length = wanted * 2 := length_padded ..
  have filled : (Sample.encodeInto samples (padded (wanted * 2) raw)).2 = Sample.bytes samples := by
    rw [Sample.encodeInto_eq (by omega), List.drop_of_length_le (by omega), List.append_nil]
  have fits : Sample.fitting wanted (wanted * 2) = wanted := by
    unfold Sample.fitting
    omega
  obtain ⟨-, -, counted⟩ := Sample.bytes_read (Sample.bytes samples) (List.replicate wanted 0)
  rw [List.length_replicate, Sample.length_bytes, size, fits] at counted
  have read := Sample.decodeInto_bytes samples (List.replicate wanted 0)
  rw [List.length_replicate, List.take_of_length_le (Nat.le_of_eq size),
    List.drop_of_length_le (by simp [size]), List.append_nil] at read
  rw [filled]
  refine Prod.ext ?_ read
  rw [counted]

/-- What a PCM delivers to a read. -/
theorem captured_eq (id : StreamId) (pcm : OpenPcm) (wanted : Nat) (run : Run) :
    (captured id pcm wanted run).1 =
        (match (run.machine.drivers.pcm.read pcm (wanted * 2)).1 with
        | .ok samples => .ofSamples 2 samples
        | .error error => .failed error) ∧
      ∃ raw, run.Turns id (fun stream => { stream with activity := .idle, raw := raw })
        [⟨.readPcm id (wanted * 2),
          (setActivity .readingPcm (.stream id) (asking id wanted run)).2.machine⟩]
        (captured id pcm wanted run).2 := by
  let raw := padded (wanted * 2) (run.machine.stream id).raw
  have called := (run.turns_changeStream id fun stream => { stream with raw := raw }).trans
    ((asking id wanted run).turns_call id .readingPcm (.readPcm id (wanted * 2))
      (onPcm (·.read pcm (wanted * 2))))
  have answered : (call (.stream id) .readingPcm (.readPcm id (wanted * 2))
    (onPcm (·.read pcm (wanted * 2))) (asking id wanted run)).1 =
      (run.machine.drivers.pcm.read pcm (wanted * 2)).1 := rfl
  have size : ∀ samples, (run.machine.drivers.pcm.read pcm (wanted * 2)).1 = .ok samples →
      samples.length = wanted := by
    intro samples read
    rw [Bench.Pcm.length_read read]
    omega
  unfold captured
  unfold asking at called answered ⊢
  dsimp only
  rw [← answered] at size ⊢
  generalize call (.stream id) .readingPcm (.readPcm id (wanted * 2))
    (onPcm (·.read pcm (wanted * 2))) _ = ended at called size ⊢
  obtain ⟨error | samples, after⟩ := ended
  · exact ⟨rfl, _, called⟩
  · have count := size samples rfl
    have put := after.turns_changeStream id fun stream =>
      { stream with raw := (Sample.encodeInto samples raw).2 }
    refine ⟨?_, _, called.trans put⟩
    dsimp only
    rw [decodeInto_padded count, List.take_of_length_le (Nat.le_of_eq count), Delivery.ofSamples,
      count]
    rfl

/-- What the PCM of a stream delivers is truthful. -/
theorem truthful_captured (id : StreamId) (pcm : OpenPcm) : (captured id pcm).Truthful 2 := by
  have counted : ∀ wanted run got, (captured id pcm wanted run).1.frames = .ok got →
      got * 2 ≤ wanted ∧ got * 2 ≤ (captured id pcm wanted run).1.samples.length := by
    intro wanted run got
    rw [(captured_eq id pcm wanted run).1]
    cases read : (run.machine.drivers.pcm.read pcm (wanted * 2)).1 with
    | error error => nofun
    | ok samples =>
        rintro ⟨⟩
        have length := Bench.Pcm.length_read read
        have whole := Nat.div_mul_le_self samples.length 2
        exact ⟨by omega, whole⟩
  exact ⟨fun wanted run got frames => (counted wanted run got frames).1,
    fun wanted run got frames => (counted wanted run got frames).2⟩

/-- What a PCM delivers is heard. -/
theorem appends_captured (id : StreamId) (format : StreamFormat) (pcm : OpenPcm) :
    (captured id pcm).Appends 2 (fun run => run.RecordsFrom id format pcm)
      (fun run => run.heard id) where
  stays wanted run records := by
    obtain ⟨-, _, turns⟩ := captured_eq id pcm wanted run
    refine ⟨turns.records records.toRecords (fun _ => rfl) (fun _ => rfl) records.fits, ?_⟩
    rw [turns.stream records.inside]
    exact records.pcm_eq
  within wanted run got _ counted := (truthful_captured id pcm).within wanted run got counted
  written wanted run got _ counted := (truthful_captured id pcm).written wanted run got counted
  log_eq wanted run records := by
    obtain ⟨answer, _, turns⟩ := captured_eq id pcm wanted run
    let reading := (setActivity .readingPcm (.stream id) (asking id wanted run)).2.machine
    have opened : (reading.stream id).pcm = some pcm := by
      have asked := (run.turns_changeStream id _).trans
        ((asking id wanted run).turns_changeStream id fun stream =>
          { stream with activity := .readingPcm })
      exact (congrArg Stream.pcm (asked.stream records.inside)).trans records.pcm_eq
    have delivered : Moment.delivers id ⟨.readPcm id (wanted * 2), reading⟩ =
        (captured id pcm wanted run).1.frameList 2 := by
      have drivers : reading.drivers = run.machine.drivers := rfl
      unfold Moment.delivers
      dsimp only
      rw [if_pos rfl, opened, answer, drivers]
      dsimp only
      cases (run.machine.drivers.pcm.read pcm (wanted * 2)).1 with
      | error error => rfl
      | ok samples => exact (Delivery.frameList_ofSamples 2 samples).symm
    rw [Run.heard_eq, turns.intakes, List.foldl_append, ← Run.heard_eq, ← delivered]
    rfl

/-- The buffer of samples has the size of the request while frames are collected. -/
theorem length_collected (id : StreamId) (pcm : OpenPcm) (frames : Nat) (run : Run) :
    (collected id pcm frames run).1.2.length =
      frames * (run.machine.stream id).format.channels.toNat :=
  (length_collect ..).trans (length_padded ..)

/-- Reading from another stream does nothing to a capture stream. -/
theorem passes_readOpen_other {run : Run} (records : run.Records id format) {other : StreamId}
    (different : other ≠ id) (frames : Nat) :
    Passes id format run (readOpen other frames run).2 := by
  refine readOpen_keeps (Passes id format run) records.passes frames
    (fun pcm _ wanted between passes => ?_)
    fun pipeline samples between passes => ?_
  · obtain ⟨-, _, turns⟩ := captured_eq other pcm wanted between
    refine passes.trans (turns.passes passes.records (fun moment member => ?_)
      fun equal => absurd equal different)
    rw [List.mem_singleton.mp member]
    exact ⟨rfl, if_neg different⟩
  · have back := between.turns_changeStream other fun stream =>
      { stream with pipeline := pipeline, samples := samples }
    exact passes.trans (back.passes passes.records (List.forall_mem_nil _) fun equal =>
      absurd equal different)

/-- Reading leaves filters that fit, and opens no PCM. -/
theorem records_readOpen {run : Run} (records : run.Records id format) (frames : Nat) :
    (readOpen id frames run).2.Records id format ∧
      (readOpen id frames run).2.openings id = run.openings id := by
  cases there : (run.machine.stream id).pcm with
  | none =>
      rw [readOpen_of_none there]
      exact ⟨records, rfl⟩
  | some pcm =>
      let keeps (between : Run) : Prop :=
        between.Records id format ∧ between.openings id = run.openings id
      have pulled : ∀ wanted between, keeps between →
          keeps (captured id pcm wanted between).2 := by
        rintro wanted between ⟨records, openings⟩
        obtain ⟨-, _, turns⟩ := captured_eq id pcm wanted between
        refine ⟨turns.records records (fun _ => rfl) (fun _ => rfl) records.fits, ?_⟩
        rw [Run.openings_eq, turns.intakes, List.countP_append, ← Run.openings_eq, openings]
        rfl
      have stays : ∀ wanted (paired : Pipeline × Run), paired.1.Fits format ∧ keeps paired.2 →
          (Pipeline.through (captured id pcm) wanted paired).2.1.Fits format ∧
            keeps (Pipeline.through (captured id pcm) wanted paired).2.2 :=
        fun wanted paired both => ⟨both.1.through _ wanted paired.2,
          Pipeline.through_keeps pulled wanted paired.1 both.2⟩
      have last : (collected id pcm frames run).2.1.Fits format ∧
          keeps (collected id pcm frames run).2.2 :=
        collect_keeps stays _ _ _ _ _ ⟨records.fits, records, rfl⟩
      rcases ended : collected id pcm frames run with ⟨⟨outcome, samples⟩, pipeline, after⟩
      rw [ended] at last
      obtain ⟨fits, recording, openings⟩ := last
      rw [readOpen_of_some there frames ended]
      have back := after.turns_changeStream id fun stream =>
        { stream with pipeline := pipeline, samples := samples }
      exact ⟨back.records recording (fun _ => rfl) (fun _ => rfl) fits,
        (back.idle (List.forall_mem_nil _)).1.trans openings⟩

/-- **Reading** hands out frames of what was heard since the PCM was opened. -/
theorem serves_readOpen {run : Run} (records : run.Records id format) {returned : List Frame}
    (serves : (run.machine.stream id).pipeline.Serves format (run.heard id) returned)
    {frames : Nat} {samples : List Int16} {after : Run}
    (read : readOpen id frames run = (.ok samples, after)) : ∃ handed : List Frame,
      samples = Frame.toSamples handed ∧ samples.length = frames * format.channels.toNat ∧
      (after.machine.stream id).pipeline.Serves format (after.heard id) (returned ++ handed) := by
  cases there : (run.machine.stream id).pcm with
  | none =>
      rw [readOpen_of_none there] at read
      cases read
  | some pcm =>
      have appends := appends_captured id format pcm
      have started : run.RecordsFrom id format pcm := ⟨records, there⟩
      have stays : ∀ wanted (paired : Pipeline × Run), paired.2.RecordsFrom id format pcm →
          (Pipeline.through (captured id pcm) wanted paired).2.2.RecordsFrom id format pcm :=
        fun wanted paired => Pipeline.through_keeps appends.stays wanted paired.1
      have stayed : (collected id pcm frames run).2.2.RecordsFrom id format pcm :=
        collect_keeps stays _ _ _ _ _ started
      have length := length_collected id pcm frames run
      rcases ended : collected id pcm frames run with ⟨⟨error | done, filled⟩, pipeline, last⟩
      · rw [readOpen_of_some there frames ended] at read
        cases read
      rw [ended] at stayed length
      rw [readOpen_of_some there frames ended] at read
      cases read
      unfold collected at ended
      dsimp only at ended
      rw [records.format_eq] at ended length
      obtain ⟨handed, same, further⟩ := serves.collect (truthful_captured id pcm) appends
        (Nat.le_refl frames) started (length_padded ..) ended
      have back := last.turns_changeStream id fun stream =>
        { stream with pipeline := pipeline, samples := filled }
      refine ⟨handed, same, length, ?_⟩
      rw [(back.idle (List.forall_mem_nil _)).2, back.stream stayed.inside]
      exact further

variable {state : Machine}

/-- A transfer that fails leaves its stream without a PCM. -/
theorem leads_finishTransfer_error {α : Type} (inside : id < state.streams.length)
    (sound : state.Sound []) (error : AudioError) :
    Leads Run.Shows (finishTransfer id (.error error : Except AudioError α)) state
      fun _ after => (after.stream id).pcm = none := by
  refine (leads_unlock _).then fun _ => ?_
  refine (leads_stream id).read fun _ _ => (leads_tell _ _).then fun _ => ?_
  refine (leads_standby id (sound.calm id inside)).then fun _ => leads_pure _ ?_
  split
  · rw [Machine.stream_congr (state.streams_slept id), Machine.stream_adjust _ _ inside]
    rfl
  · rename_i absent
    have closed := sound.isOpen_of_absent (Bool.eq_false_of_not_eq_true absent) id
    have detached : (state.stream id).status.detached = true := by
      rw [sound.attached id inside, closed]
      rfl
    have quiet := sound.quiet id inside List.not_mem_nil
    rw [sound.closed id inside detached] at quiet
    exact Option.isNone_iff_eq_none.mp quiet.symm

/-- A read that fails on whole frames leaves its stream without a PCM. -/
theorem leads_read_failed (inside : id < state.streams.length) (sound : state.Sound [])
    (buffer : List UInt8) :
    Leads Run.Shows (read id buffer) state fun answer after =>
      (∃ count, answer.1 = .ok count) ∨
        buffer.length / (state.stream id).format.frameBytes = 0 ∨
        (after.stream id).pcm = none := by
  refine (leads_stream id).read fun stream same => ?_
  have format : stream.format = (state.stream id).format :=
    congrArg (fun stream => stream.format) same
  dsimp only
  rw [format]
  split
  · rename_i short
    exact leads_pure _ (.inr (.inl short))
  refine (leads_beginTransfer inside sound).bind fun begun after roused => ?_
  have within : id < after.streams.length := by
    rw [roused.length]
    exact inside
  have finish : ∀ outcome : Except AudioError (List Int16),
      Leads Run.Shows (finishTransfer id outcome) after fun ended last =>
        (∃ samples, ended = .ok samples) ∨ (last.stream id).pcm = none := by
    intro outcome
    cases outcome with
    | error error =>
        exact (leads_finishTransfer_error within roused.sound error).mono fun _ _ => .inr
    | ok samples => exact (leads_unlock _).then fun _ => leads_pure _ (.inl ⟨_, rfl⟩)
  refine (leads_stream id).read fun _ _ => ?_
  cases begun with
  | error error =>
      refine Leads.after_pure ((finish _).bind fun ended last described => ?_)
      obtain ⟨samples, rfl⟩ | closed := described
      · exact leads_pure _ (.inl ⟨_, rfl⟩)
      · cases ended <;> exact leads_pure _ (.inr (.inr closed))
  | ok done =>
      refine (leads_readOpen id _).then fun _ => (finish _).bind fun ended last described => ?_
      obtain ⟨samples, rfl⟩ | closed := described
      · exact leads_pure _ (.inl ⟨_, rfl⟩)
      · cases ended <;> exact leads_pure _ (.inr (.inr closed))

/-- A read of less than a frame does nothing. -/
theorem read_of_short {run : Run} {buffer : List UInt8}
    (short : buffer.length / (run.machine.stream id).format.frameBytes = 0) :
    (read id buffer run).2 = run := by
  unfold read readAmid
  rw [bind_apply, stream_apply]
  dsimp only
  rw [if_pos short]
  rfl

/-- How a read of whole frames succeeds: the stream is waked, frames are collected, and the lock is
given back. -/
theorem read_succeeds {run after : Run} {buffer filled : List UInt8} {count : Nat}
    (success : read id buffer run = ((.ok count, filled), after)) :
    ∃ between collected samples, beginTransfer [] id run = (.ok (), between) ∧
      readOpen id (buffer.length / (between.machine.stream id).format.frameBytes) between =
        (.ok samples, collected) ∧
      count = buffer.length / (between.machine.stream id).format.frameBytes *
        (between.machine.stream id).format.frameBytes ∧
      filled = (Sample.encodeInto samples buffer).2 ∧
        after = (unlock (.stream id) collected).2 := by
  unfold read readAmid at success
  rw [bind_apply, stream_apply] at success
  dsimp only at success
  split at success
  · cases success
  rw [bind_apply] at success
  have refused : ∀ (error : AudioError) (run : Run),
      (finishTransfer id (.error error : Except AudioError (List Int16)) run).1 = .error error :=
    fun _ _ => rfl
  generalize beginTransfer [] id run = begun at success ⊢
  obtain ⟨error | done, between⟩ := begun
  · unfold completeRead at success
    simp only [bind_apply, stream_apply, pure_apply, refused] at success
    cases success
  · unfold completeRead at success
    simp only [bind_apply, stream_apply] at success
    rcases collected : readOpen id (buffer.length / (between.machine.stream id).format.frameBytes)
      between with ⟨error | samples, middle⟩
    · simp only [collected, refused] at success
      cases success
    · have finished : finishTransfer id (.ok samples : Except AudioError (List Int16)) middle =
        (.ok samples, (unlock (.stream id) middle).2) := rfl
      simp only [collected, finished] at success
      cases success
      exact ⟨between, middle, samples, rfl, collected, rfl, rfl, rfl⟩

end Act

theorem Run.turns_unlock (run : Run) (id : StreamId) :
    run.Turns id (fun stream => { stream with locked := false }) []
      (Act.unlock (.stream id) run).2 := by
  have quiet : (Happening.unlock (.stream id)).isIntake = false := rfl
  have noted := (Prod.ext_iff.mp (Act.keeps_inlets_note quiet run)).2
  exact ⟨rfl, noted.trans (List.append_nil _).symm⟩

/-! ## Operations -/

/-- What reading from a capture stream that has a PCM does: no PCM is opened, and what is read
continues what was read since the PCM was opened. -/
structure Run.Continues (id : StreamId) (format : StreamFormat) (readings : List (Nat × List UInt8))
    (before after : Run) : Prop where
  records : after.Records id format
  openings : after.openings id = before.openings id
  serves : ∀ returned,
    (before.machine.stream id).pipeline.Serves format (before.heard id) returned →
    ∃ handed, (after.machine.stream id).pipeline.Serves format (after.heard id)
        (returned ++ handed) ∧ Tells format readings handed

/-- Nothing is read. -/
theorem Run.Records.continues {run : Run} {id : StreamId} {format : StreamFormat}
    (records : run.Records id format) : run.Continues id format [] run := by
  refine ⟨records, rfl, fun returned serves => ⟨[], ?_, .nil format⟩⟩
  rwa [List.append_nil]

/-- The bytes that an answer returns. -/
def Answer.bytes : Answer → List UInt8
  | filled size buffer => buffer.take size
  | _ => []

/-- The bytes of samples that a read of whole frames puts into a buffer. -/
theorem tells_encodeInto {format : StreamFormat} (encoding : format.encoding = .pcm16)
    {handed : List Frame} {buffer : List UInt8}
    (length : (Frame.toSamples handed).length =
      buffer.length / format.frameBytes * format.channels.toNat) :
    Tells format [(buffer.length, (Sample.encodeInto (Frame.toSamples handed) buffer).2.take
      (buffer.length / format.frameBytes * format.frameBytes))] handed := by
  have width : format.frameBytes = format.channels.toNat * 2 := by
    unfold StreamFormat.frameBytes
    rw [encoding]
    rfl
  have size : buffer.length / format.frameBytes * format.frameBytes =
      (Frame.toSamples handed).length * 2 := by
    rw [length, Nat.mul_assoc, ← width]
  have room : (Frame.toSamples handed).length * 2 ≤ buffer.length := by
    rw [← size]
    exact Nat.div_mul_le_self ..
  rw [size, Sample.take_encodeInto room]
  refine ⟨fun reading member => ?_, List.flatten_singleton⟩
  rw [List.mem_singleton.mp member, size]
  exact Sample.length_bytes _

namespace Operation

/-- What an operation reads from a stream: the size of the buffer and the bytes that are
returned. -/
def reading (id : StreamId) (operation : Operation) (answer : Answer) : List (Nat × List UInt8) :=
  match operation with
  | read owner buffer => if owner = id then [(buffer.length, answer.bytes)] else []
  | _ => []

open Run

variable {id : StreamId} {format : StreamFormat} {operation : Operation}

/-- A capture stream passes through what a read of it begins with. -/
theorem passes_beginTransfer {run : Run} (staffed : run.machine.Staffed)
    (records : run.Records id format) :
    Passes id format run (Act.beginTransfer [] id run).2 := by
  have started : Run.Abides (Passes id format run) run run ([], [(id, .capture)]) := by
    refine ⟨⟨[], (List.append_nil _).symm, .none []⟩, staffed, ?_, records.passes⟩
    rintro entry (_ | ⟨_, ⟨⟩⟩)
    exact records.direction ▸ Machine.ways_of_inside records.inside
  obtain ⟨_, abides, -⟩ := Act.abides_beginTransfer (upheld_passes id format run)
    (List.forall_mem_nil _) (List.mem_singleton_self _) run started
  exact abides.holds

/-- A read that succeeds. -/
theorem continues_of_success {run after : Run} {buffer filled : List UInt8} {count : Nat}
    (success : Act.read id buffer run = ((.ok count, filled), after))
    (staffed : run.machine.Staffed) (records : run.Records id format) :
    ∃ between, Passes id format run between ∧
      between.Continues id format [(buffer.length, filled.take count)] after := by
  obtain ⟨between, collected, samples, begun, read, rfl, rfl, rfl⟩ := Act.read_succeeds success
  have passes := passes_beginTransfer staffed records
  rw [begun] at passes
  have same : (between.machine.stream id).format = format := passes.records.format_eq
  rw [same] at read ⊢
  obtain ⟨recording, unopened⟩ :=
    Act.records_readOpen passes.records (buffer.length / format.frameBytes)
  rw [read] at recording unopened
  have freed := collected.turns_unlock id
  obtain ⟨openings, heard⟩ := freed.idle (List.forall_mem_nil _)
  refine ⟨between, passes, ?_, openings.trans unopened, fun returned serves => ?_⟩
  · exact freed.records recording (fun _ => rfl) (fun _ => rfl) recording.fits
  · obtain ⟨handed, rfl, length, further⟩ := Act.serves_readOpen passes.records serves read
    refine ⟨handed, ?_, tells_encodeInto records.encoding length⟩
    rw [heard, freed.stream recording.inside]
    exact further

/-- A read that fails and leaves the stream a PCM had a buffer without room for a frame. -/
theorem unread_of_failure {run after : Run} {buffer filled : List UInt8} {error : AudioError}
    {state : Machine} (failed : Act.read id buffer run = ((.error error, filled), after))
    (shown : run.Shows state) (sound : state.Sound []) (records : run.Records id format)
    (isOpen : (after.machine.stream id).pcm.isSome = true) :
    after = run ∧ buffer.length / format.frameBytes = 0 := by
  have inside : id < state.streams.length := shown.length ▸ records.inside
  have format_eq : (state.stream id).format = format := by
    rw [← records.format_eq, ← shown.stream id]
    rfl
  obtain ⟨reached, shows, described⟩ := Act.leads_read_failed inside sound buffer run shown
  rw [failed, format_eq] at described
  rw [failed] at shows
  obtain ⟨_, ⟨⟩⟩ | short | closed := described
  · have still := Act.read_of_short (records.format_eq ▸ short)
    rw [failed] at still
    exact ⟨still, short⟩
  · have empty := congrArg Stream.pcm (shows.stream id)
    rw [show (after.machine.stream id).pcm = none from empty.trans closed] at isOpen
    cases isOpen

/-- A read, if the stream has a PCM in the end. -/
theorem continues_read {run after : Run} {buffer : List UInt8} {answer : Answer} {state : Machine}
    (performed : (Operation.read id buffer).perform run = (answer, after))
    (shown : run.Shows state) (sound : state.Sound []) (staffed : run.machine.Staffed)
    (records : run.Records id format) (isOpen : (after.machine.stream id).pcm.isSome = true) :
    ∃ between, Passes id format run between ∧
      between.Continues id format [(buffer.length, answer.bytes)] after := by
  rcases transferred : Act.read id buffer run with ⟨⟨error | count, filled⟩, last⟩
  · have ended : (Operation.read id buffer).perform run = (.failed error, last) := by
      simp only [perform, Act.bind_apply, transferred]
      rfl
    rw [ended] at performed
    cases performed
    obtain ⟨rfl, short⟩ := unread_of_failure transferred shown sound records isOpen
    refine ⟨after, records.passes, records, rfl, fun returned serves => ⟨[], ?_, ?_⟩⟩
    · rwa [List.append_nil]
    · refine ⟨fun reading member => ?_, rfl⟩
      rw [List.mem_singleton.mp member, short, Nat.zero_mul]
      rfl
  · have ended : (Operation.read id buffer).perform run = (.filled count filled, last) := by
      simp only [perform, Act.bind_apply, transferred]
      rfl
    rw [ended] at performed
    cases performed
    exact continues_of_success transferred staffed records

/-- Any other operation. -/
theorem passes_perform {run : Run} (other : ∀ buffer, operation ≠ .read id buffer)
    (staffed : run.machine.Staffed) (possible : operation.Possible run.machine)
    (records : run.Records id format) : Passes id format run (operation.perform run).2 := by
  have none : ∀ other ∈ ([] : List (Act Unit)), Act.Calm (Passes id format run) run other :=
    List.forall_mem_nil _
  have reads : ∀ owner buffer, operation = .read owner buffer → ∀ frames between,
      Passes id format run between →
      Passes id format run (Act.readOpen owner frames between).2 := by
    intro owner buffer same frames between passes
    have different : owner ≠ id := fun equal => other buffer (equal ▸ same)
    exact passes.trans (Act.passes_readOpen_other passes.records different frames)
  obtain ⟨-, passes⟩ := keeps_performAmid (upheld_passes id format run) possible none none reads
    staffed records.passes
  rwa [performAmid_nil] at passes

/-- Another operation reads nothing from the stream. -/
theorem reading_of_other (other : ∀ buffer, operation ≠ .read id buffer) (answer : Answer) :
    operation.reading id answer = [] := by
  unfold reading
  split
  · rename_i owner buffer
    exact if_neg fun same => other buffer (congrArg (Operation.read · buffer) same)
  · rfl

/-- **Operations.** A capture stream passes through what an operation does besides reading from it,
and if it has a PCM in the end, what is read continues what was read since the PCM was opened. -/
theorem continues_perform {run after : Run} {answer : Answer} {state : Machine}
    (performed : operation.perform run = (answer, after)) (shown : run.Shows state)
    (sound : state.Sound []) (staffed : run.machine.Staffed)
    (possible : operation.Possible run.machine) (records : run.Records id format)
    (isOpen : (after.machine.stream id).pcm.isSome = true) :
    ∃ between, Passes id format run between ∧
      between.Continues id format (operation.reading id answer) after := by
  by_cases own : ∃ buffer, operation = .read id buffer
  · obtain ⟨buffer, rfl⟩ := own
    have told : (Operation.read id buffer).reading id answer = [(buffer.length, answer.bytes)] :=
      if_pos rfl
    rw [told]
    exact continues_read performed shown sound staffed records isOpen
  · have other : ∀ buffer, operation ≠ .read id buffer := fun buffer same => own ⟨buffer, same⟩
    have passes := passes_perform other staffed possible records
    rw [performed] at passes
    rw [reading_of_other other]
    exact ⟨after, passes, passes.records.continues⟩

end Operation

/-! ## Sessions -/

/-- Every capture stream has filters that fit its format. -/
def Run.Filtered (run : Run) : Prop :=
  ∀ id, run.machine.ways[id]? = some .capture → ∃ format, run.Records id format

/-- A new capture stream has filters that fit its format. -/
theorem newCapture_fits {settings : Settings} {devices : Devices} {request : FormatRequest}
    {stream : Stream} (made : Stream.newCapture settings devices request = .ok stream) :
    stream.format.encoding = .pcm16 ∧ stream.pipeline.Fits stream.format := by
  unfold Stream.newCapture at made
  dsimp only at made
  split at made
  · rename_i closest
    cases built : Pipeline.ofFormat request.resolved settings.capturePeriod.toNat with
    | error error =>
        rw [built] at made
        cases made
    | ok pipeline =>
        rw [built] at made
        cases made
        exact ⟨congrArg StreamFormat.encoding closest, (Pipeline.serves_ofFormat built).toFits⟩
  · cases made

namespace Run

/-- What passes leaves the filters in step with what was recorded. -/
theorem Filtered.of_passes {before after : Run} (filtered : before.Filtered)
    (ways : after.machine.ways = before.machine.ways)
    (passes : ∀ id format, before.Records id format → after.Records id format) :
    after.Filtered := by
  intro id way
  obtain ⟨format, records⟩ := filtered id (ways ▸ way)
  exact ⟨format, passes id format records⟩

/-- The filters of all streams stay in step with what was recorded. -/
theorem upheld_filtered : Upheld Filtered where
  of_eq {run after} streams intakes holds := by
    have same : after.inlets = run.inlets := Prod.ext streams intakes
    exact holds.of_passes (congrArg (List.map Stream.direction) streams)
      fun _ _ records => (records.passes_of_inlets same).records
  changed {f} other same run holds := by
    have turned := run.turns_changeStream other f
    refine holds.of_passes ?_ fun id format records =>
      (turned.passes records (List.forall_mem_nil _) fun _ stream =>
        ⟨(same stream).1, (same stream).2.1, (same stream).2.2.1⟩).records
    exact map_modify_of_unseen (fun stream => (same stream).1) run.machine.streams other
  opened other run holds :=
    holds.of_passes (ways_of_ledger (Act.keeps_ledger_openLocked other run))
      fun _ _ records => (Act.passes_openLocked records other).records
  joined {stream} new run holds := by
    intro id way
    have longer : (Act.addStream stream run).2.machine.ways =
        run.machine.ways ++ [stream.direction] := List.map_append ..
    have count : run.machine.ways.length = run.machine.streams.length := List.length_map ..
    rw [longer] at way
    by_cases earlier : id < run.machine.ways.length
    · rw [List.getElem?_append_left earlier] at way
      obtain ⟨format, records⟩ := holds id way
      exact ⟨format, ((upheld_passes id format run).joined new run records.passes).records⟩
    · have last : id = run.machine.streams.length := by
        obtain ⟨inside, -⟩ := List.getElem?_eq_some_iff.mp way
        rw [List.length_append, List.length_singleton, count] at inside
        rw [count] at earlier
        exact Nat.le_antisymm (Nat.le_of_lt_succ inside) (Nat.le_of_not_lt earlier)
      subst last
      have streams : (Act.addStream stream run).2.machine.stream run.machine.streams.length =
          stream := Machine.stream_joined_self run.machine stream
      have capture : stream.direction = .capture := by
        rw [← count, List.getElem?_concat_length] at way
        exact Option.some_inj.mp way
      obtain ⟨settings, devices, request, played | recorded⟩ := new
      · rw [(Act.newPlayback_fresh played).1] at capture
        cases capture
      · obtain ⟨encoding, fits⟩ := newCapture_fits recorded
        refine ⟨stream.format, ?_, ?_, ?_, encoding, ?_⟩
        · have more : (Act.addStream stream run).2.machine.streams.length =
              run.machine.streams.length + 1 := List.length_append
          rw [more]
          exact Nat.lt_succ_self _
        · rw [streams, capture]
        · rw [streams]
        · rw [streams]
          exact fits

end Run

/-- In every session, the open streams have the direction in which they are open, and the capture
streams have filters that fit their format. -/
theorem Session.filtered {first last : Run} {operations : List Operation} (built : first.Built)
    (session : Session first operations last) : last.machine.Staffed ∧ last.Filtered := by
  induction session with
  | start =>
      refine ⟨built.staffed, fun id way => ?_⟩
      obtain ⟨settings, tables, shown⟩ := built.shows_vacant
      have streams : first.machine.streams.map Stream.core = [] :=
        congrArg Machine.streams shown.core_eq
      rw [Machine.ways, List.map_eq_nil_iff.mp streams] at way
      cases way
  | step earlier conditions possible ih =>
      rename_i run operation
      have streams : (run.under conditions).machine.streams = run.machine.streams := rfl
      have filtered := Run.upheld_filtered.of_eq streams rfl ih.2
      have staffed : (run.under conditions).machine.Staffed :=
        ih.1.extended rfl rfl (List.prefix_refl _)
      rw [← Operation.performAmid_nil]
      refine Operation.keeps_performAmid Run.upheld_filtered (possible.under conditions)
        (List.forall_mem_nil _) (List.forall_mem_nil _) ?_ staffed filtered
      intro other _ _ frames between holds
      refine holds.of_passes (ways_of_ledger (Act.keeps_ledger_readOpen other frames between))
        fun id format records => ?_
      by_cases own : other = id
      · subst own
        exact (Act.records_readOpen records frames).1
      · exact (Act.passes_readOpen_other records own frames).records

/-- A session goes on with one more operation. -/
theorem Session.continues {first run after : Run} {operations : List Operation}
    (built : first.Built) (session : Session first operations run) (conditions : Conditions)
    {operation : Operation} {answer : Answer} (possible : operation.Possible run.machine)
    (performed : operation.perform (run.under conditions) = (answer, after)) {id : StreamId}
    {format : StreamFormat} (records : run.Records id format)
    (isOpen : (after.machine.stream id).pcm.isSome = true) :
    ∃ between, Run.Passes id format run between ∧
      between.Continues id format (operation.reading id answer) after := by
  obtain ⟨start, shows, sound, -⟩ := built.shows
  obtain ⟨state, shown, advances⟩ := session.advances shows sound
  have same : (run.under conditions).inlets = run.inlets := rfl
  have under := records.passes_of_inlets same
  have staffed : (run.under conditions).machine.Staffed :=
    (session.filtered built).1.extended rfl rfl (List.prefix_refl _)
  obtain ⟨between, passes, continues⟩ := Operation.continues_perform performed
    (shown.under conditions) advances.sound staffed (possible.under conditions) under.records isOpen
  exact ⟨between, under.trans passes, continues⟩

/-- Operations after which a capture stream has a PCM, the first of which opened it and the others
did not, with what they read from the stream. -/
inductive Listening (first : Run) (id : StreamId) : List (Nat × List UInt8) → Run → Prop
  | opened {operations : List Operation} {run after : Run} {answer : Answer}
      (session : Session first operations run) (conditions : Conditions) {operation : Operation}
      (possible : operation.Possible run.machine) (inside : id < run.machine.streams.length)
      (capture : (run.machine.stream id).direction = .capture)
      (performed : operation.perform (run.under conditions) = (answer, after))
      (opened : run.openings id < after.openings id)
      (isOpen : (after.machine.stream id).pcm.isSome = true) :
      Listening first id (operation.reading id answer) after
  | goesOn {readings : List (Nat × List UInt8)} {run after : Run} {answer : Answer}
      (earlier : Listening first id readings run) (conditions : Conditions)
      {operation : Operation} (possible : operation.Possible run.machine)
      (performed : operation.perform (run.under conditions) = (answer, after))
      (unopened : after.openings id = run.openings id)
      (isOpen : (after.machine.stream id).pcm.isSome = true) :
      Listening first id (readings ++ operation.reading id answer) after

namespace Listening

variable {first run : Run} {id : StreamId} {readings : List (Nat × List UInt8)}

/-- Listening to a stream is a session. -/
theorem session (listening : Listening first id readings run) :
    ∃ operations, Session first operations run := by
  induction listening with
  | opened session conditions possible _ _ performed =>
      have next := session.step conditions possible
      rw [performed] at next
      exact ⟨_, next⟩
  | goesOn _ conditions possible performed _ _ ih =>
      obtain ⟨operations, session⟩ := ih
      have next := session.step conditions possible
      rw [performed] at next
      exact ⟨_, next⟩

/-- What was read since the PCM was opened is the beginning of what the filters make of what the PCM
has delivered since. -/
theorem serves (built : first.Built) (listening : Listening first id readings run) :
    ∃ format handed, run.Records id format ∧
      (run.machine.stream id).pipeline.Serves format (run.heard id) handed ∧
      Tells format readings handed := by
  induction listening with
  | opened session conditions possible inside capture performed opened isOpen =>
      obtain ⟨format, records⟩ :=
        (session.filtered built).2 id (capture ▸ Machine.ways_of_inside inside)
      obtain ⟨between, passes, continues⟩ :=
        session.continues built conditions possible performed records isOpen
      cases passes with
      | kept _ unopened =>
          rw [continues.openings, unopened] at opened
          exact absurd opened (Nat.lt_irrefl _)
      | renewed _ _ silent serves =>
          obtain ⟨handed, further, tells⟩ := continues.serves [] (by rwa [silent])
          exact ⟨format, handed, continues.records, further, tells⟩
  | goesOn earlier conditions possible performed unopened isOpen ih =>
      obtain ⟨operations, session⟩ := earlier.session
      obtain ⟨format, handed, records, serves, told⟩ := ih
      obtain ⟨between, passes, continues⟩ :=
        session.continues built conditions possible performed records isOpen
      cases passes with
      | kept _ _ heard pipeline =>
          rw [← heard, ← pipeline] at serves
          obtain ⟨more, further, tells⟩ := continues.serves handed serves
          exact ⟨format, handed ++ more, continues.records, further, told.append tells⟩
      | renewed _ opened =>
          rw [← continues.openings, unopened] at opened
          exact absurd opened (Nat.lt_irrefl _)

/-- **Nothing is carried over.** Two capture streams of one format, of any sessions, whose PCMs were
opened by any operations: if the PCMs delivered the same frames since, as far as either was heard,
and the streams were read from with buffers of the same sizes while the PCMs stayed open, the reads
returned the same bytes. -/
theorem carriesNothingOver {other last : Run} {twin : StreamId} {more : List (Nat × List UInt8)}
    (built : first.Built) (builtToo : other.Built) (listening : Listening first id readings run)
    (listeningToo : Listening other twin more last)
    (format : (run.machine.stream id).format = (last.machine.stream twin).format)
    {recording : List Frame} (heard : run.heard id <+: recording)
    (heardToo : last.heard twin <+: recording)
    (sizes : readings.map Prod.fst = more.map Prod.fst) : readings = more := by
  obtain ⟨_, handed, records, serves, tells⟩ := listening.serves built
  obtain ⟨_, others, recordsToo, servesToo, tellsToo⟩ := listeningToo.serves builtToo
  cases records.format_eq
  rw [← recordsToo.format_eq, ← format] at servesToo tellsToo
  have made := serves.prefix_batch.trans (Pipeline.batch_mono _ heard)
  have madeToo := servesToo.prefix_batch.trans (Pipeline.batch_mono _ heardToo)
  exact tells.congr tellsToo made madeToo sizes

end Listening

/-- Audio hardware with the shortest capture periods. -/
def Run.brief : Run :=
  (Act.build { settings := { capturePeriod := 128 } } { machine := { drivers := {} } }).2

/-- A read of two mono frames while a tone is captured. -/
def Run.hearTone (run : Run) : Answer × Run :=
  (Operation.read 0 [0, 0, 0, 0]).perform
    (run.under { queue := (List.range 256).map fun i => Int16.ofNat (100 * i) })

/-- A capture stream that was read from and holds captured frames. -/
def Run.noisy : Run :=
  ((Operation.read 0 [0, 0, 0, 0]).perform
    ((Run.brief.next (.openStream .capture ⟨0x40000⟩ (.pcm16 22050 1))).under
      { queue := List.replicate 256 700 })).2

/-- A capture stream was read from. -/
theorem Session.noisy : Session Run.brief
    [.openStream .capture ⟨0x40000⟩ (.pcm16 22050 1), .read 0 [0, 0, 0, 0]] Run.noisy := by
  have opened : Session Run.brief [.openStream .capture ⟨0x40000⟩ (.pcm16 22050 1)]
      (Run.brief.next (.openStream .capture ⟨0x40000⟩ (.pcm16 22050 1))) :=
    Session.start.next _ (by decide +kernel)
  exact opened.step _ (by decide +kernel)

/-- The stream is put to standby and read from again, or playback starts beside it and it is read
from then. -/
theorem Listening.carriesNothingOver_noisy :
    ∃ readings more, Listening Run.brief 0 readings (Run.noisy.next (.standby 0)).hearTone.2 ∧
      Listening Run.brief 0 more ((Run.noisy.next (.openStream .playback ⟨2⟩ {})).next
        (.write 1 4)).hearTone.2 ∧
      readings = [(4, [159, 7, 47, 9])] ∧ readings = more := by
  have built : Run.brief.Built := Run.built_of_faultless (by decide) rfl
  have heard : ∀ run : Run, (Operation.read 0 [0, 0, 0, 0]).perform (run.under
      { queue := (List.range 256).map fun i => Int16.ofNat (100 * i) }) =
        (run.hearTone.1, run.hearTone.2) := fun _ => rfl
  have wrote : ∀ run : Run, (Operation.write 1 4).perform (run.under {}) =
      (((Operation.write 1 4).perform (run.under {})).1, run.next (.write 1 4)) := fun _ => rfl
  have slept := Session.noisy.next (.standby 0) (by decide +kernel)
  have there : 0 < (Run.noisy.next (.standby 0)).machine.streams.length := by decide +kernel
  have listening := Listening.opened slept _ (by decide +kernel) there (by decide +kernel)
    (heard _) (by decide +kernel) (by decide +kernel)
  have beside := Session.noisy.next (.openStream .playback ⟨2⟩ {}) (by decide +kernel)
  have within : 0 < (Run.noisy.next (.openStream .playback ⟨2⟩ {})).machine.streams.length := by
    decide +kernel
  have played := Listening.opened beside {} (by decide +kernel) within (by decide +kernel)
    (wrote _) (by decide +kernel) (by decide +kernel)
  have listeningToo := played.goesOn _ (by decide +kernel) (heard _) (by decide +kernel)
    (by decide +kernel)
  refine ⟨_, _, listening, listeningToo, ?_, ?_⟩
  · decide +kernel
  · exact Listening.carriesNothingOver built built listening listeningToo (by decide +kernel)
      (List.prefix_refl _) (by decide +kernel) (by decide +kernel)

end PhoneAudio
