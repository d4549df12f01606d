import PhoneAudio.Proofs.Handset.Generation
import PhoneAudio.Proofs.Handset.Locking
import PhoneAudio.Proofs.Handset.Making
import PhoneAudio.Proofs.Handset.Session
import PhoneAudio.Proofs.Machine.Intakes

/-!
# The discipline of locks

Every operation but dropping the audio hardware keeps to the rules of locking, whatever the drivers
do and whatever others make of the state while it waits for a stream that it takes over, and it
holds no lock in the end (`PhoneAudio.BusySession.lawful`).
-/

namespace PhoneAudio

namespace Act

variable {α : Type} {kept : Run → Prop} {origin : Run} {held : List Lock}
  {known : List (StreamId × Direction)} {id : StreamId}

/-- Frames are captured under the lock of the stream, with the audio hardware free. -/
theorem abides_captured (own : .stream id ∈ held) (free : .hardware ∉ held) (pcm : OpenPcm)
    (wanted : Nat) {run : Run}
    (abides : Run.Abides (fun _ => True) origin run (held, known)) :
    Run.Abides (fun _ => True) origin (captured id pcm wanted run).2 (held, known) := by
  refine captured_keeps (Run.Abides (fun _ => True) origin · (held, known))
    (fun raw between abides => ?_) (fun between abides => ?_) abides
  · have buffers : Leads (Run.Abides (fun _ => True) origin) (keepRaw id raw) (held, known)
        fun _ after => after = (held, known) :=
      abides_changeStream id (fun _ _ => trivial) fun _ => rfl
    obtain ⟨_, changed, rfl⟩ := buffers between abides
    exact changed
  · obtain ⟨_, called, rfl⟩ := abides_call upheld_true (.readPcm id (wanted * 2))
      (fun _ _ => trivial) (fun _ _ => ⟨own, free⟩) rfl (.stream id) .readingPcm
      (onPcm (·.read pcm (wanted * 2))) between abides
    exact called

/-- A read keeps the locks in order, as long as its stream's own is held. -/
theorem abides_readOpen (frames : Nat) (own : .stream id ∈ held) (free : .hardware ∉ held)
    (reads : ∀ run, kept run → kept (readOpen id frames run).2) :
    Leads (Run.Abides kept origin) (readOpen id frames) (held, known) fun _ after =>
      after = (held, known) := by
  refine Leads.keeping (fun run abides => ⟨(held, known), ?_, rfl⟩) reads
  refine readOpen_keeps (Run.Abides (fun _ => True) origin · (held, known)) abides frames
    (fun pcm _ wanted between => abides_captured own free pcm wanted)
    fun pipeline samples between abides => ?_
  have back : Leads (Run.Abides (fun _ => True) origin) (changeStream id fun stream =>
      { stream with pipeline := pipeline, samples := samples }) (held, known) fun _ after =>
        after = (held, known) :=
    abides_changeStream id (fun _ _ => trivial) fun _ => rfl
  obtain ⟨_, changed, rfl⟩ := back between abides
  exact changed

section Upheld

variable (upheld : Upheld kept)
include upheld

/-- A write keeps the locks in order, as long as its stream's own is held. -/
theorem abides_writeOpen (bytes : Nat) (own : .stream id ∈ held) (free : .hardware ∉ held) :
    Leads (Run.Abides kept origin) (writeOpen id bytes) (held, known) fun _ after =>
      after = (held, known) := by
  refine (abides_stream id).read fun stream _ => ?_
  cases stream.pcm with
  | none => exact leads_pure _ rfl
  | some pcm =>
      exact (abides_call upheld (.writePcm id bytes) (upheld.note rfl) (fun _ _ => ⟨own, free⟩) rfl
        _ _ _).then fun _ => leads_pure _ rfl

/-- Completing a transfer gives up the stream's lock. -/
theorem abides_finishTransfer (outcome : Except AudioError α) :
    Leads (Run.Abides kept origin) (finishTransfer id outcome) ([.stream id], known)
      fun _ after => after = ([], known) := by
  refine (abides_unlock_head upheld _).then fun _ => ?_
  cases outcome with
  | ok answer => exact leads_pure _ rfl
  | error error =>
      refine (abides_stream id).read fun stream _ => ?_
      refine (abides_tell upheld (some id) (.transferFailed _ _) fun _ => rfl).then fun _ => ?_
      exact (abides_standby upheld id).then fun _ => leads_pure _ rfl

section Amid

variable {others : List (Act Unit)} (calm : ∀ other ∈ others, Calm kept origin other)
include calm

/-- Beginning a transfer takes the stream's lock, whatever others do meanwhile. -/
theorem abides_beginTransfer {direction : Direction} (mine : (id, direction) ∈ known) :
    Leads (Run.Abides kept origin) (beginTransfer others id) ([], known) fun _ after =>
      after = ([.stream id], known) :=
  (abides_lock upheld fun machine _ => lawful_lock machine _).then fun _ =>
    abides_wake upheld calm mine

/-- A write takes and gives up locks in order, whatever others do meanwhile. -/
theorem abides_writeAmid (bytes : Nat) (mine : (id, .playback) ∈ known) :
    Leads (Run.Abides kept origin) (writeAmid others id bytes) ([], known) fun _ after =>
      after = ([], known) := by
  refine (abides_beginTransfer upheld calm mine).then fun begun => ?_
  cases begun with
  | error error => exact Leads.after_pure (abides_finishTransfer upheld _)
  | ok =>
      exact (abides_writeOpen upheld bytes (by simp) (by simp)).then fun outcome =>
        abides_finishTransfer upheld _

/-- A read takes and gives up locks in order, whatever others do meanwhile. -/
theorem abides_readAmid (buffer : List UInt8) (mine : (id, .capture) ∈ known)
    (reads : ∀ frames run, kept run → kept (readOpen id frames run).2) :
    Leads (Run.Abides kept origin) (readAmid others id buffer) ([], known) fun _ after =>
      after = ([], known) := by
  refine (abides_stream id).read fun stream _ => ?_
  dsimp only
  split
  · exact leads_pure _ rfl
  refine (abides_beginTransfer upheld calm mine).then fun begun => ?_
  refine (abides_stream id).read fun stream _ => ?_
  have finish : ∀ outcome : Except AudioError (List Int16), Leads (Run.Abides kept origin)
      (finishTransfer id outcome) ([.stream id], known) fun _ after => after = ([], known) :=
    fun outcome => abides_finishTransfer upheld outcome
  cases begun with
  | error error =>
      refine Leads.after_pure ((finish _).then fun finished => ?_)
      cases finished <;> exact leads_pure _ rfl
  | ok =>
      refine (abides_readOpen _ (by simp) (by simp) (reads _)).then fun outcome => ?_
      refine (finish outcome).then fun finished => ?_
      cases finished <;> exact leads_pure _ rfl

end Amid

/-! ## Modes -/

/-- The lock of a stream that was taken over, if there is one. -/
def takenLocks : Option (Takeover.Taken StreamId Unit) → List Lock
  | none => []
  | some taken => [.stream taken.occupant]

omit upheld in
/-- Either nothing was taken over, or the lock of what was is held. -/
theorem Took.cases {direction : Direction} {taken : Option (Takeover.Taken StreamId Unit)}
    {after : List Lock × List (StreamId × Direction)}
    (took : Took direction (.hardware :: held) (fun id => .hardware :: .stream id :: held) known
      taken after) :
    ∃ more, known ⊆ more ∧ after = (.hardware :: (takenLocks taken ++ held), more) ∧
      ∀ settled, taken = some settled → (settled.occupant, direction) ∈ more := by
  cases taken with
  | none => exact ⟨known, List.Subset.refl _, took, nofun⟩
  | some settled =>
      refine ⟨_, List.subset_cons_self .., took, ?_⟩
      rintro _ ⟨⟩
      exact List.mem_cons_self ..

/-- The lock of what was taken over is given up. -/
theorem abides_unlockTaken (taken : Option (Takeover.Taken StreamId Unit)) :
    Leads (Run.Abides kept origin) (unlockTaken taken)
      (.hardware :: (takenLocks taken ++ held), known) fun _ after =>
        after = (.hardware :: held, known) := by
  cases taken with
  | none => exact leads_pure _ rfl
  | some taken => exact abides_unlock_behind upheld _

/-- What was taken over is put to standby with its lock held. -/
theorem abides_standbyTaken (guarded : .hardware ∈ held)
    {taken : Option (Takeover.Taken StreamId Unit)} (own : takenLocks taken ⊆ held) :
    Leads (Run.Abides kept origin) (standbyTaken taken) (held, known) fun _ after =>
      after = (held, known) := by
  cases taken with
  | none => exact leads_pure _ rfl
  | some taken =>
      exact abides_standbyLocked upheld guarded (own (List.mem_singleton_self _))

theorem abides_changeMode (mode : PhoneMode) :
    Leads (Run.Abides kept origin) (changeMode mode) (held, known) fun _ after =>
      after = (held, known) := by
  refine abides_hardware.then fun hardware => ?_
  refine (abides_changeHardware upheld ?_ ?_).then fun _ => ?_
  · exact fun _ => rfl
  · exact fun _ => rfl
  · split
    · exact abides_tell upheld none (.modeChanged _ mode) fun _ => trivial
    · exact leads_pure _ rfl

section Guarded

variable (guarded : .hardware ∈ held)
include guarded

theorem abides_enterCall :
    Leads (Run.Abides kept origin) enterCall (held, known) fun _ after =>
      after = (held, known) := by
  refine (abides_reroute upheld guarded _).then fun _ => ?_
  refine (abides_reroute upheld guarded _).then fun _ => abides_hardware.then fun hardware => ?_
  refine (abides_reroute upheld guarded _).then fun _ => ?_
  exact (abides_reroute upheld guarded _).then fun _ => abides_reroute upheld guarded _

theorem abides_leaveCall :
    Leads (Run.Abides kept origin) leaveCall (held, known) fun _ after =>
      after = (held, known) := by
  refine (abides_reroute upheld guarded _).then fun _ => ?_
  refine (abides_reroute upheld guarded _).then fun _ => ?_
  refine (abides_reroute upheld guarded _).then fun _ => ?_
  exact (abides_reroute upheld guarded _).then fun _ => abides_reroute upheld guarded _

/-- A call is entered or left with the locks of what was taken over held. -/
theorem abides_switchCall (mode : PhoneMode)
    {output input : Option (Takeover.Taken StreamId Unit)} (playback : takenLocks output ⊆ held)
    (capture : takenLocks input ⊆ held) :
    Leads (Run.Abides kept origin) (switchCall mode output input) (held, known) fun _ after =>
      after = (held, known) := by
  have mark : ∀ inCall : Bool, Leads (Run.Abides kept origin)
      (changeHardware fun hardware => { hardware with inCall := inCall }) (held, known)
        fun _ after => after = (held, known) :=
    fun _ => abides_changeHardware upheld (fun _ => rfl) fun _ => rfl
  refine abides_hardware.then fun hardware => ?_
  dsimp only
  split
  · split
    · refine (abides_standbyTaken upheld guarded playback).then fun _ => ?_
      refine (abides_standbyTaken upheld guarded capture).then fun _ => ?_
      exact (abides_enterCall upheld guarded).then fun _ => mark _
    · refine (abides_leaveCall upheld guarded).then fun _ => ?_
      refine (abides_standbyTaken upheld guarded playback).then fun _ => ?_
      exact (abides_standbyTaken upheld guarded capture).then fun _ => mark _
  · exact leads_pure _ rfl

end Guarded

/-- Changing the mode takes and gives up locks in order, whatever others do meanwhile. -/
theorem abides_setModeAmid {onOutput onInput : List (Act Unit)}
    (calmOutput : ∀ other ∈ onOutput, Calm kept origin other)
    (calmInput : ∀ other ∈ onInput, Calm kept origin other) (mode : PhoneMode) :
    Leads (Run.Abides kept origin) (setModeAmid onOutput onInput mode) ([], known)
      fun _ after => after = ([], known) := by
  refine Leads.then (abides_withHardware upheld List.not_mem_nil ?_) fun _ => leads_pure _ rfl
  have nobody : Behind known [] := fun _ member => nomatch member
  refine (abides_takeOver_behind upheld calmOutput .playback nobody fun _ => rfl).bind
    fun output _ took => ?_
  obtain ⟨more, fewer, rfl, playback⟩ := took.cases
  have behind : Behind more (takenLocks output ++ []) := by
    intro target member
    cases output with
    | none => cases member
    | some taken =>
        rw [List.mem_singleton.mp member]
        exact ⟨_, rfl, playback taken rfl⟩
  refine (abides_takeOver_behind upheld calmInput .capture behind nofun).bind
    fun input _ took => ?_
  obtain ⟨most, wider, rfl, -⟩ := took.cases
  refine (abides_tellRetries upheld _ _).then fun _ => (abides_tellRetries upheld _ _).then
    fun _ => ?_
  refine (abides_changeMode upheld mode).then fun _ => ?_
  refine (abides_switchCall upheld (by simp) mode ?_ ?_).then fun _ => ?_
  · intro target member
    exact List.mem_cons_of_mem _ (List.mem_append_right _ (List.mem_append_left _ member))
  · intro target member
    exact List.mem_cons_of_mem _ (List.mem_append_left _ member)
  · refine (abides_unlockTaken upheld input).then fun _ => ?_
    exact (abides_unlockTaken upheld output).forgetting (List.Subset.trans fewer wider)

theorem abides_setMuted (muted : Bool) :
    Leads (Run.Abides kept origin) (setMuted muted) ([], known) fun _ after =>
      after = ([], known) := by
  refine Leads.then (abides_withHardware upheld List.not_mem_nil ?_) fun active => ?_
  · refine (abides_reroute upheld (List.mem_cons_self ..) _).then fun _ => ?_
    refine (abides_reroute upheld (List.mem_cons_self ..) _).then fun _ => ?_
    refine (abides_changeHardware upheld ?_ ?_).then fun _ => ?_
    · exact fun _ => rfl
    · exact fun _ => rfl
    · split
      · exact abides_machine.read fun _ _ => leads_pure _ rfl
      · exact leads_pure _ rfl
  · cases active with
    | none => exact leads_pure _ rfl
    | some id => exact abides_standby upheld id

theorem abides_setCallVolume (volume : Float32) :
    Leads (Run.Abides kept origin) (setCallVolume volume) ([], known) fun _ after =>
      after = ([], known) := by
  refine Leads.then (abides_withHardware upheld List.not_mem_nil ?_) fun _ => leads_pure _ rfl
  refine (abides_changeHardware upheld ?_ ?_).then fun _ => abides_hardware.then fun hardware => ?_
  · exact fun _ => rfl
  · exact fun _ => rfl
  · split
    · exact abides_reroute upheld (List.mem_cons_self ..) _
    · exact leads_pure _ rfl

theorem abides_setMediaVolume (volume : Float32) :
    Leads (Run.Abides kept origin) (setMediaVolume volume) ([], known) fun _ after =>
      after = ([], known) :=
  Leads.then (abides_withHardware upheld List.not_mem_nil
    (abides_reroute upheld (List.mem_cons_self ..) _)) fun _ => leads_pure _ rfl

theorem abides_setCallDevices (devices : Devices) :
    Leads (Run.Abides kept origin) (setCallDevices devices) ([], known) fun _ after =>
      after = ([], known) :=
  Leads.then (abides_withHardware upheld List.not_mem_nil
    (abides_followDevices upheld (List.mem_cons_self ..) _)) fun _ => leads_pure _ rfl

theorem abides_selectDevices (id : StreamId) (devices : Devices) :
    Leads (Run.Abides kept origin) (selectDevices id devices) ([.stream id], known)
      fun _ after => after = ([.stream id], known) := by
  unfold selectDevices
  split
  · exact leads_pure _ rfl
  refine abides_withHardware upheld (by simp) ?_
  refine (abides_stream id).read fun stream _ => abides_hardware.then fun hardware => ?_
  have turned : Leads (Run.Abides kept origin)
      (changeStream id fun stream => { stream with devices := devices })
      ([.hardware, .stream id], known) fun _ after =>
        after = ([.hardware, .stream id], known) := by
    have stays := upheld.changed (f := fun stream => { stream with devices := devices }) id
      fun _ => ⟨rfl, rfl, rfl, .inl rfl⟩
    exact abides_changeStream id stays fun _ => rfl
  have follow : Leads (Run.Abides kept origin) (followDevices devices)
      ([.hardware, .stream id], known) fun _ after => after = ([.hardware, .stream id], known) :=
    abides_followDevices upheld (List.mem_cons_self ..) devices
  dsimp only
  split
  · refine (abides_standbyLocked upheld (by simp) (by simp)).then fun _ => turned.then fun _ => ?_
    split
    · exact follow
    · exact leads_pure _ rfl
  · refine turned.then fun _ => ?_
    split
    · exact follow
    · exact leads_pure _ rfl

/-- Parameters are applied with the stream's lock held first. -/
theorem abides_applyParameters (id : StreamId) (text : String) :
    Leads (Run.Abides kept origin) (applyParameters id text) ([], known) fun _ after =>
      after = ([], known) := by
  refine abides_hardware.then fun hardware => ?_
  split
  · refine (abides_changeStatus upheld id _).then fun _ => ?_
    refine (abides_lockFor upheld fun machine _ => lawful_lock machine _).then fun _ => ?_
    have finish : ∀ rest : KeyValues, Leads (Run.Abides kept origin)
        (do
          unlock (.stream id)
          if rest.isEmpty then return (.ok () : Except AudioError Unit)
          else
            let word := (← stream id).direction.word
            return .error (.badValue s!"unsupported {word} parameters: {rest.toText}"))
        ([.stream id], known) fun _ after => after = ([], known) := by
      intro rest
      refine (abides_unlock_head upheld _).then fun _ => ?_
      split
      · exact leads_pure _ rfl
      · exact (abides_stream id).read fun _ _ => leads_pure _ rfl
    split
    · exact Leads.after_pure (finish _)
    · exact (abides_selectDevices upheld id _).then fun _ => Leads.after_pure (finish _)
  · exact leads_pure _ rfl

theorem abides_answerKeys (id : StreamId) (keys : String) :
    Leads (Run.Abides kept origin) (answerKeys id keys) ([], known) fun _ after =>
      after = ([], known) := by
  unfold answerKeys
  dsimp only
  split
  · refine Leads.then (abides_lock upheld fun machine _ => lawful_lock machine _) fun _ => ?_
    refine (abides_stream id).read fun stream _ => ?_
    exact (abides_unlock_head upheld _).then fun _ => leads_pure _ rfl
  · exact leads_pure _ rfl

/-- Trying a lock that is not held takes it, or does not get it. -/
theorem abides_tryLock {target : Lock} (free : target ∉ held) :
    Leads (Run.Abides kept origin) (tryLock target) (held, known) fun taken after =>
      after = (if taken then target :: held else held, known) := by
  refine abides_machine.read fun machine _ => ?_
  have noted : ∀ taken, Leads (Run.Abides kept origin) (note (.tryLock target taken)) (held, known)
      fun _ after => after = ((Happening.tryLock target taken).heldAfter held, known) :=
    fun taken => abides_note (upheld.note rfl) fun _ _ _ => free
  dsimp only
  cases machine.isLocked target with
  | false =>
      exact (noted true).then fun _ => (abides_setLocked upheld true target).then fun _ =>
        leads_pure _ rfl
  | true => exact (noted false).then fun _ => leads_pure _ rfl

/-- A dump of a stream gives the lock back that it gets. -/
theorem abides_dumpStream (id : StreamId) (free : .stream id ∉ held) :
    Leads (Run.Abides kept origin) (dumpStream id) (held, known) fun _ after =>
      after = (held, known) := by
  refine (abides_tryLock upheld free).bind ?_
  rintro taken _ rfl
  refine (abides_stream id).read fun stream _ => ?_
  cases taken with
  | true => exact (abides_unlock_head upheld _).then fun _ => leads_pure _ rfl
  | false => exact leads_pure _ rfl

theorem abides_dumpInputs (index : Nat) (ids : List StreamId) :
    Leads (Run.Abides kept origin) (dumpInputs index ids) ([.hardware], known) fun _ after =>
      after = ([.hardware], known) := by
  induction ids generalizing index with
  | nil => exact leads_pure _ rfl
  | cons id rest ih =>
      exact (abides_dumpStream upheld id (by simp)).then fun _ =>
        (ih _).then fun _ => leads_pure _ rfl

theorem abides_dumpLocked :
    Leads (Run.Abides kept origin) dumpLocked ([.hardware], known) fun _ after =>
      after = ([.hardware], known) := by
  refine abides_hardware.then fun hardware => Leads.then ?_ fun _ =>
    (abides_dumpInputs upheld _ _).then fun _ => leads_pure _ rfl
  cases hardware.output with
  | none => exact leads_pure _ rfl
  | some id => exact abides_dumpStream upheld id (by simp)

theorem abides_tryHardware (attempts : Nat) :
    Leads (Run.Abides kept origin) (tryHardware attempts) ([], known) fun taken after =>
      after = (if taken then [.hardware] else [], known) := by
  induction attempts with
  | zero => exact leads_pure _ rfl
  | succ attempts ih =>
      refine (abides_tryLock upheld List.not_mem_nil).bind ?_
      rintro taken _ rfl
      cases taken with
      | true => exact leads_pure _ rfl
      | false => exact ih

/-- A dump of the audio hardware gives the lock back if it got it. -/
theorem abides_dump :
    Leads (Run.Abides kept origin) dump ([], known) fun _ after => after = ([], known) := by
  refine abides_machine.read fun machine _ => (abides_tryHardware upheld _).bind ?_
  rintro taken _ rfl
  refine abides_hardware.then fun hardware => ?_
  cases taken with
  | true =>
      exact (abides_dumpLocked upheld).then fun _ => (abides_unlock_head upheld _).then fun _ =>
        leads_pure _ rfl
  | false => exact leads_pure _ rfl

/-- A query takes one lock, or tries those it wants for a dump, and gives all up. -/
theorem abides_find (query : Query) :
    Leads (Run.Abides kept origin) (find query) ([], known) fun _ after => after = ([], known) := by
  have reads : ∀ {α : Type} (read : Machine → α),
      Leads (Run.Abides kept origin) (readLocked read) ([], known) fun _ after =>
        after = ([], known) :=
    fun _ => abides_withHardware upheld List.not_mem_nil (abides_machine.read fun _ _ =>
      leads_pure _ rfl)
  cases query with
  | mode | inCall | muted | route lane | isOff lane =>
      exact (reads _).then fun _ => leads_pure _ rfl
  | devices id =>
      refine Leads.then (abides_lock upheld fun machine _ => lawful_lock machine _) fun _ => ?_
      refine (abides_stream id).read fun stream _ => ?_
      exact (abides_unlock_head upheld _).then fun _ => leads_pure _ rfl
  | dump => exact (abides_dump upheld).then fun _ => leads_pure _ rfl
  | dumpStream id =>
      exact (abides_dumpStream upheld id List.not_mem_nil).then fun _ => leads_pure _ rfl

/-- A stream that is added is known by its direction. -/
theorem abides_addStream {stream : Stream} (new : stream.IsNew) :
    Leads (Run.Abides kept origin) (addStream stream) (held, known) fun id after =>
      after = (held, (id, stream.direction) :: known) := by
  intro run abides
  have longer : (addStream stream run).2.machine.ways = run.machine.ways ++ [stream.direction] :=
    List.map_append ..
  have prefixed : run.machine.ways <+: (addStream stream run).2.machine.ways :=
    longer ▸ List.prefix_append ..
  have staffed : (addStream stream run).2.machine.Staffed :=
    abides.staffed.extended rfl rfl prefixed
  have grown : Run.Abides kept origin (addStream stream run).2 (held, known) :=
    abides.extended rfl staffed prefixed (upheld.joined new run abides.holds)
  refine ⟨(held, (_, stream.direction) :: known),
    ⟨grown.course, staffed, fun entry member => ?_, grown.holds⟩, rfl⟩
  obtain rfl | earlier := List.mem_cons.mp member
  · have last : run.machine.ways.length = run.machine.streams.length := List.length_map ..
    rw [longer, ← List.getElem?_concat_length, last]
    rfl
  · exact grown.known entry earlier

theorem abides_openPlayback (devices : Devices) (request : FormatRequest) :
    Leads (Run.Abides kept origin) (openPlayback devices request) ([], known) fun _ after =>
      after = ([], known) := by
  refine abides_withHardware upheld List.not_mem_nil ?_
  refine abides_hardware.then fun hardware => ?_
  split
  · exact leads_pure _ rfl
  refine abides_machine.read fun machine _ => ?_
  cases made : Stream.newPlayback machine.settings devices request with
  | error error => exact leads_pure _ rfl
  | ok stream =>
      have way := (newPlayback_fresh made).1
      refine (abides_addStream upheld ⟨_, _, _, .inl made⟩).bind ?_
      rintro id _ rfl
      rw [way]
      refine Leads.then (abides_restaff upheld fun machine staffed bears => ?_) fun _ =>
        Leads.forgetting (leads_pure _ rfl) (List.subset_cons_self ..)
      refine ⟨fun other filled => ?_, staffed.inputs⟩
      cases filled
      exact bears _ (List.mem_cons_self ..)

theorem abides_openCapture (devices : Devices) (request : FormatRequest) :
    Leads (Run.Abides kept origin) (openCapture devices request) ([], known) fun _ after =>
      after = ([], known) := by
  unfold openCapture
  split
  · refine abides_withHardware upheld List.not_mem_nil (abides_machine.read fun machine _ => ?_)
    cases made : Stream.newCapture machine.settings devices request with
    | error error => exact leads_pure _ rfl
    | ok stream =>
        have way := (newCapture_fresh made).1
        refine (abides_addStream upheld ⟨_, _, _, .inr made⟩).bind ?_
        rintro id _ rfl
        rw [way]
        refine Leads.then (abides_restaff upheld fun machine staffed bears => ?_) fun _ =>
          Leads.forgetting (leads_pure _ rfl) (List.subset_cons_self ..)
        refine ⟨staffed.output, fun other member => ?_⟩
        obtain earlier | last := List.mem_append.mp member
        · exact staffed.inputs other earlier
        · rw [List.mem_singleton.mp last]
          exact bears _ (List.mem_cons_self ..)
  · exact leads_pure _ rfl

theorem abides_openStream (direction : Direction) (devices : Devices) (request : FormatRequest) :
    Leads (Run.Abides kept origin) (openStream direction devices request) ([], known)
      fun _ after => after = ([], known) := by
  cases direction with
  | playback => exact abides_openPlayback upheld devices request
  | capture => exact abides_openCapture upheld devices request

theorem abides_retire (id : StreamId) :
    Leads (Run.Abides kept origin) (retire id) ([], known) fun _ after => after = ([], known) :=
  (abides_changeStatus upheld id _).then fun _ => (abides_standby upheld id).then fun _ =>
    leads_pure _ rfl

/-- Closing a stream takes the lock of the hardware before that of the stream, one after the other.
-/
theorem abides_close (id : StreamId) :
    Leads (Run.Abides kept origin) (close id) ([], known) fun _ after =>
      after = ([], known) := by
  refine Leads.then (abides_withHardware upheld List.not_mem_nil
    (abides_machine.read fun machine _ => ?_)) fun isThere => ?_
  · refine Leads.then (abides_restaff upheld fun machine staffed _ => ?_) fun _ => leads_pure _ rfl
    refine ⟨fun other filled => ?_, fun other member => ?_⟩
    · exact staffed.output other (Option.filter_eq_some_iff.mp filled).1
    · exact staffed.inputs other (List.mem_of_mem_erase member)
  · split
    · exact (abides_retire upheld id).then fun _ => leads_pure _ rfl
    · exact (abides_stream id).read fun _ _ => leads_pure _ rfl

theorem abides_retireAll (ids : List StreamId) :
    Leads (Run.Abides kept origin) (retireAll ids) ([], known) fun _ after =>
      after = ([], known) := by
  induction ids with
  | nil => exact leads_pure _ rfl
  | cons id rest ih => exact (abides_retire upheld id).then fun _ => ih

end Upheld

/-- Closing a link touches no stream. -/
theorem closeLink_keeps (upheld : Upheld kept) (direction : Direction) {run : Run}
    (staffed : run.machine.Staffed) (holds : kept run) :
    (closeLink direction run).2.machine.Staffed ∧ kept (closeLink direction run).2 := by
  have rest := keeps_closeLink direction run
  have output := congrArg (fun rest => rest.1.hardware.output) rest
  have inputs := congrArg (fun rest => rest.1.hardware.inputs) rest
  obtain ⟨streams, intakes⟩ := Prod.ext_iff.mp (routes_inlets.closeLink direction run)
  have ways : (closeLink direction run).2.machine.ways = run.machine.ways :=
    congrArg (List.map Stream.direction) streams
  exact ⟨staffed.extended output inputs (ways ▸ List.prefix_refl _),
    upheld.of_eq streams intakes holds⟩

/-- Dropping the audio hardware keeps to no rules in the end, as it closes the links under no lock,
but it leaves the streams. -/
theorem dropHardware_keeps (upheld : Upheld kept) {run : Run} (staffed : run.machine.Staffed)
    (holds : kept run) :
    (dropHardware run).2.machine.Staffed ∧ kept (dropHardware run).2 := by
  have started : Run.Abides kept run run ([], []) :=
    ⟨⟨[], (List.append_nil _).symm, .none []⟩, staffed, nofun, holds⟩
  have taken : Leads (Run.Abides kept run)
      (withHardware do
        let hardware ← hardware
        changeHardware fun hardware => { hardware with output := none, inputs := [] }
        return hardware.inputs ++ hardware.output.toList)
      ([], []) fun _ after => after = ([], []) := by
    refine abides_withHardware upheld List.not_mem_nil (abides_hardware.then fun hardware => ?_)
    refine Leads.then (abides_restaff upheld fun _ _ _ => ?_) fun _ => leads_pure _ rfl
    exact ⟨nofun, nofun⟩
  have retired := taken.then fun ids => abides_retireAll upheld ids
  have absent := retired.then fun _ => abides_changeHardware upheld
    (f := fun hardware => { hardware with present := false }) (fun _ => rfl) fun _ => rfl
  have unrouted := absent.then fun _ => abides_changeHardware upheld
    (f := fun hardware => { hardware with router := none }) (fun _ => rfl) fun _ => rfl
  obtain ⟨_, between, -⟩ := unrouted run started
  obtain ⟨stays, goesOn⟩ := closeLink_keeps upheld .capture between.staffed between.holds
  exact closeLink_keeps upheld .playback stays goesOn

end Act

namespace Operation

/-! ## Operations -/

/-- The stream that an operation transfers with, and in which direction. -/
def transfers : Operation → List (StreamId × Direction)
  | write id _ => [(id, .playback)]
  | read id _ => [(id, .capture)]
  | _ => []

/-- An operation that is possible knows the directions of its streams. -/
theorem Possible.bears {machine : Machine} {operation : Operation}
    (possible : operation.Possible machine) : machine.Bears operation.transfers := by
  cases operation with
  | write id bytes =>
      rintro entry (_ | ⟨_, ⟨⟩⟩)
      exact possible.2 ▸ Machine.ways_of_inside possible.1
  | read id buffer =>
      rintro entry (_ | ⟨_, ⟨⟩⟩)
      exact possible.2 ▸ Machine.ways_of_inside possible.1
  | _ => exact nofun

open Act

variable {kept : Run → Prop} {origin : Run}

/-- **Operations** abide by the rules, whatever others do during their waits. -/
theorem abides_performAmid (upheld : Upheld kept) {operation : Operation}
    (stays : operation ≠ .dropHardware) {onOutput onInput : List (Act Unit)}
    (calmOutput : ∀ other ∈ onOutput, Calm kept origin other)
    (calmInput : ∀ other ∈ onInput, Calm kept origin other)
    (reads : ∀ id buffer, operation = .read id buffer → ∀ frames run, kept run →
      kept (readOpen id frames run).2) :
    Leads (Run.Abides kept origin) (operation.performAmid onOutput onInput)
      ([], operation.transfers) fun _ after => after = ([], operation.transfers) := by
  cases operation with
  | openStream direction devices request =>
      refine (abides_openStream upheld direction devices request).then fun opened => ?_
      cases opened <;> exact leads_pure _ rfl
  | close id => exact (abides_close upheld id).then fun _ => leads_pure _ rfl
  | standby id => exact (abides_standby upheld id).then fun _ => leads_pure _ rfl
  | applyParameters id text =>
      exact (abides_applyParameters upheld id text).then fun _ => leads_pure _ rfl
  | answerKeys id keys => exact (abides_answerKeys upheld id keys).then fun _ => leads_pure _ rfl
  | write id bytes =>
      refine (abides_writeAmid upheld calmInput bytes (List.mem_singleton_self _)).then
        fun outcome => ?_
      cases outcome <;> exact leads_pure _ rfl
  | read id buffer =>
      refine (abides_readAmid upheld calmOutput buffer (List.mem_singleton_self _)
        (reads id buffer rfl)).then fun answer => ?_
      obtain ⟨outcome, filled⟩ := answer
      cases outcome <;> exact leads_pure _ rfl
  | setMode mode =>
      exact (abides_setModeAmid upheld calmOutput calmInput mode).then fun _ => leads_pure _ rfl
  | setMuted muted => exact (abides_setMuted upheld muted).then fun _ => leads_pure _ rfl
  | setCallVolume volume =>
      exact (abides_setCallVolume upheld volume).then fun _ => leads_pure _ rfl
  | setMediaVolume volume =>
      exact (abides_setMediaVolume upheld volume).then fun _ => leads_pure _ rfl
  | setCallDevices devices =>
      exact (abides_setCallDevices upheld devices).then fun _ => leads_pure _ rfl
  | ask query => exact (abides_find upheld query).then fun _ => leads_pure _ rfl
  | dropHardware => exact absurd rfl stays

/-- What every operation keeps. -/
theorem keeps_performAmid (upheld : Upheld kept) {operation : Operation} {run : Run}
    (possible : operation.Possible run.machine) {onOutput onInput : List (Act Unit)}
    (calmOutput : ∀ other ∈ onOutput, Calm kept run other)
    (calmInput : ∀ other ∈ onInput, Calm kept run other)
    (reads : ∀ id buffer, operation = .read id buffer → ∀ frames run, kept run →
      kept (readOpen id frames run).2) (staffed : run.machine.Staffed) (holds : kept run) :
    (operation.performAmid onOutput onInput run).2.machine.Staffed ∧
      kept (operation.performAmid onOutput onInput run).2 := by
  by_cases drops : operation = .dropHardware
  · subst drops
    exact dropHardware_keeps upheld staffed holds
  · have started : Run.Abides kept run run ([], operation.transfers) :=
      ⟨⟨[], (List.append_nil _).symm, .none []⟩, staffed, possible.bears, holds⟩
    obtain ⟨_, abides, -⟩ :=
      abides_performAmid upheld drops calmOutput calmInput reads run started
    exact ⟨abides.staffed, abides.holds⟩

end Operation

/-! ## Others -/

/-- What others may make of a state: streams keep their directions, more may be opened, and those
that are open have the direction in which they are open. -/
def Steady (f : Machine → Machine) : Prop :=
  ∀ machine : Machine, machine.Staffed → (f machine).Staffed ∧ machine.ways <+: (f machine).ways

theorem Steady.calm {f : Machine → Machine} (steady : Steady f) {origin : Run} :
    Act.Calm (fun _ => True) origin (Act.change f) :=
  fun _ _ => Act.abides_change (fun _ _ => trivial)
    (fun machine staffed => (steady machine staffed).1)
    fun machine staffed => (steady machine staffed).2

/-- The directions of streams are in the ledger. -/
theorem ways_of_ledger {run after : Run} (same : after.ledger = run.ledger) :
    after.machine.ways = run.machine.ways := by
  have ways : ∀ run : Run, run.ledger.streams.map Prod.fst = run.machine.ways :=
    fun _ => List.map_map
  rw [← ways, ← ways, same]

/-- Streams keep their directions when there are more of them. -/
theorem upheld_ways (ways : List Direction) : Upheld fun run => ways <+: run.machine.ways where
  of_eq {run after} streams _ holds := by
    have kept : after.machine.ways = run.machine.ways :=
      congrArg (List.map Stream.direction) streams
    exact kept ▸ holds
  changed {f} id same run holds := by
    have kept : (Act.changeStream id f run).2.machine.ways = run.machine.ways :=
      map_modify_of_unseen (fun stream => (same stream).1) run.machine.streams id
    exact kept ▸ holds
  opened id run holds := ways_of_ledger (Act.keeps_ledger_openLocked id run) ▸ holds
  joined _ _ holds := List.IsPrefix.trans holds ⟨_, List.map_append.symm⟩

/-- What an operation makes of a state in which it is possible. -/
def Operation.remake (operation : Operation) (machine : Machine) : Machine :=
  if operation.Possible machine then (operation.perform { machine := machine }).2.machine
  else machine

/-- Others may perform any operation. -/
theorem Operation.steady_remake (operation : Operation) : Steady operation.remake := by
  intro machine staffed
  unfold remake
  split
  · rename_i possible
    rw [← performAmid_nil]
    have none : ∀ other ∈ ([] : List (Act Unit)),
      Act.Calm (fun run => machine.ways <+: run.machine.ways) { machine := machine } other := nofun
    refine keeps_performAmid (upheld_ways machine.ways) possible none none ?_ staffed
      (List.prefix_refl _)
    intro id _ _ frames run holds
    exact ways_of_ledger (Act.keeps_ledger_readOpen id frames run) ▸ holds
  · exact ⟨staffed, List.prefix_refl _⟩

/-- Operations that are performed one after the other, each under its own conditions, while others
act on the state during their waits for playback streams and for capture streams. -/
inductive BusySession (first : Run) : List Operation → Run → Prop
  | start : BusySession first [] first
  | step {operations : List Operation} {run : Run} (earlier : BusySession first operations run)
      (conditions : Conditions) {operation : Operation}
      (possible : operation.Possible run.machine) {onOutput onInput : List (Machine → Machine)}
      (steadyOutput : ∀ other ∈ onOutput, Steady other)
      (steadyInput : ∀ other ∈ onInput, Steady other) :
      BusySession first (operations ++ [operation])
        (operation.performAmid (onOutput.map Act.change) (onInput.map Act.change)
          (run.under conditions)).2

/-- What others do while an operation waits leaves the locks that its thread holds. -/
theorem calm_of_steady {others : List (Machine → Machine)} (steady : ∀ other ∈ others, Steady other)
    {origin : Run} : ∀ other ∈ others.map Act.change, Act.Calm (fun _ => True) origin other := by
  intro other member
  obtain ⟨f, among, rfl⟩ := List.mem_map.mp member
  exact (steady f among).calm

/-- Sessions leave the audio hardware staffed. -/
theorem BusySession.staffed {first last : Run} {operations : List Operation}
    (session : BusySession first operations last) (staffed : first.machine.Staffed) :
    last.machine.Staffed := by
  induction session with
  | start => exact staffed
  | step earlier conditions possible steadyOutput steadyInput ih =>
      refine (Operation.keeps_performAmid upheld_true ?_ (calm_of_steady steadyOutput)
        (calm_of_steady steadyInput) (fun _ _ _ _ _ _ => trivial) ?_ trivial).1
      · exact possible.under conditions
      · exact ih.extended rfl rfl (List.prefix_refl _)

/-- Sessions without others are busy sessions. -/
theorem Session.busy {first last : Run} {operations : List Operation}
    (session : Session first operations last) : BusySession first operations last := by
  induction session with
  | start => exact .start
  | step earlier conditions possible ih =>
      have next := ih.step conditions possible (List.forall_mem_nil _) (List.forall_mem_nil _)
      rwa [List.map_nil, Operation.performAmid_nil] at next

/-- Audio hardware that was built is staffed. -/
theorem Run.Built.staffed {run : Run} (built : run.Built) : run.machine.Staffed := by
  obtain ⟨settings, tables, shown⟩ := built.shows_vacant
  have output := congrArg (fun core => core.hardware.output) shown.core_eq
  have inputs := congrArg (fun core => core.hardware.inputs) shown.core_eq
  refine ⟨fun id filled => ?_, fun id member => ?_⟩
  · cases filled.symm.trans output
  · rw [show run.machine.hardware.inputs = [] from inputs] at member
    cases member

/-- **The discipline of locks.** From every state that a session with others can reach, whatever the
drivers do and whatever others make of the state during its waits, every operation but dropping the
audio hardware lawfully takes locks, gives them back, calls drivers and tells events, from no lock
held to no lock held. -/
theorem BusySession.lawful {first last : Run} {operations : List Operation} (built : first.Built)
    (session : BusySession first operations last) (conditions : Conditions) {operation : Operation}
    (possible : operation.Possible last.machine) (stays : operation ≠ .dropHardware)
    {onOutput onInput : List (Machine → Machine)} (steadyOutput : ∀ other ∈ onOutput, Steady other)
    (steadyInput : ∀ other ∈ onInput, Steady other) :
    ∃ moments, (operation.performAmid (onOutput.map Act.change) (onInput.map Act.change)
        (last.under conditions)).2.history = last.history ++ moments ∧ Course [] moments [] := by
  have staffed : (last.under conditions).machine.Staffed :=
    (session.staffed built.staffed).extended rfl rfl (List.prefix_refl _)
  have started : Run.Abides (fun _ => True) (last.under conditions) (last.under conditions)
      ([], operation.transfers) :=
    ⟨⟨[], (List.append_nil _).symm, .none []⟩, staffed, (possible.under conditions).bears, trivial⟩
  obtain ⟨_, abides, rfl⟩ := Operation.abides_performAmid upheld_true stays
    (calm_of_steady steadyOutput) (calm_of_steady steadyInput) (fun _ _ _ _ _ _ => trivial)
    _ started
  exact abides.course

/-- A capture stream in standby beside a playback stream that plays. -/
def Run.playingBeside : Run :=
  Run.playing.next (.openStream .capture ⟨0x40000⟩ {})

/-- One stream plays beside another that is to capture. -/
theorem Session.playingBeside : Session Run.stock
    [.openStream .playback ⟨2⟩ {}, .write 0 4, .openStream .capture ⟨0x40000⟩ {}]
    Run.playingBeside := by
  have opened : Session Run.stock [.openStream .playback ⟨2⟩ {}]
      (Run.stock.next (.openStream .playback ⟨2⟩ {})) :=
    Session.start.next _ (by decide +kernel)
  have played : Session Run.stock [.openStream .playback ⟨2⟩ {}, .write 0 4] Run.playing :=
    opened.next _ (by decide +kernel)
  exact played.next _ (by decide +kernel)

/-- A read that has to wait for the playback stream, while somebody puts that stream to standby. -/
theorem BusySession.lawful_playingBeside :
    Operation.Possible Run.playingBeside.machine (.read 1 (List.replicate 8 0)) ∧
    (∀ other ∈ [(Operation.standby 0).remake], Steady other) ∧
    ∃ moments, ((Operation.read 1 (List.replicate 8 0)).performAmid
        ([(Operation.standby 0).remake].map Act.change) [] (Run.playingBeside.under {})).2.history =
          Run.playingBeside.history ++ moments ∧
      .lock (.stream 0) ∈ moments.map Moment.what ∧ Course [] moments [] := by
  have possible : Operation.Possible Run.playingBeside.machine (.read 1 (List.replicate 8 0)) := by
    decide +kernel
  have steady : ∀ other ∈ [(Operation.standby 0).remake], Steady other := by
    intro other member
    rw [List.mem_singleton.mp member]
    exact Operation.steady_remake _
  have lawful := BusySession.lawful Run.built_stock
    Session.playingBeside.busy {} possible nofun steady (List.forall_mem_nil _)
  rw [List.map_nil] at lawful
  obtain ⟨moments, longer, course⟩ := lawful
  have waited : .lock (.stream 0) ∈ (((Operation.read 1 (List.replicate 8 0)).performAmid
        ([(Operation.standby 0).remake].map Act.change) []
          (Run.playingBeside.under {})).2.history.drop
            Run.playingBeside.history.length).map Moment.what := by
    decide +kernel
  refine ⟨possible, steady, moments, longer, ?_, course⟩
  rw [longer, List.drop_left] at waited
  exact waited

end PhoneAudio
