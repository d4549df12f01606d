import PhoneAudio.Proofs.Handset.CaptureDevices
import PhoneAudio.Proofs.Handset.Generation
import PhoneAudio.Proofs.Text.Integer
import PhoneAudio.Proofs.Text.KeyValues

/-!
# Selecting devices

What setting the parameters of a stream comes to, from its text on
(`PhoneAudio.Session.tuned_applyParameters`). A pair of the routing key and a number of 32 bits
selects devices, and all other pairs are refused, but only after the devices were selected. A stream
that gets other devices is put to standby, except for playback in a call. Both directions follow the
same rules but for this.
-/

namespace PhoneAudio

namespace KeyValues

variable {pairs : KeyValues} {key value : String}

/-- The value that is found is that of a pair. -/
theorem get?_eq_some_iff (distinct : pairs.keys.Nodup) :
    pairs.get? key = some value ↔ (key, value) ∈ pairs.entries := by
  have found : ∀ {value : String}, pairs.get? key = some value → (key, value) ∈ pairs.entries := by
    intro value read
    obtain ⟨entry, first, rfl⟩ := Option.map_eq_some_iff.mp read
    have same : entry.1 = key := by simpa using List.find?_some first
    exact same ▸ List.mem_of_find?_eq_some first
  refine ⟨found, fun member => ?_⟩
  cases read : pairs.get? key with
  | none => exact absurd (List.mem_map_of_mem member) (get?_eq_none_iff.mp read)
  | some other =>
      have same := List.inj_on_of_nodup_map distinct (found read) member rfl
      exact congrArg (fun entry => some entry.2) same

/-- Taking a key out leaves all other pairs. -/
theorem mem_entries_erase (distinct : pairs.keys.Nodup) {entry : String × String} :
    entry ∈ (pairs.erase key).2.entries ↔ entry ∈ pairs.entries ∧ entry.1 ≠ key := by
  constructor
  · intro member
    refine ⟨List.mem_of_mem_eraseP member, fun same => ?_⟩
    have there : entry.1 ∈ (pairs.erase key).2.keys := List.mem_map_of_mem member
    rw [same, keys_erase] at there
    exact distinct.not_mem_erase there
  · rintro ⟨member, other⟩
    exact (List.mem_eraseP_of_neg (by simp [other])).mpr member

/-- Pairs select devices: the value under the routing key is their number. -/
def Selects (pairs : KeyValues) (devices : Devices) : Prop :=
  ∃ value, ("routing", value) ∈ pairs.entries ∧ Text.Denotes value.toList devices.bits.toNat

/-- Devices are selected if and only if the pairs select them. -/
theorem selectedDevices?_eq_some_iff (distinct : pairs.keys.Nodup) {devices : Devices} :
    selectedDevices? pairs = some devices ↔ pairs.Selects devices := by
  obtain ⟨bits⟩ := devices
  have bound := bits.toNat_lt
  simp only [selectedDevices?, int?, Option.bind_eq_some_iff, get?_eq_some_iff distinct,
    Text.int64?_eq_some_iff, Option.ite_none_right_eq_some, Option.some.injEq, Devices.mk.injEq]
  constructor
  · rintro ⟨number, ⟨value, member, denotes, -⟩, range, rfl⟩
    have same : ((number.toNat.toUInt32.toNat : Nat) : Int) = number := by
      rw [Nat.toUInt32_eq, UInt32.toNat_ofNat']
      omega
    exact ⟨value, member, same.symm ▸ denotes⟩
  · rintro ⟨value, member, denotes⟩
    dsimp only at denotes
    refine ⟨_, ⟨value, member, denotes, by omega, by omega⟩, by omega, ?_⟩
    rw [Int.toNat_natCast, Nat.toUInt32_eq, UInt32.ofNat_toNat]

/-- The pairs that are left are those but the one that selects devices. -/
theorem mem_unconsumed (distinct : pairs.keys.Nodup) {entry : String × String} :
    entry ∈ pairs.unconsumed.entries ↔
      entry ∈ pairs.entries ∧ ¬ (entry.1 = "routing" ∧ ∃ devices, pairs.Selects devices) := by
  have selects : (selectedDevices? pairs).isSome ↔ ∃ devices, pairs.Selects devices := by
    simp only [Option.isSome_iff_exists, selectedDevices?_eq_some_iff distinct]
  unfold unconsumed
  split
  · rename_i some
    rw [mem_entries_erase distinct]
    simp only [selects.mp some, and_true]
    rfl
  · rename_i none
    simp only [mt selects.mpr none, and_false, not_false_eq_true, and_true]

/-- What is left of the pairs is in the same order. -/
theorem unconsumed_sublist (pairs : KeyValues) :
    pairs.unconsumed.entries.Sublist pairs.entries := by
  unfold unconsumed
  split
  · exact List.eraseP_sublist
  · exact List.Sublist.refl _

/-- Nothing is left if there is nothing, or only the pair that selects devices. -/
theorem isEmpty_unconsumed (distinct : pairs.keys.Nodup) :
    pairs.unconsumed.isEmpty = true ↔ pairs.entries = [] ∨
      ∃ value devices, pairs.entries = [("routing", value)] ∧ pairs.Selects devices := by
  have left : pairs.unconsumed.isEmpty = true ↔ ∀ entry ∈ pairs.entries,
      entry.1 = "routing" ∧ ∃ devices, pairs.Selects devices := by
    rw [isEmpty, List.isEmpty_iff, List.eq_nil_iff_forall_not_mem]
    refine forall_congr' fun entry => ?_
    rw [mem_unconsumed distinct, not_and, not_not]
  rw [left]
  constructor
  · intro all
    rcases entries : pairs.entries with - | ⟨⟨key, value⟩, rest⟩
    · exact .inl rfl
    · rw [entries] at all
      obtain ⟨rfl, devices, selects⟩ := all _ List.mem_cons_self
      -- a second pair would have the same key
      have single : rest = [] := by
        refine List.eq_nil_iff_forall_not_mem.mpr fun entry member => ?_
        have same := (all entry (List.mem_cons_of_mem _ member)).1
        rw [keys, entries, List.map_cons, List.nodup_cons] at distinct
        exact distinct.1 (List.mem_map.mpr ⟨entry, member, same⟩)
      exact .inr ⟨value, devices, by rw [single], selects⟩
  · rintro (none | ⟨value, devices, single, selects⟩) entry member
    · rw [none] at member
      cases member
    · rw [single, List.mem_singleton] at member
      exact ⟨congrArg Prod.fst member, devices, selects⟩

end KeyValues

/-- What setting parameters in a phone mode answers, and how it leaves a stream. It succeeds if and
only if no pair is left but the one that selects devices, and otherwise names those that are left.
Devices that are selected are the stream's afterwards, unless there are none of them. The stream is
put to standby if its devices change, except for playback in a call. -/
structure Stream.Tuned (mode : PhoneMode) (pairs : KeyValues) (before after : Stream)
    (answer : Except AudioError Unit) : Prop where
  ok_iff : answer = .ok () ↔ pairs.entries = [] ∨
    ∃ value devices, pairs.entries = [("routing", value)] ∧ pairs.Selects devices
  refused : ∀ error, answer = .error error → ∃ rest : KeyValues,
    rest.entries.Sublist pairs.entries ∧
      (∀ entry, entry ∈ rest.entries ↔
        entry ∈ pairs.entries ∧ ¬ (entry.1 = "routing" ∧ ∃ devices, pairs.Selects devices)) ∧
      error = .badValue s!"unsupported {before.direction.word} parameters: {rest.toText}"
  selected : ∀ devices, pairs.Selects devices →
    after.devices = if devices.bits = 0 then before.devices else devices
  unselected : (∀ devices, ¬ pairs.Selects devices) → after.devices = before.devices
  sleeps : after.devices ≠ before.devices → ¬ (before.direction = .playback ∧ mode = .inCall) →
    after.status = { before.status with
      standby := true, generation := before.status.generation + 1 } ∧ after.pcm = none
  stays : after.devices = before.devices ∨ before.direction = .playback ∧ mode = .inCall →
    after.status = before.status ∧ after.pcm = before.pcm

namespace Stream

variable {mode : PhoneMode} {devices : Devices} {stream : Stream}

theorem direction_selecting : (stream.selecting mode devices).direction = stream.direction := by
  unfold selecting
  split_ifs <;> rfl

/-- No devices select those that were there. -/
theorem devices_selecting :
    (stream.selecting mode devices).devices =
      if devices.bits = 0 then stream.devices else devices := by
  have empty : devices.isEmpty = true ↔ devices.bits = 0 := beq_iff_eq
  unfold selecting
  simp only [empty]
  split_ifs with none follows same
  · rfl
  · rfl
  · exact same
  · rfl

/-- Selecting other devices puts a stream to standby, except in a call. -/
theorem sleeps_selecting (changed : (stream.selecting mode devices).devices ≠ stream.devices)
    (away : ¬ (stream.direction = .playback ∧ mode = .inCall)) :
    stream.selecting mode devices = stream.asleep.turned devices := by
  unfold selecting at changed ⊢
  split_ifs at changed ⊢ with none same
  · exact absurd rfl changed
  · exact absurd rfl changed
  · rfl

/-- Otherwise selecting devices changes no more than them. -/
theorem stays_selecting (kept : (stream.selecting mode devices).devices = stream.devices ∨
      stream.direction = .playback ∧ mode = .inCall) :
    (stream.selecting mode devices).status = stream.status ∧
      (stream.selecting mode devices).pcm = stream.pcm := by
  unfold selecting at kept ⊢
  split_ifs at kept ⊢ with none follows same
  · exact ⟨rfl, rfl⟩
  · exact ⟨rfl, rfl⟩
  · exact ⟨rfl, rfl⟩
  · rcases kept with kept | call
    · exact absurd kept.symm same
    · exact absurd call follows

/-- What selecting comes to is seen in the core. -/
theorem core_selecting :
    (stream.selecting mode devices).core = stream.core.selecting mode devices := by
  unfold selecting
  simp only [apply_ite core]
  rfl

end Stream

/-- Parameters are refused unless nothing is left of them. -/
theorem refusing_eq_ok_iff {direction : Direction} {rest : KeyValues} :
    refusing direction rest = .ok () ↔ rest.isEmpty = true := by
  unfold refusing
  split_ifs with none
  · exact iff_of_true rfl none
  · exact iff_of_false nofun none

/-- The refusal names what is left. -/
theorem eq_of_refusing {direction : Direction} {rest : KeyValues} {error : AudioError}
    (refused : refusing direction rest = .error error) :
    error = .badValue s!"unsupported {direction.word} parameters: {rest.toText}" := by
  unfold refusing at refused
  split_ifs at refused
  exact (Except.error.inj refused).symm

/-- A stream as pairs leave it. -/
def Stream.selectingFrom (mode : PhoneMode) (pairs : KeyValues) (stream : Stream) : Stream :=
  (selectedDevices? pairs).elim stream fun devices => stream.selecting mode devices

theorem Stream.direction_selectingFrom (mode : PhoneMode) (pairs : KeyValues) (stream : Stream) :
    (stream.selectingFrom mode pairs).direction = stream.direction := by
  unfold selectingFrom
  cases selectedDevices? pairs with
  | none => rfl
  | some devices => exact direction_selecting

/-- What pairs select is seen in the core. -/
theorem Stream.core_selectingFrom (mode : PhoneMode) (pairs : KeyValues) (stream : Stream) :
    (stream.selectingFrom mode pairs).core = stream.core.selectingFrom mode pairs := by
  unfold selectingFrom
  cases selectedDevices? pairs with
  | none => rfl
  | some devices => exact core_selecting

/-- A stream whose core selects what the pairs say is tuned. -/
theorem Stream.tuned_of_core {mode : PhoneMode} {pairs : KeyValues} (distinct : pairs.keys.Nodup)
    {before after : Stream} (core : after.core = (before.selectingFrom mode pairs).core) :
    before.Tuned mode pairs after (refusing before.direction pairs.unconsumed) := by
  obtain ⟨devices, status, pcm⟩ : after.devices = (before.selectingFrom mode pairs).devices ∧
      after.status = (before.selectingFrom mode pairs).status ∧
      after.pcm = (before.selectingFrom mode pairs).pcm := by
    have seen := congrArg (fun stream => (stream.devices, stream.status, stream.pcm)) core
    simpa only [Stream.core, Prod.mk.injEq] using seen
  have selects : ∀ chosen, selectedDevices? pairs = some chosen ↔ pairs.Selects chosen :=
    fun _ => KeyValues.selectedDevices?_eq_some_iff distinct
  refine ⟨?_, fun error refused => ?_, fun chosen chooses => ?_, fun none => ?_,
    fun changed away => ?_, fun kept => ?_⟩
  · rw [refusing_eq_ok_iff]
    exact KeyValues.isEmpty_unconsumed distinct
  · exact ⟨pairs.unconsumed, pairs.unconsumed_sublist,
      fun entry => KeyValues.mem_unconsumed distinct, eq_of_refusing refused⟩
  · rw [devices, selectingFrom, (selects chosen).mpr chooses]
    exact devices_selecting
  · have absent : selectedDevices? pairs = .none :=
      Option.eq_none_iff_forall_ne_some.mpr fun chosen => mt (selects chosen).mp (none chosen)
    rw [devices, selectingFrom, absent]
    rfl
  · rw [devices] at changed
    rw [status, pcm]
    unfold selectingFrom at changed ⊢
    generalize selectedDevices? pairs = choice at changed ⊢
    cases choice with
    | none => exact absurd rfl changed
    | some chosen =>
        rw [Option.elim_some] at changed ⊢
        rw [sleeps_selecting changed away]
        exact ⟨rfl, rfl⟩
  · rw [devices] at kept
    rw [status, pcm]
    unfold selectingFrom at kept ⊢
    generalize selectedDevices? pairs = choice at kept ⊢
    cases choice with
    | none => exact ⟨rfl, rfl⟩
    | some chosen => exact stays_selecting kept

namespace Machine

/-- Setting the parameters of a stream as the stream sees it. -/
theorem stream_tuned {machine : Machine} (present : machine.hardware.present = true)
    {id : StreamId} (inside : id < machine.streams.length) (text : String) :
    (machine.tuned id text).stream id =
      (machine.stream id).selectingFrom machine.hardware.mode (KeyValues.ofText text) := by
  unfold tuned Stream.selectingFrom
  rw [if_pos present]
  cases selectedDevices? (KeyValues.ofText text) with
  | none => rfl
  | some devices => exact stream_selected inside devices

end Machine

namespace Act

/-- A stream answers the routing key with the number of its devices. -/
theorem answerKeys_routing (id : StreamId) (run : Run) :
    (answerKeys id "routing" run).1 =
      "routing=" ++ toString (run.machine.stream id).devices.bits.toNat := by
  have asked : KeyValues.ofText "routing" = ⟨[("routing", "")]⟩ := by decide +kernel
  have there : (KeyValues.mk [("routing", "")]).contains routingKey = true := by decide
  have kept : ((lock (.stream id) run).2.machine.stream id).posting =
      (run.machine.stream id).posting := by
    rw [Machine.posting_eq, (silent_lock _).fixed.postings, ← Machine.posting_eq]
  have devices : ((lock (.stream id) run).2.machine.stream id).devices =
      (run.machine.stream id).devices := congrArg Prod.snd kept
  unfold answerKeys
  rw [asked]
  dsimp only
  rw [if_pos there]
  simp only [bind_apply, stream_apply, pure_apply, devices]
  rfl

end Act

/-- **Selecting devices.** Setting the parameters of an open stream, whatever went before, answers
and leaves the stream as the pairs of the text say. Asked for them afterwards, the stream answers
with the number of its devices. -/
theorem Session.tuned_applyParameters {first last : Run} {operations : List Operation}
    (built : first.Built) (session : Session first operations last) {id : StreamId}
    (isOpen : last.machine.isOpen id = true) (conditions : Conditions) (text : String) :
    let done := Act.applyParameters id text (last.under conditions)
    let after := done.2.machine.stream id
    (last.machine.stream id).Tuned last.machine.hardware.mode (KeyValues.ofText text) after done.1 ∧
      (Act.answerKeys id "routing" done.2).1 =
        "routing=" ++ toString after.devices.bits.toNat := by
  intro done after
  obtain ⟨start, shown, sound, -⟩ := built.shows
  obtain ⟨state, shows, reached⟩ := session.advances shown sound
  have opened : state.isOpen id = true := (shows.isOpen id).symm.trans isOpen
  have inside := reached.sound.inside_of_isOpen opened
  have present : state.hardware.present = true := by
    by_contra absent
    rw [reached.sound.isOpen_of_absent (Bool.eq_false_of_not_eq_true absent) id] at opened
    cases opened
  obtain ⟨_, shown, rfl, answered⟩ := Act.leads_applyParameters_answer
    (reached.sound.calm id inside) text _ (shows.under conditions)
  refine ⟨?_, Act.answerKeys_routing id done.2⟩
  have mode : state.hardware.mode = last.machine.hardware.mode := shows.mode.symm
  have seen : (last.machine.stream id).core = state.stream id := shows.stream id
  have tuned := Machine.stream_tuned present inside text
  rw [mode, ← seen, ← Stream.core_selectingFrom] at tuned
  have answer := answered present
  rw [tuned] at answer
  have direction := Stream.direction_selectingFrom last.machine.hardware.mode
    (KeyValues.ofText text) (last.machine.stream id)
  have refused : done.1 = refusing (last.machine.stream id).direction
      (KeyValues.ofText text).unconsumed := direction ▸ answer
  rw [refused]
  exact Stream.tuned_of_core (KeyValues.nodup_keys_ofText text) ((shown.stream id).trans tuned)

/-- What a playing stream does when it is given the headset and a pair that is refused. -/
def Run.toHeadset : Except AudioError Unit × Run :=
  Act.applyParameters 0 "routing=+4;volume=3" (Run.playing.under {})

/-- The stream is on the headset and in standby, although the answer is an error. -/
theorem Session.tuned_applyParameters_playing : Run.playing.machine.isOpen 0 = true ∧
    Run.toHeadset.1 = .error (.badValue "unsupported output parameters: volume=3") ∧
    (Run.toHeadset.2.machine.stream 0).devices = ⟨4⟩ ∧
    (Run.toHeadset.2.machine.stream 0).status.standby = true ∧
    (Act.answerKeys 0 "routing" Run.toHeadset.2).1 = "routing=4" := by
  have session : Session Run.stock [.openStream .playback ⟨2⟩ {}, .write 0 4] Run.playing :=
    (Session.start.next (.openStream .playback ⟨2⟩ {}) (by decide +kernel)).next (.write 0 4)
      (by decide +kernel)
  have isOpen : Run.playing.machine.isOpen 0 = true := by decide +kernel
  have outside : Run.playing.machine.hardware.mode ≠ .inCall := by decide +kernel
  have before : (Run.playing.machine.stream 0).devices ≠ ⟨4⟩ := by decide +kernel
  have refused : Run.toHeadset.1 =
      .error (.badValue "unsupported output parameters: volume=3") := by decide +kernel
  have selects : (KeyValues.ofText "routing=+4;volume=3").Selects ⟨4⟩ :=
    (KeyValues.selectedDevices?_eq_some_iff (KeyValues.nodup_keys_ofText _)).mp (by decide +kernel)
  have law := Session.tuned_applyParameters Run.built_stock session isOpen {} "routing=+4;volume=3"
  have same : Act.applyParameters 0 "routing=+4;volume=3" (Run.playing.under {}) =
      Run.toHeadset := rfl
  rw [same] at law
  generalize Run.toHeadset = done at law refused ⊢
  obtain ⟨tuned, answer⟩ := law
  have devices := tuned.selected ⟨4⟩ selects
  rw [if_neg (by decide)] at devices
  have changed : (done.2.machine.stream 0).devices ≠ (Run.playing.machine.stream 0).devices := by
    rw [devices]
    exact before.symm
  have asleep := (tuned.sleeps changed fun call => outside call.2).1
  refine ⟨isOpen, refused, devices, ?_, ?_⟩
  · rw [asleep]
  · rw [answer, devices]
    rfl

end PhoneAudio
