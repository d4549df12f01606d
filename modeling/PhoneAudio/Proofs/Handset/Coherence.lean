import PhoneAudio.Proofs.Handset.Session

/-!
# Standby and PCMs

Standby flags and PCMs agree between operations (`PhoneAudio.Session.coherent`): a stream is in
standby exactly when it has no PCM, so the codec has as many PCMs open as streams are out of
standby, and one at most for playback. This holds whatever the drivers do, and streams
that were closed are in standby for good.
-/

namespace PhoneAudio

/-- Standby, PCMs and the PCM driver agree. -/
structure Machine.Coherent (machine : Machine) : Prop where
  standby : ∀ id < machine.streams.length,
    (machine.stream id).status.standby = (machine.stream id).pcm.isNone
  closed : ∀ id < machine.streams.length,
    (machine.stream id).status.detached = !machine.isOpen id
  asleep : ∀ id < machine.streams.length,
    (machine.stream id).status.detached = true → (machine.stream id).status.standby = true
  live : ∀ direction, machine.drivers.pcm.liveOn .codec direction =
    machine.streams.countP fun stream => stream.direction = direction && stream.isActive
  single : machine.drivers.pcm.liveOn .codec .playback ≤ 1
  calm : ∀ id < machine.streams.length, (machine.stream id).status.lockWanted = false

/-- At most one element of a list has a property that only one place has. -/
theorem countP_le_one {α : Type} {p : α → Bool} {list : List α}
    (unique : ∀ i j, (first : i < list.length) → (second : j < list.length) →
      p list[i] = true → p list[j] = true → i = j) : list.countP p ≤ 1 := by
  induction list with
  | nil => exact Nat.zero_le _
  | cons head tail ih =>
      rw [List.countP_cons]
      by_cases holds : p head = true
      · have none : tail.countP p = 0 := by
          refine List.countP_eq_zero.mpr fun a member other => ?_
          obtain ⟨i, inside, rfl⟩ := List.mem_iff_getElem.mp member
          have same := unique 0 (i + 1) (Nat.zero_lt_succ _) (Nat.succ_lt_succ inside) holds other
          exact absurd same.symm (Nat.succ_ne_zero i)
        rw [none, if_pos holds]
      · rw [if_neg holds]
        refine ih fun i j first second left right => Nat.succ.inj ?_
        exact unique (i + 1) (j + 1) (Nat.succ_lt_succ first) (Nat.succ_lt_succ second) left right

namespace Machine

variable {machine : Machine}

/-- A stream that is there is found at its place. -/
theorem stream_getElem (machine : Machine) {id : Nat} (inside : id < machine.streams.length) :
    machine.streams[id] = machine.stream id :=
  (List.getD_eq_getElem _ _ inside).symm

/-- In a sound state, the streams that hold a PCM are those out of standby. -/
theorem Sound.isSome_pcm (sound : machine.Sound []) {stream : Stream}
    (member : stream ∈ machine.streams) : stream.pcm.isSome = stream.isActive := by
  obtain ⟨id, inside, rfl⟩ := List.mem_iff_getElem.mp member
  rw [machine.stream_getElem inside, Stream.isActive, sound.quiet id inside List.not_mem_nil,
    Option.not_isNone]

/-- In a sound state, streams out of standby are open. -/
theorem Sound.isOpen_of_active (sound : machine.Sound []) {id : StreamId}
    (inside : id < machine.streams.length) (active : (machine.stream id).isActive = true) :
    machine.isOpen id = true := by
  have attached := sound.attached id inside
  by_cases detached : (machine.stream id).status.detached = true
  · rw [Stream.isActive, sound.closed id inside detached] at active
    cases active
  · rw [Bool.not_eq_true] at detached
    rw [detached] at attached
    simpa using attached.symm

/-- In a sound state, only the open playback stream can play. -/
theorem Sound.output_of_active (sound : machine.Sound []) {id : StreamId}
    (inside : id < machine.streams.length) (playback : (machine.stream id).direction = .playback)
    (active : (machine.stream id).isActive = true) : machine.hardware.output = some id := by
  obtain ⟨-, output⟩ | ⟨capture, -⟩ := sound.isOpen_cases (sound.isOpen_of_active inside active)
  · exact output
  · rw [playback] at capture
    cases capture

/-- At most one playback stream is active. -/
theorem Sound.countP_playing (sound : machine.Sound []) :
    (machine.streams.countP fun stream => stream.direction = .playback && stream.isActive) ≤ 1 := by
  refine countP_le_one fun i j first second left right => ?_
  rw [machine.stream_getElem first, Bool.and_eq_true, decide_eq_true_eq] at left
  rw [machine.stream_getElem second, Bool.and_eq_true, decide_eq_true_eq] at right
  have here := sound.output_of_active first left.1 left.2
  have there := sound.output_of_active second right.1 right.2
  exact Option.some.inj (here.symm.trans there)

end Machine

/-- A run that shows a sound state is coherent. -/
theorem Run.Shows.coherent_of_sound {run : Run} {state : Machine} (shows : run.Shows state)
    (sound : state.Sound []) : run.machine.Coherent := by
  have length := shows.length
  have status := shows.status
  have pcm : ∀ id, (run.machine.stream id).pcm = (state.stream id).pcm := by
    intro id
    rw [← shows.stream id]
    rfl
  have streams : state.streams = run.machine.streams.map Stream.core := by
    rw [← shows.core_eq]
    rfl
  have live : ∀ direction, run.machine.drivers.pcm.liveOn .codec direction =
      state.streams.countP fun stream => stream.direction = direction && stream.isActive := by
    intro direction
    unfold Bench.Pcm.liveOn
    rw [shows.tallied.live_eq]
    refine List.countP_congr fun stream member => ?_
    rw [sound.isSome_pcm member]
  refine ⟨?_, ?_, ?_, ?_, ?_, ?_⟩
  · intro id inside
    rw [status, pcm]
    exact sound.quiet id (length ▸ inside) List.not_mem_nil
  · intro id inside
    rw [status, shows.isOpen]
    exact sound.attached id (length ▸ inside)
  · intro id inside
    rw [status]
    exact sound.closed id (length ▸ inside)
  · intro direction
    rw [live, streams, List.countP_map]
    rfl
  · rw [live]
    exact sound.countP_playing
  · intro id inside
    rw [status]
    exact sound.calm id (length ▸ inside)

/-- **Coherence.** In every session, standby flags and PCMs agree after each operation, and streams
that were closed at some time are closed and in standby ever after. -/
theorem Session.coherent {first middle last : Run} {earlier later : List Operation}
    (built : first.Built) (before : Session first earlier middle)
    (after : Session middle later last) :
    last.machine.Coherent ∧ ∀ id < middle.machine.streams.length,
      (middle.machine.stream id).status.detached = true →
        (last.machine.stream id).status.detached = true ∧
          (last.machine.stream id).status.standby = true := by
  obtain ⟨start, shown, sound, -⟩ := built.shows
  obtain ⟨state, shows, reached⟩ := before.advances shown sound
  obtain ⟨final, shown, advanced⟩ := after.advances shows reached.sound
  have here := shows.coherent_of_sound reached.sound
  have there := shown.coherent_of_sound advanced.sound
  refine ⟨there, fun id inside detached => ?_⟩
  have closed : state.isOpen id = false := by
    rw [← shows.isOpen, ← Bool.not_eq_true', ← here.closed id inside]
    exact detached
  rw [shows.length] at inside
  have within : id < last.machine.streams.length := by
    rw [shown.length]
    exact Nat.lt_of_lt_of_le inside advanced.grown
  have still : (last.machine.stream id).status.detached = true := by
    rw [there.closed id within, shown.isOpen, advanced.shut id inside closed]
    rfl
  exact ⟨still, there.asleep id within still⟩

/-- A playback stream that was opened, played and was closed. -/
def Run.played : Run :=
  ((Run.stock.next (.openStream .playback ⟨2⟩ {})).next (.write 0 4)).next (.close 0)

/-- The same when another playback stream plays. -/
def Run.playingOn : Run :=
  (Run.played.next (.openStream .playback ⟨2⟩ {})).next (.write 1 4)

/-- A playback stream was played on and closed. -/
theorem Session.played :
    Session Run.stock [.openStream .playback ⟨2⟩ {}, .write 0 4, .close 0] Run.played := by
  have opened : Session Run.stock [.openStream .playback ⟨2⟩ {}]
      (Run.stock.next (.openStream .playback ⟨2⟩ {})) :=
    Session.start.next _ (by decide +kernel)
  have playing : Session Run.stock [.openStream .playback ⟨2⟩ {}, .write 0 4]
      ((Run.stock.next (.openStream .playback ⟨2⟩ {})).next (.write 0 4)) :=
    opened.next (.write 0 4) (by decide +kernel)
  exact playing.next (.close 0) (by decide +kernel)

/-- Another is being played on. -/
theorem Session.playingOn :
    Session Run.played [.openStream .playback ⟨2⟩ {}, .write 1 4] Run.playingOn := by
  have opened : Session Run.played [.openStream .playback ⟨2⟩ {}]
      (Run.played.next (.openStream .playback ⟨2⟩ {})) :=
    Session.start.next _ (by decide +kernel)
  exact opened.next (.write 1 4) (by decide +kernel)

/-- The one that was closed is in standby. -/
theorem Session.coherent_playingOn : Run.playingOn.machine.Coherent ∧
    (Run.playingOn.machine.stream (0 : Nat)).status.standby = true := by
  obtain ⟨coherent, stays⟩ :=
    Session.coherent Run.built_stock Session.played Session.playingOn
  have inside : 0 < Run.played.machine.streams.length := by decide +kernel
  have detached : (Run.played.machine.stream (0 : Nat)).status.detached = true := by
    decide +kernel
  exact ⟨coherent, (stays 0 inside detached).2⟩

end PhoneAudio
