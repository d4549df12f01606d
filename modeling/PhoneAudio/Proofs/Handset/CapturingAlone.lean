import PhoneAudio.Proofs.Handset.Coherence

/-!
# Capturing alone

Which streams capture at the same time (`PhoneAudio.Session.capturesAlone_iff_apart`). A stream
starts to capture by a read only, and reading from it puts no other capture stream to standby. So
two streams capture at once exactly when one is read from while another one captures.
-/

namespace PhoneAudio

namespace Machine

/-- How many capture streams are out of standby. -/
def capturing (machine : Machine) : Nat :=
  machine.streams.countP fun stream => stream.direction = .capture && stream.isActive

/-- One capture stream at most is out of standby, and one PCM at most is open for it. -/
def CapturesAlone (machine : Machine) : Prop :=
  machine.capturing ≤ 1 ∧ machine.drivers.pcm.liveOn .codec .capture ≤ 1

instance (machine : Machine) : Decidable machine.CapturesAlone :=
  inferInstanceAs (Decidable (_ ∧ _))

end Machine

/-- A property that at most one element of a list has holds at one place at most. -/
theorem eq_of_countP_le_one {α : Type} {p : α → Bool} {list : List α} (few : list.countP p ≤ 1)
    {i j : Nat} (first : i < list.length) (second : j < list.length)
    (left : p list[i] = true) (right : p list[j] = true) : i = j := by
  induction list generalizing i j with
  | nil => cases first
  | cons head tail ih =>
      rw [List.countP_cons] at few
      -- The head has the property alone, or not at all.
      have alone : p head = true → ∀ k, (inside : k < tail.length) → p tail[k] ≠ true := by
        intro holds k inside other
        have some : 0 < tail.countP p :=
          List.countP_pos_iff.mpr ⟨tail[k], List.getElem_mem inside, other⟩
        rw [if_pos holds] at few
        omega
      cases i with
      | zero =>
          cases j with
          | zero => rfl
          | succ j => exact absurd right (alone left j (Nat.lt_of_succ_lt_succ second))
      | succ i =>
          cases j with
          | zero => exact absurd left (alone right i (Nat.lt_of_succ_lt_succ first))
          | succ j =>
              exact congrArg Nat.succ (ih (Nat.le_of_add_right_le few)
                (Nat.lt_of_succ_lt_succ first) (Nat.lt_of_succ_lt_succ second) left right)

namespace Machine

variable {machine : Machine}

/-- The streams that capture are the capture streams out of standby. -/
theorem Sound.captures_iff (sound : machine.Sound []) (id : StreamId) :
    machine.Captures id ↔ id < machine.streams.length ∧
      (machine.stream id).direction = .capture ∧ (machine.stream id).isActive = true := by
  constructor
  · intro ⟨member, active⟩
    exact ⟨(sound.inputs id member).1, (sound.inputs id member).2, active⟩
  · intro ⟨inside, capture, active⟩
    obtain ⟨playback, -⟩ | ⟨-, member⟩ := sound.isOpen_cases (sound.isOpen_of_active inside active)
    · rw [capture] at playback
      cases playback
    · exact ⟨member, active⟩

/-- In a sound state, one stream captures at most if there are no two that do. -/
theorem Sound.capturing_le_one (sound : machine.Sound []) :
    machine.capturing ≤ 1 ↔ ∀ i j, machine.Captures i → machine.Captures j → i = j := by
  have here : ∀ {id} (inside : id < machine.streams.length),
      (machine.streams[id].direction = .capture && machine.streams[id].isActive) = true ↔
        machine.Captures id := by
    intro id inside
    rw [machine.stream_getElem inside, sound.captures_iff, Bool.and_eq_true, decide_eq_true_eq]
    exact (and_iff_right inside).symm
  constructor
  · intro few i j left right
    have first := ((sound.captures_iff i).mp left).1
    have second := ((sound.captures_iff j).mp right).1
    exact eq_of_countP_le_one few first second ((here first).mpr left) ((here second).mpr right)
  · intro unique
    exact countP_le_one fun i j first second left right =>
      unique i j ((here first).mp left) ((here second).mp right)

end Machine

/-- Whether an operation reads from a stream, which captures afterwards, while another one captured
before. -/
def Operation.Overlaps (before : Machine) (operation : Operation) (after : Machine) : Prop :=
  ∃ id buffer, operation = .read id buffer ∧ after.Captures id ∧
    ∃ other, other ≠ id ∧ before.Captures other

namespace Run.Shows

variable {run : Run} {state : Machine}

/-- What is shown is active where the run is. -/
theorem isActive (shows : run.Shows state) (id : StreamId) :
    (run.machine.stream id).isActive = (state.stream id).isActive := by
  rw [← shows.stream id]
  rfl

/-- What is shown captures where the run does. -/
theorem captures_iff (shows : run.Shows state) (id : StreamId) :
    run.machine.Captures id ↔ state.Captures id := by
  unfold Machine.Captures
  rw [shows.isActive]
  rw [← shows.core_eq]
  rfl

/-- The PCM driver has as many PCMs open for capture as streams capture. -/
theorem capturesAlone_iff (shows : run.Shows state) (sound : state.Sound []) :
    run.machine.CapturesAlone ↔ ∀ i j, state.Captures i → state.Captures j → i = j := by
  have live := (shows.coherent_of_sound sound).live .capture
  have same : run.machine.capturing = state.capturing := by
    unfold Machine.capturing
    rw [← shows.core_eq]
    change _ = (run.machine.streams.map Stream.core).countP _
    rw [List.countP_map]
    rfl
  unfold Machine.CapturesAlone
  rw [live]
  change run.machine.capturing ≤ 1 ∧ run.machine.capturing ≤ 1 ↔ _
  rw [and_self, same]
  exact sound.capturing_le_one

end Run.Shows

/-- A session whose steps are all as described, from the run before each to the run after it. -/
inductive Session.Through (described : Run → Operation → Run → Prop) (first : Run) :
    List Operation → Run → Prop
  | start : Session.Through described first [] first
  | step {operations : List Operation} {run : Run}
      (earlier : Session.Through described first operations run) (conditions : Conditions)
      {operation : Operation} (possible : operation.Possible run.machine)
      (holds : described run operation (operation.perform (run.under conditions)).2) :
      Session.Through described first (operations ++ [operation])
        (operation.perform (run.under conditions)).2

namespace Session

variable {first last : Run} {operations : List Operation}

/-- A session of operations that are described is a session. -/
theorem Through.session {described : Run → Operation → Run → Prop}
    (through : Through described first operations last) : Session first operations last := by
  induction through with
  | start => exact .start
  | step earlier conditions possible holds ih => exact ih.step conditions possible

/-- One more operation that is as described. -/
theorem Through.next {described : Run → Operation → Run → Prop}
    (through : Through described first operations last) (operation : Operation)
    (possible : operation.Possible last.machine)
    (holds : described last operation (last.next operation)) :
    Through described first (operations ++ [operation]) (last.next operation) :=
  through.step {} possible holds

/-- After one more operation, one stream captures at most if that was so before, but for a read that
overlaps. -/
theorem step_capturesAlone (built : first.Built) (session : Session first operations last)
    (conditions : Conditions) {operation : Operation}
    (possible : operation.Possible last.machine) :
    ((operation.perform (last.under conditions)).2.machine.CapturesAlone →
      ¬ operation.Overlaps last.machine (operation.perform (last.under conditions)).2.machine) ∧
    (last.machine.CapturesAlone →
      ¬ operation.Overlaps last.machine (operation.perform (last.under conditions)).2.machine →
        (operation.perform (last.under conditions)).2.machine.CapturesAlone) := by
  obtain ⟨start, shown, sound, -⟩ := built.shows
  obtain ⟨state, shows, reached⟩ := session.advances shown sound
  obtain ⟨after, shown, advanced, admits⟩ := Operation.leads_perform reached.sound
    (possible.core shows) _ (shows.under conditions)
  generalize (operation.perform (last.under conditions)).2 = next at shown ⊢
  rw [shown.capturesAlone_iff advanced.sound, shows.capturesAlone_iff reached.sound]
  constructor
  · rintro alone ⟨id, buffer, same, started, other, ne, captures⟩
    have stayed := admits.stays id buffer same other ne ((shows.captures_iff other).mp captures)
    -- Both capture now, the one that was read from and the one that nobody put to standby.
    exact ne (alone other id stayed ((shown.captures_iff id).mp started))
  · intro alone apart
    -- A stream that was read from finds no other one that captured before.
    have fresh : ∀ i j buffer, operation = .read i buffer → after.Captures i → after.Captures j →
        i = j := by
      intro i j buffer same left right
      obtain old | ⟨_, read⟩ := admits.starts j right
      · by_contra ne
        exact apart ⟨i, buffer, same, (shown.captures_iff i).mpr left, j, Ne.symm ne,
          (shows.captures_iff j).mpr old⟩
      · cases same.symm.trans read
        rfl
    intro i j left right
    obtain first | ⟨buffer, read⟩ := admits.starts i left
    · obtain second | ⟨buffer, read⟩ := admits.starts j right
      · exact alone i j first second
      · exact (fresh j i buffer read right left).symm
    · exact fresh i j buffer read left right

/-- **Capturing alone.** In a session one stream at most captures after every operation exactly when
no read makes a stream capture while another one does. -/
theorem capturesAlone_iff_apart (built : first.Built) :
    Through (fun _ _ after => after.machine.CapturesAlone) first operations last ↔
      Through (fun before operation after =>
        ¬ operation.Overlaps before.machine after.machine) first operations last := by
  constructor
  · intro through
    induction through with
    | start => exact .start
    | step earlier conditions possible alone ih =>
        have apart := (step_capturesAlone built earlier.session conditions possible).1 alone
        exact ih.step conditions possible apart
  · intro through
    have both : Through (fun _ _ after => after.machine.CapturesAlone) first operations last ∧
        last.machine.CapturesAlone := by
      induction through with
      | start =>
          obtain ⟨settings, tables, shown⟩ := built.shows_vacant
          have vacant := Machine.sound_built settings tables
          refine ⟨.start, (shown.capturesAlone_iff vacant).mpr fun i _ left => ?_⟩
          exact absurd left.1 List.not_mem_nil
      | step earlier conditions possible apart ih =>
          obtain ⟨before, alone⟩ := ih
          have next := (step_capturesAlone built earlier.session conditions possible).2 alone apart
          exact ⟨before.step conditions possible next, next⟩
    exact both.1

end Session

/-- A microphone stream that captures, and another one in standby. -/
def Run.capturedAlone : Run :=
  ((Run.stock.next (.openStream .capture ⟨0x40000⟩ {})).next (.read 0 [0, 0, 0, 0])).next
    (.openStream .capture ⟨0x40000⟩ {})

/-- Both capture. -/
def Run.capturedBoth : Run :=
  Run.capturedAlone.next (.read 1 [0, 0, 0, 0])

/-- Only one of two capture streams captures. -/
theorem Session.capturedAlone :
    Session.Through (fun _ _ after => after.machine.CapturesAlone) Run.stock
      [.openStream .capture ⟨0x40000⟩ {}, .read 0 [0, 0, 0, 0], .openStream .capture ⟨0x40000⟩ {}]
      Run.capturedAlone := by
  have opened : Session.Through (fun _ _ after => after.machine.CapturesAlone) Run.stock
      [.openStream .capture ⟨0x40000⟩ {}]
      (Run.stock.next (.openStream .capture ⟨0x40000⟩ {})) :=
    Session.Through.start.next _ (by decide +kernel) (by decide +kernel)
  have captured := opened.next (.read 0 [0, 0, 0, 0]) (by decide +kernel) (by decide +kernel)
  exact captured.next _ (by decide +kernel) (by decide +kernel)

/-- No read overlapped so far. -/
theorem Session.capturesAlone_iff_apart_capturedAlone :
    Session.Through (fun before operation after =>
        ¬ operation.Overlaps before.machine after.machine) Run.stock
      [.openStream .capture ⟨0x40000⟩ {}, .read 0 [0, 0, 0, 0], .openStream .capture ⟨0x40000⟩ {}]
      Run.capturedAlone :=
  (Session.capturesAlone_iff_apart Run.built_stock).mp Session.capturedAlone

/-- Reading from a second stream leaves the first one capturing. -/
theorem Session.not_capturesAlone : ¬ ∀ (first last : Run) (operations : List Operation),
    first.Built → Session first operations last → last.machine.CapturesAlone := by
  intro holds
  have session := Session.capturedAlone.session.next (.read 1 [0, 0, 0, 0]) (by decide +kernel)
  have alone := holds _ _ _ Run.built_stock session
  have both : ¬ Run.capturedBoth.machine.CapturesAlone := by decide +kernel
  exact both alone

end PhoneAudio
