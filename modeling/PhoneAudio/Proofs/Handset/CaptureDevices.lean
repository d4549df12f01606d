import PhoneAudio.Proofs.Handset.CapturingAlone
import PhoneAudio.Proofs.Handset.Fixtures

/-!
# Capture devices

Which devices open capture streams are on (`PhoneAudio.Session.onCaptureDevices_iff`). Opening a
capture stream asks for exactly one capture device, but setting its parameters does not. So the open
capture streams are on capture devices exactly as long as no parameters select any other devices for
one.
-/

namespace PhoneAudio

/-- The devices that parameters select, unless they select none. -/
def chosenDevices? (text : String) : Option Devices :=
  (selectedDevices? (KeyValues.ofText text)).filter fun devices => !devices.isEmpty

namespace Machine

/-- Every open capture stream is on exactly one capture device. -/
def OnCaptureDevices (machine : Machine) : Prop :=
  ∀ id ∈ machine.hardware.inputs, (machine.stream id).devices.isCaptureDevice = true

instance (machine : Machine) : Decidable machine.OnCaptureDevices :=
  inferInstanceAs (Decidable (∀ id ∈ machine.hardware.inputs, _))

end Machine

/-- Whether an operation selects devices for an open capture stream that are not exactly one capture
device. -/
def Operation.Misdirects (machine : Machine) : Operation → Prop
  | applyParameters id text => id ∈ machine.hardware.inputs ∧
      ∃ devices ∈ chosenDevices? text, devices.isCaptureDevice = false
  | _ => False

namespace Act

variable {α β : Type} {relates : List (Direction × Devices) → List (Direction × Devices) → Prop}

/-- Whatever is fixed leaves the devices that streams are posted on. -/
theorem Fixed.postings {action : Act α} (fixed : Fixed action) (run : Run) :
    (action run).2.machine.postings = run.machine.postings :=
  congrArg Prod.snd (fixed run).kept

/-- How an action changes the directions and devices of streams. -/
def Reposts (relates : List (Direction × Devices) → List (Direction × Devices) → Prop)
    (action : Act α) : Prop :=
  ∀ run, relates run.machine.postings (action run).2.machine.postings

/-- What comes after a posting may be fixed. -/
theorem Reposts.then {action : Act α} {next : α → Act β} (first : Reposts relates action)
    (rest : ∀ answer, Fixed (next answer)) : Reposts relates (action >>= next) := by
  intro run
  rw [bind_apply, (rest _).postings]
  exact first run

/-- What comes before a posting may be fixed. -/
theorem Fixed.thenReposts {action : Act α} {next : α → Act β} (first : Fixed action)
    (rest : ∀ answer, Reposts relates (next answer)) : Reposts relates (action >>= next) := by
  intro run
  have reposts := rest (action run).1 (action run).2
  rwa [first.postings] at reposts

theorem Fixed.reposts {action : Act α} (fixed : Fixed action)
    (same : ∀ postings, relates postings postings) : Reposts relates action := by
  intro run
  rw [fixed.postings]
  exact same _

/-- Posting takes place with the hardware lock held. -/
theorem Reposts.withHardware {action : Act α} (reposts : Reposts relates action) :
    Reposts relates (withHardware action) :=
  (silent_lock _).fixed.thenReposts fun _ => reposts.then fun _ =>
    (silent_unlock _).then fun _ => stays_pure _

/-- The directions and devices of streams with devices chosen for one, if any are. -/
def chosen (id : StreamId) (choice : Option Devices) (postings : List (Direction × Devices)) :
    List (Direction × Devices) :=
  choice.elim postings fun devices => postings.modify id fun posting => (posting.1, devices)

/-- Devices that are selected for a stream become its devices, unless none are. -/
theorem reposts_selectDevices (id : StreamId) (devices : Devices) :
    Reposts (fun before after =>
        after = chosen id ((some devices).filter fun devices => !devices.isEmpty) before)
      (selectDevices id devices) := by
  unfold selectDevices
  split
  · rename_i empty
    rw [Option.filter_some_neg (by simp [empty])]
    exact Fixed.reposts (stays_pure _) fun _ => rfl
  rename_i some
  rw [Option.filter_some_pos (by simp [some])]
  have turn : Reposts (fun before after => after = chosen id (.some devices) before)
      (changeStream id fun stream => { stream with devices := devices }) := by
    intro run
    have changes : ∀ stream : Stream, Stream.posting { stream with devices := devices } =
        (stream.posting.1, devices) := fun _ => rfl
    exact map_modify (h := fun posting => (posting.1, devices)) changes run.machine.streams id
  have rest : ∀ follows : Prop, [Decidable follows] →
      Fixed (if follows then followDevices devices else pure ()) := by
    intro follows _
    split
    · exact (silent_followDevices devices).fixed
    · exact stays_pure _
  refine Reposts.withHardware (Fixed.thenReposts (stays_stream id) fun stream => ?_)
  refine Fixed.thenReposts stays_hardware fun hardware => ?_
  dsimp only
  split
  · exact (fixed_standbyLocked id).thenReposts fun _ => turn.then fun _ => rest _
  · exact turn.then fun _ => rest _

/-- **Parameters** leave all devices but those that they choose for a stream, as long as the audio
hardware is there. -/
theorem postings_applyParameters (id : StreamId) (text : String) {run : Run}
    (present : run.machine.hardware.present = true) :
    (applyParameters id text run).2.machine.postings =
      chosen id (chosenDevices? text) run.machine.postings := by
  have finish : ∀ rest : KeyValues, Fixed (do
      unlock (.stream id)
      if rest.isEmpty then return .ok ()
      else
        let word := (← stream id).direction.word
        return .error (.badValue s!"unsupported {word} parameters: {rest.toText}") :
        Act (Except AudioError Unit)) := by
    intro rest
    refine (silent_unlock _).then fun _ => ?_
    split
    · exact stays_pure _
    · exact (stays_stream id).bind fun _ => stays_pure _
  have locked : ∀ {next : Act (Except AudioError Unit)},
      Reposts (fun before after => after = chosen id (chosenDevices? text) before) next →
      Reposts (fun before after => after = chosen id (chosenDevices? text) before)
        (askForLock id >>= fun _ => lockFor id >>= fun _ => next) :=
    fun reposts => (silent_askForLock id).fixed.thenReposts fun _ =>
      (silent_lockFor id).fixed.thenReposts fun _ => reposts
  unfold applyParameters
  rw [bind_apply, hardware_apply]
  dsimp only
  rw [if_pos present]
  refine locked ?_ run
  unfold chosenDevices?
  cases selectedDevices? (KeyValues.ofText text) with
  | none => exact Fixed.reposts (Stays.bind (stays_pure _) finish) fun _ => rfl
  | some devices =>
      refine (reposts_selectDevices id devices).then fun _ => ?_
      exact Stays.bind (stays_pure _) finish

/-- What parameters choose for a stream is what they change. -/
theorem devices_applyParameters {id : StreamId} (text : String) {run : Run}
    (present : run.machine.hardware.present = true) (inside : id < run.machine.streams.length)
    (other : StreamId) :
    ((applyParameters id text run).2.machine.stream other).devices =
      if other = id then (chosenDevices? text).getD (run.machine.stream id).devices
      else (run.machine.stream other).devices := by
  have postings := postings_applyParameters id text present
  generalize (applyParameters id text run).2.machine = next at *
  have read : ∀ machine : Machine, (machine.stream other).devices =
      (machine.postings.getD other (default : Stream).posting).2 :=
    fun machine => congrArg Prod.snd (machine.posting_eq other)
  rw [read, postings]
  unfold chosen
  cases chosenDevices? text with
  | none =>
      rw [Option.elim_none, Option.getD_none, ← read]
      split
      · rename_i same
        rw [same]
      · rfl
  | some devices =>
      rw [Option.elim_some, Option.getD_some, List.getD_eq_getElem?_getD]
      rw [← run.machine.length_postings] at inside
      by_cases same : other = id
      · rw [if_pos same, same, List.getElem?_modify_eq, List.getElem?_eq_getElem inside]
        rfl
      · rw [if_neg same, List.getElem?_modify_ne _ _ (Ne.symm same),
          ← List.getD_eq_getElem?_getD, ← read]

/-- How streams are opened: if one is opened for capture, it is on exactly one capture device. -/
def Joins (before after : List (Direction × Devices)) : Prop :=
  after = before ∨ ∃ direction devices, after = before ++ [(direction, devices)] ∧
    (direction = .capture → devices.isCaptureDevice = true)

theorem Fixed.joins {action : Act α} (fixed : Fixed action) : Reposts Joins action :=
  fixed.reposts fun _ => .inl rfl

/-- A new capture stream has the devices that were asked for. -/
theorem devices_newCapture {settings : Settings} {devices : Devices} {request : FormatRequest}
    {stream : Stream} (made : Stream.newCapture settings devices request = .ok stream) :
    stream.devices = devices := by
  unfold Stream.newCapture at made
  dsimp only at made
  split at made
  · cases built : Pipeline.ofFormat request.resolved settings.capturePeriod.toNat with
    | error error =>
        rw [built] at made
        cases made
    | ok pipeline =>
        rw [built] at made
        cases made
        rfl
  · cases made

/-- A stream that is added joins on devices it may capture on. -/
theorem joins_addStream {stream : Stream}
    (legal : stream.direction = .capture → stream.devices.isCaptureDevice = true) :
    Reposts Joins (addStream stream) :=
  fun _ => .inr ⟨stream.direction, stream.devices, List.map_append, legal⟩

/-- A stream that is opened joins on devices it may capture on. -/
theorem joins_openStream (direction : Direction) (devices : Devices) (request : FormatRequest) :
    Reposts Joins (openStream direction devices request) := by
  cases direction with
  | playback =>
      refine Reposts.withHardware (Fixed.thenReposts stays_hardware fun hardware => ?_)
      split
      · exact Fixed.joins (stays_pure _)
      refine Fixed.thenReposts stays_machine fun machine => ?_
      cases made : Stream.newPlayback machine.settings devices request with
      | error error => exact Fixed.joins (stays_pure _)
      | ok stream =>
          have playback : stream.direction = .playback := (newPlayback_fresh made).1
          refine (joins_addStream fun capture => ?_).then fun id => ?_
          · cases playback.symm.trans capture
          · exact Stays.bind (fixtures_changeHardware _) fun _ => stays_pure _
  | capture =>
      unfold openStream openCapture
      dsimp only
      split
      · rename_i legal
        refine Reposts.withHardware (Fixed.thenReposts stays_machine fun machine => ?_)
        cases made : Stream.newCapture machine.settings devices request with
        | error error => exact Fixed.joins (stays_pure _)
        | ok stream =>
            refine (joins_addStream fun _ => ?_).then fun id => ?_
            · rw [devices_newCapture made]
              exact legal
            · exact Stays.bind (fixtures_changeHardware _) fun _ => stays_pure _
      · exact Fixed.joins (stays_pure _)

end Act

/-- Afterwards a stream is where it was, or was opened now. -/
theorem Act.Joins.posting_cases {before after : Machine} {id : StreamId}
    (joins : Act.Joins before.postings after.postings) (inside : id < after.streams.length) :
    id < before.streams.length ∧ (after.stream id).posting = (before.stream id).posting ∨
      ((after.stream id).direction = .capture →
        (after.stream id).devices.isCaptureDevice = true) := by
  rw [← after.length_postings] at inside
  rw [← before.length_postings, after.posting_eq, before.posting_eq]
  obtain same | ⟨direction, devices, added, legal⟩ := joins
  · rw [same] at inside ⊢
    exact .inl ⟨inside, rfl⟩
  by_cases earlier : id < before.postings.length
  · rw [added]
    exact .inl ⟨earlier, List.getD_append _ _ _ _ earlier⟩
  · have newest : (after.stream id).posting = (direction, devices) := by
      rw [added, List.length_append, List.length_singleton] at inside
      have place : id = before.postings.length :=
        Nat.le_antisymm (Nat.le_of_lt_succ inside) (Nat.le_of_not_lt earlier)
      rw [after.posting_eq, added, place, List.getD_eq_getElem?_getD, List.getElem?_concat_length,
        Option.getD_some]
    have way : (after.stream id).direction = direction := congrArg Prod.fst newest
    have chosen : (after.stream id).devices = devices := congrArg Prod.snd newest
    rw [way, chosen]
    exact .inr legal

/-- Every operation but setting parameters leaves the devices of all streams. A stream that it opens
for capture is on exactly one capture device. -/
theorem Operation.joins_perform {operation : Operation}
    (untuned : ∀ id text, operation ≠ .applyParameters id text) :
    Act.Reposts Act.Joins operation.perform := by
  by_cases opens : ∃ direction devices request, operation = .openStream direction devices request
  · obtain ⟨direction, devices, request, rfl⟩ := opens
    refine (Act.joins_openStream direction devices request).then fun opened => ?_
    cases opened <;> exact Act.stays_pure _
  · have unopened : ∀ direction devices request,
        operation ≠ .openStream direction devices request :=
      fun direction devices request same => opens ⟨direction, devices, request, same⟩
    exact (Operation.fixed_perform unopened untuned).joins

namespace Machine

variable {before after : Machine} {operations : List Operation} {id : StreamId}

/-- A stream that is open for capture after operations was open for capture before, if it was there
and is a capture stream. -/
theorem Advances.inputs (advances : before.Advances operations after) (sound : before.Sound [])
    (member : id ∈ after.hardware.inputs) (inside : id < before.streams.length)
    (capture : (before.stream id).direction = .capture) : id ∈ before.hardware.inputs := by
  have stays : before.isOpen id = true := by
    by_contra closed
    have shut := advances.shut id inside (Bool.eq_false_of_not_eq_true closed)
    unfold isOpen at shut
    rw [List.contains_iff_mem.mpr member, Bool.or_true] at shut
    cases shut
  obtain ⟨playback, -⟩ | ⟨-, member⟩ := sound.isOpen_cases stays
  · rw [capture] at playback
    cases playback
  · exact member

end Machine

/-- What is shown has the same capture streams. -/
theorem Run.Shows.inputs {run : Run} {state : Machine} (shows : run.Shows state) :
    run.machine.hardware.inputs = state.hardware.inputs :=
  congrArg (fun machine => machine.hardware.inputs) shows.core_eq

namespace Session

variable {first last : Run} {operations : List Operation}

/-- What a session's next operation leaves of the open capture streams. -/
theorem step_inputs (built : first.Built) (session : Session first operations last)
    (conditions : Conditions) {operation : Operation} (possible : operation.Possible last.machine)
    {id : StreamId}
    (member : id ∈ (operation.perform (last.under conditions)).2.machine.hardware.inputs) :
    id < (operation.perform (last.under conditions)).2.machine.streams.length ∧
      ((operation.perform (last.under conditions)).2.machine.stream id).direction = .capture ∧
      (id < last.machine.streams.length → (last.machine.stream id).direction = .capture →
        id ∈ last.machine.hardware.inputs) := by
  obtain ⟨start, shown, sound, -⟩ := built.shows
  obtain ⟨state, shows, reached⟩ := session.advances shown sound
  obtain ⟨after, shown, advanced, -⟩ := Operation.leads_perform reached.sound
    (possible.core shows) _ (shows.under conditions)
  rw [shown.inputs] at member
  rw [shown.length, shown.direction, shows.length, shows.direction, shows.inputs]
  obtain ⟨inside, capture⟩ := advanced.sound.inputs id member
  exact ⟨inside, capture, advanced.inputs reached.sound member⟩

/-- Setting parameters leaves the list of open capture streams. -/
theorem step_inputs_tuned (built : first.Built) (session : Session first operations last)
    (conditions : Conditions) {id : StreamId} {text : String}
    (possible : (Operation.applyParameters id text).Possible last.machine) :
    ((Operation.applyParameters id text).perform
      (last.under conditions)).2.machine.hardware.inputs = last.machine.hardware.inputs := by
  obtain ⟨start, shown, sound, -⟩ := built.shows
  obtain ⟨state, shows, reached⟩ := session.advances shown sound
  have calm := reached.sound.calm id (possible.core shows)
  obtain ⟨_, shown, rfl⟩ := Act.leads_applyParameters calm text _ (shows.under conditions)
  have follows := reached.sound.follows_tuned id text
  exact shown.inputs.trans ((Machine.inputs_of_desk follows.desk).trans shows.inputs.symm)

/-- As long as a capture stream is open, the audio hardware is there. -/
theorem present_of_input (built : first.Built) (session : Session first operations last)
    {id : StreamId} (member : id ∈ last.machine.hardware.inputs) :
    last.machine.hardware.present = true := by
  obtain ⟨start, shown, sound, -⟩ := built.shows
  obtain ⟨state, shows, reached⟩ := session.advances shown sound
  rw [shows.present]
  by_contra absent
  have none := (reached.sound.dropped (Bool.eq_false_of_not_eq_true absent)).2
  rw [shows.inputs, none] at member
  cases member

/-- After one more operation that does not set parameters, the open capture streams are still on
capture devices. -/
theorem step_untuned (built : first.Built) (session : Session first operations last)
    (conditions : Conditions) {operation : Operation} (possible : operation.Possible last.machine)
    (untuned : ∀ id text, operation ≠ .applyParameters id text)
    (legal : last.machine.OnCaptureDevices) :
    (operation.perform (last.under conditions)).2.machine.OnCaptureDevices := by
  intro id member
  obtain ⟨inside, capture, stayed⟩ := session.step_inputs built conditions possible member
  obtain ⟨earlier, same⟩ | legalNow := Act.Joins.posting_cases
    (Operation.joins_perform untuned (last.under conditions)) inside
  · have before : (last.machine.stream id).direction = .capture :=
      (congrArg Prod.fst same).symm.trans capture
    exact (congrArg (fun posting => posting.2.isCaptureDevice) same).trans
      (legal id (stayed earlier before))
  · exact legalNow capture

/-- After parameters were set, the open capture streams are still on capture devices unless the
parameters chose other devices for one. -/
theorem step_tuned (built : first.Built) (session : Session first operations last)
    (conditions : Conditions) {id : StreamId} {text : String}
    (possible : (Operation.applyParameters id text).Possible last.machine)
    (legal : last.machine.OnCaptureDevices) :
    ((Operation.applyParameters id text).perform
        (last.under conditions)).2.machine.OnCaptureDevices ↔
      ¬ (Operation.applyParameters id text).Misdirects last.machine := by
  have inputs := session.step_inputs_tuned built conditions possible
  have devices : ∀ other ∈ last.machine.hardware.inputs,
      (((Operation.applyParameters id text).perform
        (last.under conditions)).2.machine.stream other).devices =
        if other = id then (chosenDevices? text).getD (last.machine.stream id).devices
        else (last.machine.stream other).devices := by
    intro other member
    have present := session.present_of_input built member
    have under : (last.under conditions).machine.hardware.present = true := present
    exact Act.devices_applyParameters text under possible other
  constructor
  · rintro onNext ⟨member, wrong, chose, other⟩
    have single := onNext id (inputs.symm ▸ member)
    rw [devices id member, if_pos rfl, chose] at single
    rw [Option.getD_some, other] at single
    cases single
  · intro directed other member
    rw [inputs] at member
    rw [devices other member]
    split
    · rename_i same
      subst same
      cases choice : chosenDevices? text with
      | none => exact legal other member
      | some devices =>
          by_contra wrong
          exact directed ⟨member, devices, choice, Bool.eq_false_of_not_eq_true wrong⟩
    · exact legal other member

/-- After one more operation, the open capture streams are on capture devices if they were before,
unless parameters chose other devices for one. -/
theorem step_onCaptureDevices (built : first.Built) (session : Session first operations last)
    (conditions : Conditions) {operation : Operation} (possible : operation.Possible last.machine)
    (legal : last.machine.OnCaptureDevices) :
    (operation.perform (last.under conditions)).2.machine.OnCaptureDevices ↔
      ¬ operation.Misdirects last.machine := by
  by_cases tunes : ∃ id text, operation = .applyParameters id text
  · obtain ⟨id, text, rfl⟩ := tunes
    exact session.step_tuned built conditions possible legal
  · have untuned : ∀ id text, operation ≠ .applyParameters id text :=
      fun id text same => tunes ⟨id, text, same⟩
    have directed : ¬ operation.Misdirects last.machine := by
      cases operation <;> first | exact not_false | exact absurd rfl (untuned _ _)
    exact iff_of_true (session.step_untuned built conditions possible untuned legal) directed

/-- **Capture devices.** In a session every open capture stream is on exactly one capture device
after every operation exactly when no parameters choose other devices for an open capture stream. -/
theorem onCaptureDevices_iff (built : first.Built) :
    Through (fun _ _ after => after.machine.OnCaptureDevices) first operations last ↔
      Through (fun before operation _ => ¬ operation.Misdirects before.machine) first operations
        last := by
  have start : first.machine.OnCaptureDevices := by
    obtain ⟨settings, tables, shown⟩ := built.shows_vacant
    intro id member
    rw [shown.inputs] at member
    cases member
  constructor
  · intro through
    have both : Through (fun before operation _ => ¬ operation.Misdirects before.machine) first
        operations last ∧ last.machine.OnCaptureDevices := by
      induction through with
      | start => exact ⟨.start, start⟩
      | step earlier conditions possible legal ih =>
          obtain ⟨before, onDevices⟩ := ih
          have directed :=
            (earlier.session.step_onCaptureDevices built conditions possible onDevices).mp legal
          exact ⟨before.step conditions possible directed, legal⟩
    exact both.1
  · intro through
    have both : Through (fun _ _ after => after.machine.OnCaptureDevices) first operations last ∧
        last.machine.OnCaptureDevices := by
      induction through with
      | start => exact ⟨.start, start⟩
      | step earlier conditions possible directed ih =>
          obtain ⟨before, onDevices⟩ := ih
          have legal :=
            (earlier.session.step_onCaptureDevices built conditions possible onDevices).mpr directed
          exact ⟨before.step conditions possible legal, legal⟩
    exact both.1

end Session

/-- A capture stream that was moved from one microphone to another. -/
def Run.movedMic : Run :=
  (Run.stock.next (.openStream .capture ⟨0x40000⟩ {})).next (.applyParameters 0 "routing=8388608")

/-- Neither operation puts the stream on a device that is not for capture. -/
theorem Session.movedMic :
    Session.Through (fun before operation _ => ¬ operation.Misdirects before.machine) Run.stock
      [.openStream .capture ⟨0x40000⟩ {}, .applyParameters 0 "routing=8388608"] Run.movedMic := by
  have opened : Session.Through (fun before operation _ => ¬ operation.Misdirects before.machine)
      Run.stock [.openStream .capture ⟨0x40000⟩ {}]
      (Run.stock.next (.openStream .capture ⟨0x40000⟩ {})) :=
    Session.Through.start.next _ (by decide +kernel) not_false
  refine opened.next _ (by decide +kernel) ?_
  rintro ⟨-, devices, chosen, wrong⟩
  have back : chosenDevices? "routing=8388608" = some ⟨0x800000⟩ := by decide +kernel
  cases back.symm.trans chosen
  cases wrong

/-- The stream is on a capture device all the time. -/
theorem Session.onCaptureDevices_iff_movedMic :
    Session.Through (fun _ _ after => after.machine.OnCaptureDevices) Run.stock
      [.openStream .capture ⟨0x40000⟩ {}, .applyParameters 0 "routing=8388608"] Run.movedMic :=
  (Session.onCaptureDevices_iff Run.built_stock).mpr Session.movedMic

/-- Parameters can select the speaker for a capture stream. -/
theorem Session.not_onCaptureDevices : ¬ ∀ (first last : Run) (operations : List Operation),
    first.Built → Session first operations last → last.machine.OnCaptureDevices := by
  intro holds
  have opened : Session Run.stock [.openStream .capture ⟨0x40000⟩ {}]
      (Run.stock.next (.openStream .capture ⟨0x40000⟩ {})) :=
    Session.start.next _ (by decide +kernel)
  have legal := holds _ _ _ Run.built_stock
    (opened.next (.applyParameters 0 "routing=2") (by decide +kernel))
  have misdirected : ¬ ((Run.stock.next (.openStream .capture ⟨0x40000⟩ {})).next
      (.applyParameters 0 "routing=2")).machine.OnCaptureDevices := by decide +kernel
  exact misdirected legal

end PhoneAudio
