import PhoneAudio.Proofs.Handset.Sound

/-!
# The route of what is played

Outside a call, a playback stream that has a PCM is heard on its devices
(`PhoneAudio.Machine.Audible`). Opening a stream routes it, closing one only clears a route that is
its own, and nothing else that happens to streams matters to it.
-/

namespace PhoneAudio

namespace Machine

/-- Outside a call, ordinary playback is routed to the devices of the open playback stream while it
has a PCM. -/
def Audible (machine : Machine) : Prop :=
  ∀ router id, machine.hardware.router = some router → machine.hardware.output = some id →
    (machine.stream id).pcm.isSome = true → machine.hardware.mode ≠ .inCall →
      router.routes.playback = (machine.stream id).devices.playbackRoute

variable {machine after : Machine} {exempt : List StreamId}

/-- Nothing is heard where the open playback stream has no PCM. -/
theorem audible_of_empty
    (empty : ∀ id, machine.hardware.output = some id → (machine.stream id).pcm = none) :
    machine.Audible := by
  intro router id _ output some _
  rw [empty id output] at some
  cases some

/-- Nothing matters in a call. -/
theorem audible_of_inCall (inCall : machine.hardware.mode = .inCall) : machine.Audible :=
  fun _ _ _ _ _ outside => absurd inCall outside

/-- Only the route, the open playback stream and the mode matter, and of the streams only PCMs and
devices. -/
theorem Audible.of_eq (audible : machine.Audible)
    (router : ∀ other, after.hardware.router = some other → ∃ before,
      machine.hardware.router = some before ∧ other.routes.playback = before.routes.playback)
    (output : ∀ id, after.hardware.output = some id → machine.hardware.output = some id)
    (mode : after.hardware.mode ≠ .inCall → machine.hardware.mode ≠ .inCall)
    (streams : ∀ id, after.hardware.output = some id → (after.stream id).pcm.isSome = true →
      (machine.stream id).pcm.isSome = true ∧
        (after.stream id).devices = (machine.stream id).devices) : after.Audible := by
  intro other id there filled some outside
  obtain ⟨before, known, same⟩ := router other there
  obtain ⟨held, devices⟩ := streams id filled some
  rw [same, devices]
  exact audible before id known (output id filled) held (mode outside)

/-- Changes of a stream that leave its PCM and its devices. -/
theorem Audible.adjust (audible : machine.Audible) (id : StreamId) {f : Stream → Stream}
    (pcm : ∀ stream, (f stream).pcm = stream.pcm)
    (devices : ∀ stream, (f stream).devices = stream.devices) : (machine.adjust id f).Audible := by
  refine audible.of_eq (fun other there => ⟨other, there, rfl⟩) (fun _ filled => filled)
    (fun outside => outside) fun other _ some => ?_
  rw [view_adjust Stream.pcm machine id other pcm] at some
  exact ⟨some, view_adjust Stream.devices machine id other devices⟩

/-- Changes of the router that leave the route of ordinary playback. -/
theorem Audible.reroute (audible : machine.Audible) {f : Router → Router × List RouteStep}
    (kept : ∀ router, (f router).1.routes.playback = router.routes.playback) :
    (machine.reroute f).Audible := by
  refine audible.of_eq (fun other there => ?_) (fun _ filled => filled) (fun outside => outside)
    fun _ _ some => ⟨some, rfl⟩
  obtain ⟨before, known, rfl⟩ := Option.map_eq_some_iff.mp there
  exact ⟨before, known, kept before⟩

/-- The route of another lane does not matter to what is heard. -/
theorem Audible.setRoute (audible : machine.Audible) {lane : Lane} (other : lane ≠ .playback)
    (endpoints : EndpointSet) : (machine.reroute (·.setRoute lane endpoints)).Audible := by
  refine audible.reroute fun router => ?_
  rw [router.routes_setRoute]
  cases lane <;> first | rfl | exact absurd rfl other

/-- Nor does a lane that is turned off or on. -/
theorem Audible.setDisabled (audible : machine.Audible) (lane : Lane) (off : Bool) :
    (machine.reroute (·.setDisabled lane off)).Audible :=
  audible.reroute fun router =>
    congrArg (fun routes => routes.playback) (router.routes_setDisabled lane off)

/-- A stream whose PCM is taken away, and whose route is cleared if it is for playback. No other
stream must be playing then. -/
theorem Audible.vacated (audible : machine.Audible) {id : StreamId}
    (own : (machine.stream id).direction = .playback →
      ∀ other, machine.hardware.output = some other → other = id)
    {f : Stream → Stream} (empty : ∀ stream, (f stream).pcm = none)
    (inside : id < machine.streams.length) :
    ((machine.unrouted id).adjust id f).Audible := by
  have within : id < (machine.unrouted id).streams.length := by
    rw [machine.streams_unrouted id]
    exact inside
  by_cases playback : (machine.stream id).direction = .playback
  · refine audible_of_empty fun other output => ?_
    have filled := (machine.output_unrouted id).symm.trans output
    rw [own playback other filled, stream_adjust _ _ within]
    exact empty _
  · have kept : machine.unrouted id = machine := if_neg playback
    rw [kept]
    refine audible.of_eq (fun other there => ⟨other, there, rfl⟩) (fun _ filled => filled)
      (fun outside => outside) fun other _ some => ?_
    obtain ⟨-, changed⟩ | same := machine.stream_adjust_cases id other f
    · rw [changed, empty] at some
      cases some
    · rw [same] at some ⊢
      exact ⟨some, rfl⟩

/-- An open playback stream is the only one that can play. -/
theorem Sound.own_of_isOpen (sound : machine.Sound exempt) {id : StreamId}
    (isOpen : (machine.stream id).direction = .playback → machine.isOpen id = true) :
    (machine.stream id).direction = .playback →
      ∀ other, machine.hardware.output = some other → other = id := by
  intro playback other output
  obtain ⟨-, filled⟩ | ⟨capture, -⟩ := sound.isOpen_cases (isOpen playback)
  · exact Option.some.inj (output.symm.trans filled)
  · rw [playback] at capture
    cases capture

/-- What is heard stays so when an open stream is closed for now. -/
theorem Audible.shut (audible : machine.Audible) (sound : machine.Sound exempt) {id : StreamId}
    (isOpen : machine.isOpen id = true) : (machine.shut id).Audible :=
  audible.vacated (sound.own_of_isOpen fun _ => isOpen) (fun _ => rfl)
    (sound.inside_of_isOpen isOpen)

/-- Putting a stream to standby is heard of no other stream, unless a closed one is put to
standby. -/
theorem Audible.slept (audible : machine.Audible) (sound : machine.Sound exempt) {id : StreamId}
    (inside : id < machine.streams.length)
    (isOpen : (machine.stream id).direction = .playback → machine.isOpen id = true) :
    (machine.slept id).Audible :=
  audible.vacated (sound.own_of_isOpen isOpen) (fun _ => rfl) inside

/-- An open stream is heard once it is opened on a PCM. -/
theorem Audible.opened (audible : machine.Audible) (sound : machine.Sound exempt) {id : StreamId}
    (isOpen : machine.isOpen id = true) (pcm : OpenPcm) : (machine.opened id pcm).Audible := by
  have inside := sound.inside_of_isOpen isOpen
  have fitted : (machine.adjust id (Stream.fitted pcm)).stream id =
      Stream.fitted pcm (machine.stream id) := machine.stream_adjust _ inside
  unfold Machine.opened routed
  rw [fitted]
  obtain ⟨playback, output⟩ | ⟨capture, member⟩ := sound.isOpen_cases isOpen
  · simp only [Stream.fitted, playback]
    split
    · rename_i inCall
      exact audible_of_inCall inCall
    · intro router other there filled _ _
      obtain ⟨before, -, rfl⟩ := Option.map_eq_some_iff.mp there
      cases Option.some.inj (output.symm.trans filled)
      have devices := congrArg (fun stream => stream.devices.playbackRoute) fitted
      rw [before.routes_setRoute]
      exact devices.symm
  · simp only [Stream.fitted, capture]
    have other : Lane.capture ≠ .playback := nofun
    refine Audible.setRoute ?_ other _
    refine audible.of_eq (fun other there => ⟨other, there, rfl⟩) (fun _ filled => filled)
      (fun outside => outside) fun other filled some => ?_
    have different : other ≠ id := by
      rintro rfl
      rw [(sound.output other filled).2] at capture
      cases capture
    rw [machine.stream_adjust_of_ne _ different] at some ⊢
    exact ⟨some, rfl⟩

end Machine

end PhoneAudio
