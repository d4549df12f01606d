import PhoneAudio.Proofs.Handset.PlayedRoute
import PhoneAudio.Proofs.Handset.Progress

/-!
# Ordinary playback and calls

Ordinary playback and the downlink of a call have no endpoint in common at any instant, as one of
them has none at all (`PhoneAudio.Session.keepsRoutesApart`). So the router never has to balance
media against a call, whatever is done with the audio hardware and its streams.
-/

namespace PhoneAudio

namespace RouterCall

/-- The router whose gains a call sets anew, if it sets any. -/
def balances? (router : Router) : RouterCall → Option Router
  | setRoute lane endpoints =>
      if router.disabled.get lane = false ∧ lane.isAudible = true then
        some (router.store lane endpoints)
      else none
  | setDisabled lane off =>
      if router.disabled.get lane = true ∧ off = false ∧ lane.isAudible = true then some router
      else none
  | setCallVolume volume => some { router with callVolume := volume }
  | setMediaVolume volume => some { router with mediaVolume := volume }

/-- A call on a router sets the gains of the router `balances?`, or none, last of all, and the
factor of playback follows from them. -/
structure Balances (call : RouterCall) (router : Router) : Prop where
  gains : ((call.balances? router).elim [] fun balanced => balanced.rebalance.2) <:+
    (call.onRouter router).2
  factor : (call.onRouter router).1.playbackFactor =
    (call.balances? router).elim router.playbackFactor Router.balancedFactor

/-- Every call does. -/
theorem onRouter_balances (call : RouterCall) (router : Router) : call.Balances router := by
  have factor : ∀ router : Router, router.rebalance.1.playbackFactor = router.balancedFactor :=
    fun _ => rfl
  cases call with
  | setRoute lane endpoints =>
      have kept : (router.store lane endpoints).playbackFactor = router.playbackFactor := rfl
      constructor <;> cases off : router.disabled.get lane <;> cases audible : lane.isAudible <;>
        simp [-List.append_assoc, balances?, onRouter, Router.setRoute, Router.rebalanceFor, off,
          audible, factor, kept]
  | setDisabled lane off =>
      constructor <;> cases off <;> cases was : router.disabled.get lane <;>
        cases audible : lane.isAudible <;>
        simp [-List.append_assoc, balances?, onRouter, Router.setDisabled, Router.rebalanceFor,
          was, audible, factor]
  | setCallVolume volume => exact ⟨List.suffix_refl _, rfl⟩
  | setMediaVolume volume => exact ⟨List.suffix_refl _, rfl⟩

/-- What a call sets the gains of has the routes that the router has afterwards. -/
theorem routes_balances {call : RouterCall} {router balanced : Router}
    (balances : call.balances? router = some balanced) :
    balanced.routes = (call.onRouter router).1.routes := by
  cases call with
  | setRoute lane endpoints =>
      obtain ⟨-, ⟨⟩⟩ := Option.ite_none_right_eq_some.mp balances
      exact (router.routes_setRoute lane endpoints).symm
  | setDisabled lane off =>
      obtain ⟨-, ⟨⟩⟩ := Option.ite_none_right_eq_some.mp balances
      exact (router.routes_setDisabled lane off).symm
  | setCallVolume volume =>
      cases balances
      rfl
  | setMediaVolume volume =>
      cases balances
      rfl

/-- No gains are set for shared endpoints by a call that leaves the router balanced. -/
theorem isShared_balances {call : RouterCall} {router balanced : Router}
    (balances : call.balances? router = some balanced)
    (after : (call.onRouter router).1.Balanced) : balanced.isShared = false := by
  have same : balanced.isShared = (call.onRouter router).1.isShared := by
    unfold Router.isShared
    rw [routes_balances balances]
  rw [same]
  exact after.isShared

end RouterCall

/-- Calls on the router that lead from one run to another, each with the router that it was made on.
Between them neither the router changes, unless it goes altogether, nor is the mixer called. -/
inductive Run.Calls (first : Run) : List (Router × RouterCall) → Run → Prop
  | start : Run.Calls first [] first
  | quiet {calls : List (Router × RouterCall)} {run after : Run}
      (earlier : Run.Calls first calls run)
      (router : ∀ router, after.machine.hardware.router = some router →
        run.machine.hardware.router = some router)
      (mixer : after.mixerCalls = run.mixerCalls) : Run.Calls first calls after
  | called {calls : List (Router × RouterCall)} {run : Run} {router : Router}
      (earlier : Run.Calls first calls run)
      (there : run.machine.hardware.router = some router) (call : RouterCall) :
      Run.Calls first (calls ++ [(router, call)]) (call.perform run).2

namespace Machine

/-- The router, if there is one, has no endpoints to balance. -/
def Balanced (machine : Machine) : Prop :=
  ∀ router, machine.hardware.router = some router → router.Balanced

/-- Ordinary playback and the downlink are not routed at the same time, and media is not lowered for
a call. -/
structure Unshared (machine : Machine) : Prop where
  apart : machine.route .playback = .none ∨ machine.route .downlink = .none
  factor : ∀ router, machine.hardware.router = some router → router.playbackFactor = 1

theorem Balanced.unshared {machine : Machine} (balanced : machine.Balanced) :
    machine.Unshared := by
  refine ⟨?_, fun router there => (balanced router there).factor⟩
  unfold route
  cases there : machine.hardware.router with
  | none => exact .inl rfl
  | some router => exact (balanced router there).apart

/-- Whether anything is balanced depends on the router. -/
theorem Balanced.of_router {first second : Machine} (balanced : first.Balanced)
    (same : second.hardware.router = first.hardware.router) : second.Balanced :=
  fun router there => balanced router (same.symm.trans there)

/-- A router that was just opened is balanced. -/
theorem Bare.balanced {machine : Machine} (bare : machine.Bare) : machine.Balanced := by
  intro router there
  rw [bare.fresh router there]
  exact ⟨.inl rfl, rfl⟩

end Machine

namespace Act

theorem router_changeStream (id : StreamId) (f : Stream → Stream) :
    Stays (fun machine => machine.hardware.router) Happening.sparesMixer (changeStream id f) :=
  stays_change fun _ => rfl

/-- A stream's call to the PCM driver. -/
theorem router_pcmCall {α : Type} (id : StreamId) (activity : Activity) {what : Happening}
    (spares : what.sparesMixer = true) (effect : Drivers → α × Drivers) :
    Stays (fun machine => machine.hardware.router) Happening.sparesMixer
      (call (.stream id) activity what effect) :=
  (router_changeStream id _).bind fun _ => (router_bareCall spares effect).bind fun _ =>
    (router_changeStream id _).bind fun _ => stays_pure _

/-- Closing the PCM of a stream leaves the router, and does not call the mixer. -/
theorem router_closeStreamPcm (id : StreamId) :
    Stays (fun machine => machine.hardware.router) Happening.sparesMixer (closeStreamPcm id) := by
  refine (stays_stream id).bind fun stream => ?_
  cases stream.pcm with
  | none => exact stays_pure _
  | some pcm => exact (router_changeStream id _).bind fun _ => router_pcmCall id _ rfl _

/-- Opening the PCM of a stream leaves the router, and does not call the mixer. -/
theorem router_engage (id : StreamId) :
    Stays (fun machine => machine.hardware.router) Happening.sparesMixer (engage id) := by
  refine stays_machine.bind fun machine => (stays_stream id).bind fun stream => ?_
  have opens : (Happening.openPcm (.stream id)
      (.codec machine.settings stream.direction)).sparesMixer = true := rfl
  have closes : (Happening.closePcm (.stream id)
      (.codec machine.settings stream.direction)).sparesMixer = true := rfl
  refine (router_pcmCall id _ opens _).bind fun opened => ?_
  cases opened with
  | error error => exact stays_pure _
  | ok pcm =>
      dsimp only
      split
      · refine Stays.bind ?_ fun _ => stays_pure _
        refine (stays_stream id).bind fun stream => (router_changeStream id _).bind fun _ => ?_
        cases stream.pcm with
        | none => exact stays_pure _
        | some previous => exact router_bareCall rfl _
      · exact (router_pcmCall id _ closes _).bind fun _ => stays_pure _

end Act

namespace Run

/-- As long as the mixer is not called, the calls to it stay those that were made. -/
theorem Stays.mixerCalls {β : Type} {view : Machine → β} {run after : Run}
    (stays : run.Stays view Happening.sparesMixer after) : after.mixerCalls = run.mixerCalls :=
  stays.happened fun _ spares => (Bool.not_eq_true' _).mp spares

variable {alone : Prop} {first run after : Run}

/-- A step leaves the router at every moment, takes it away at the end of all, or calls it in such a
way that it stays balanced. -/
theorem Instant.router_cases (instant : run.Instant alone after) :
    run.Stays (fun machine => machine.hardware.router) Happening.sparesMixer after ∨
    (∃ bare : Run, bare.machine.hardware.router = none ∧ bare.history = run.history ∧
      bare.Stays (fun machine => machine.hardware.router) Happening.sparesMixer after) ∨
    ∃ call : RouterCall, (∀ router, run.machine.hardware.router = some router →
      router.Balanced → (call.onRouter router).1.Balanced) ∧ after = (call.perform run).2 := by
  cases instant with
  | aside stays =>
      refine .inl ((stays.map Prod.fst).mono fun what aside => ?_)
      cases what <;> first | rfl | cases aside
  | shut id => exact .inl (Act.router_closeStreamPcm id run)
  | engaged id => exact .inl (Act.router_engage id run)
  | routed call balanced => exact .inr (.inr ⟨call, balanced, rfl⟩)
  | gone =>
      refine .inr (.inl ⟨(Act.changeHardware (fun hardware =>
        { hardware with router := none }) run).2, rfl, rfl, ?_⟩)
      exact (Act.router_closeLink .capture _).trans (Act.router_closeLink .playback _)

/-- A call on the router that keeps it balanced keeps it so at every moment. -/
theorem Throughout.perform (balanced : run.Throughout Machine.Balanced) (call : RouterCall)
    (keeps : ∀ router, run.machine.hardware.router = some router → router.Balanced →
      (call.onRouter router).1.Balanced) :
    (call.perform run).2.Throughout Machine.Balanced := by
  rw [call.perform_eq]
  cases there : run.machine.hardware.router with
  | none =>
      rw [Act.reroute_of_none there]
      exact balanced
  | some router =>
      rw [Act.reroute_of_some there]
      have kept := keeps router there (balanced.now router there)
      generalize routed : (Act.changeHardware (fun hardware =>
        { hardware with router := some (call.onRouter router).1 }) run).2 = between
      have throughout : between.Throughout Machine.Balanced := by
        rw [← routed]
        refine ⟨?_, balanced.ever⟩
        rintro _ ⟨⟩
        exact kept
      exact throughout.stays (Act.routes_router.takeSteps _ between)
        fun _ => throughout.now.of_router

/-- **Steps** keep the router balanced at every moment, and the calls on it are listed. -/
theorem Instant.balanced (instant : run.Instant alone after)
    (balanced : run.Throughout Machine.Balanced) {calls : List (Router × RouterCall)}
    (called : first.Calls calls run)
    (unshared : ∀ entry ∈ calls, (entry.2.onRouter entry.1).1.Balanced) :
    after.Throughout Machine.Balanced ∧ ∃ calls, first.Calls calls after ∧
      ∀ entry ∈ calls, (entry.2.onRouter entry.1).1.Balanced := by
  obtain stays | ⟨bare, none, history, stays⟩ | ⟨call, keeps, rfl⟩ := instant.router_cases
  · refine ⟨balanced.stays stays fun _ => balanced.now.of_router, calls, ?_, unshared⟩
    exact .quiet called (fun router there => stays.kept.symm.trans there) stays.mixerCalls
  · have gone : bare.Throughout Machine.Balanced := by
      refine ⟨fun router there => ?_, history ▸ balanced.ever⟩
      rw [none] at there
      cases there
    refine ⟨gone.stays stays fun _ => gone.now.of_router, calls, ?_, unshared⟩
    refine .quiet called (fun router there => ?_) (stays.mixerCalls.trans ?_)
    · rw [stays.kept.symm.trans there] at none
      cases none
    · unfold Run.mixerCalls
      rw [history]
  · refine ⟨balanced.perform call keeps, ?_⟩
    cases there : run.machine.hardware.router with
    | none =>
        have same : (call.perform run).2 = run := by
          rw [call.perform_eq, Act.reroute_of_none there]
        rw [same]
        exact ⟨calls, called, unshared⟩
    | some router =>
        refine ⟨_, .called called there call, fun entry member => ?_⟩
        obtain early | last := List.mem_append.mp member
        · exact unshared entry early
        · rw [List.mem_singleton.mp last]
          exact keeps router there (balanced.now router there)

/-- Steps keep the router balanced. -/
theorem Proceeds.balanced (proceeds : first.Proceeds alone run)
    (balanced : first.Throughout Machine.Balanced) :
    run.Throughout Machine.Balanced ∧ ∃ calls, first.Calls calls run ∧
      ∀ entry ∈ calls, (entry.2.onRouter entry.1).1.Balanced := by
  induction proceeds with
  | refl => exact ⟨balanced, [], .start, fun _ member => absurd member List.not_mem_nil⟩
  | tail _ instant ih =>
      obtain ⟨throughout, calls, called, unshared⟩ := ih
      exact instant.balanced throughout called unshared

end Run

/-- **Balance.** Whatever is done with the audio hardware and its streams, closed ones included, and
however the drivers do, at no moment are ordinary playback and the downlink both routed, nor is
media lowered for a call; and no call on the router sets gains for endpoints that both share, where
`balances?` says what the gains that a call sets are set for. -/
theorem Session.keepsRoutesApart {first last : Run} {operations : List Operation}
    (built : first.Built) (session : Session first operations last) :
    last.Throughout Machine.Unshared ∧ ∃ calls, first.Calls calls last ∧
      ∀ entry ∈ calls, entry.2.Balances entry.1 ∧
        ∀ balanced, entry.2.balances? entry.1 = some balanced → balanced.isShared = false := by
  have bare := built.bare
  have start : first.Throughout Machine.Balanced :=
    ⟨bare.now.balanced, fun moment member => (bare.ever moment member).balanced⟩
  obtain ⟨state, shown, sound, -⟩ := built.shows
  obtain ⟨throughout, calls, called, unshared⟩ :=
    Run.Proceeds.balanced (session.proceeds shown sound) start
  refine ⟨⟨throughout.now.unshared, fun moment member => (throughout.ever moment member).unshared⟩,
    calls, called, fun entry member => ⟨entry.2.onRouter_balances entry.1, ?_⟩⟩
  exact fun balanced balances => RouterCall.isShared_balances balances (unshared entry member)

/-- Something is played after the call. -/
theorem Session.keepsRoutesApart_playedAfterCall :
    Run.playedAfterCall.machine.route .playback ≠ .none ∧
      Run.playedAfterCall.Throughout Machine.Unshared ∧
      ∃ calls, Run.stock.Calls calls Run.playedAfterCall ∧
        ∀ entry ∈ calls, entry.2.Balances entry.1 ∧
          ∀ balanced, entry.2.balances? entry.1 = some balanced → balanced.isShared = false :=
  ⟨by decide +kernel, Session.keepsRoutesApart Run.built_stock Session.playedAfterCall.session⟩

end PhoneAudio
