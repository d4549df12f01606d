import PhoneAudio.Proofs.Routing.Writes

/-!
# Controls and the wirings in use

Which value a mixer control has after calls on the router, when no write is refused. A control that
wirings in use set has what one of the lanes applied to it, as long as no lane reverted it since
then; after that it is at rest, even if another lane still needs it
(`PhoneAudio.Run.Wired.controlsFit`).
-/

namespace PhoneAudio

namespace Bench

/-- The value that writes leave on a control. -/
def ControlWrite.last? (control : String) (writes : List ControlWrite) : Option ControlValue :=
  (writes.reverse.find? fun write => write.control = control).map ControlWrite.value

namespace ControlWrite

variable {control : String}

/-- What later writes leave counts, and else what earlier ones do. -/
theorem last?_append (writes more : List ControlWrite) :
    last? control (writes ++ more) = (last? control more).or (last? control writes) := by
  unfold last?
  rw [List.reverse_append, List.find?_append, Option.map_or]

/-- Nothing is left on a control if and only if nothing was written to it. -/
theorem last?_eq_none {writes : List ControlWrite} :
    last? control writes = none ↔ ∀ value, ⟨control, value⟩ ∉ writes := by
  unfold last?
  rw [Option.map_eq_none_iff, List.find?_eq_none]
  refine ⟨fun none value member => ?_, fun none write member => ?_⟩
  · exact none _ (List.mem_reverse.mpr member) (decide_eq_true rfl)
  · intro same
    obtain rfl : write.control = control := of_decide_eq_true same
    exact none write.value (List.mem_reverse.mp member)

/-- What is left was written. -/
theorem mem_of_last? {writes : List ControlWrite} {value : ControlValue}
    (left : last? control writes = some value) : ⟨control, value⟩ ∈ writes := by
  obtain ⟨write, found, rfl⟩ := Option.map_eq_some_iff.mp left
  have same := List.find?_some found
  obtain rfl : write.control = control := of_decide_eq_true same
  exact List.mem_reverse.mp (List.mem_of_find?_eq_some found)

end ControlWrite

/-- The value last written to a control. -/
def Mixer.value? (mixer : Mixer) (control : String) : Option ControlValue :=
  ControlWrite.last? control mixer.writes

end Bench

open Bench (ControlWrite)

namespace Router

variable {control : String}

/-- The value that steps leave on a control, if they write to it. -/
def leaves? (control : String) (steps : List RouteStep) : Option ControlValue :=
  ControlWrite.last? control (steps.filterMap RouteStep.write?)

/-- What later steps leave counts, and else what earlier ones do. -/
theorem leaves?_append (steps more : List RouteStep) :
    leaves? control (steps ++ more) = (leaves? control more).or (leaves? control steps) := by
  unfold leaves?
  rw [List.filterMap_append, ControlWrite.last?_append]

theorem mem_writes {steps : List RouteStep} {write : ControlWrite} :
    write ∈ steps.filterMap RouteStep.write? ↔ .write write.control write.value ∈ steps := by
  rw [List.mem_filterMap]
  constructor
  · rintro ⟨step, member, said⟩
    cases step with
    | write control value =>
        cases said
        exact member
    | hold _ => cases said
    | letGo _ => cases said
  · exact fun member => ⟨_, member, rfl⟩

/-- Steps leave nothing on a control if and only if they do not write to it. -/
theorem leaves?_eq_none {steps : List RouteStep} :
    leaves? control steps = none ↔ ∀ value, .write control value ∉ steps := by
  unfold leaves?
  rw [ControlWrite.last?_eq_none]
  exact forall_congr' fun value => not_congr mem_writes

theorem mem_of_leaves? {steps : List RouteStep} {value : ControlValue}
    (left : leaves? control steps = some value) : .write control value ∈ steps :=
  mem_writes.mp (ControlWrite.mem_of_last? left)

/-- Steps that set gains leave other controls alone. -/
theorem SetsGains.leaves? {router : Router} {steps : List RouteStep}
    (gains : router.SetsGains steps)
    (other : ∀ gain ∈ router.tables.routedGains, gain.control ≠ control) :
    Router.leaves? control steps = none := by
  refine leaves?_eq_none.mpr fun value member => ?_
  obtain ⟨volume, gain, listed, same⟩ := gains _ member
  exact other gain listed (RouteStep.write.inj same).1.symm

/-- What enabling the endpoints of wirings in order writes. -/
def applied (wirings : List Wiring) : List ControlWrite :=
  (wirings.flatMap Wiring.pins).map fun pin => ⟨pin.control, pin.enabled⟩

/-- Enabling wirings leaves what they apply. -/
theorem leaves?_enable (wirings : List Wiring) :
    leaves? control (wirings.flatMap enableSteps) =
      ControlWrite.last? control (applied wirings) := by
  have links : ∀ wiring : Wiring,
      (wiring.link.toList.map RouteStep.hold).filterMap RouteStep.write? = [] := by
    intro wiring
    cases wiring.link <;> rfl
  refine congrArg (ControlWrite.last? control) ?_
  unfold applied
  induction wirings with
  | nil => rfl
  | cons wiring rest ih =>
      rw [List.flatMap_cons, List.flatMap_cons, List.filterMap_append, List.map_append, ih]
      simp [enableSteps, links, List.filterMap_map, Function.comp_def, RouteStep.write?]

/-- What wirings apply is what their pins have enabled. -/
theorem mem_applied {wirings : List Wiring} {value : ControlValue} :
    ⟨control, value⟩ ∈ applied wirings ↔
      ∃ wiring ∈ wirings, ∃ pin ∈ wiring.pins, pin.control = control ∧ pin.enabled = value := by
  unfold applied
  simp only [List.mem_map, List.mem_flatMap, ControlWrite.mk.injEq]
  constructor
  · rintro ⟨pin, ⟨wiring, used, member⟩, same⟩
    exact ⟨wiring, used, pin, member, same⟩
  · rintro ⟨wiring, used, pin, member, same⟩
    exact ⟨pin, ⟨wiring, used, member⟩, same⟩

/-- What disabling wirings writes is what their pins have disabled. -/
theorem mem_disable {wirings : List Wiring} {value : ControlValue} :
    .write control value ∈ wirings.flatMap disableSteps ↔ ∃ wiring ∈ wirings,
      ∃ pin ∈ wiring.pins, pin.control = control ∧ pin.disabled = some value := by
  have links : ∀ wiring : Wiring,
      RouteStep.write control value ∉ wiring.link.toList.map .letGo := by
    intro wiring member
    obtain ⟨link, -, same⟩ := List.mem_map.mp member
    cases same
  simp only [List.mem_flatMap, disableSteps, List.mem_append, links, or_false, List.mem_filterMap,
    List.mem_reverse, Option.map_eq_some_iff, RouteStep.write.injEq]
  constructor
  · rintro ⟨wiring, used, pin, member, _, reverted, same, rfl⟩
    exact ⟨wiring, used, pin, member, same, reverted⟩
  · rintro ⟨wiring, used, pin, member, same, reverted⟩
    exact ⟨wiring, used, pin, member, value, reverted, same, rfl⟩

/-- The value that enabling the wirings that a lane has in use leaves on a control. -/
def applied? (router : Router) (control : String) (lane : Lane) : Option ControlValue :=
  ControlWrite.last? control (applied (router.inUse lane))

/-- A lane applies nothing to a control that none of its pins is for. -/
theorem applied?_eq_none {router : Router} {lane : Lane} : router.applied? control lane = none ↔
    ∀ wiring ∈ router.inUse lane, ∀ pin ∈ wiring.pins, pin.control ≠ control := by
  unfold applied?
  rw [ControlWrite.last?_eq_none]
  constructor
  · exact fun none wiring used pin member same =>
      none pin.enabled (mem_applied.mpr ⟨wiring, used, pin, member, same, rfl⟩)
  · intro none value member
    obtain ⟨wiring, used, pin, there, same, -⟩ := mem_applied.mp member
    exact none wiring used pin there same

/-- The value that reverting the wirings that a lane has in use leaves on a control. -/
def reverted? (router : Router) (control : String) (lane : Lane) : Option ControlValue :=
  leaves? control ((router.inUse lane).flatMap disableSteps)

/-- A lane that applies nothing to a control reverts nothing of it. -/
theorem reverted?_eq_none {router : Router} {lane : Lane}
    (unused : router.applied? control lane = none) : router.reverted? control lane = none := by
  refine leaves?_eq_none.mpr fun value member => ?_
  obtain ⟨wiring, used, pin, there, same, -⟩ := mem_disable.mp member
  exact applied?_eq_none.mp unused wiring used pin there same

/-- A call leaves on a control what its lane applies, or else reverts. -/
theorem Works.leaves? {before after : Router} {lane? : Option Lane} {steps : List RouteStep}
    (works : before.Works lane? after steps)
    (other : ∀ gain ∈ before.tables.routedGains, gain.control ≠ control) :
    Router.leaves? control steps = lane?.elim none fun lane =>
      (after.applied? control lane).or (before.reverted? control lane) := by
  obtain ⟨silence, gains, silent, level, rfl⟩ := works.steps
  rw [leaves?_append, leaves?_append, silent.leaves? other, level.leaves? other, Option.none_or,
    Option.or_none]
  cases lane? with
  | none => rfl
  | some lane =>
      rw [Option.toList_some, List.flatMap_singleton]
      refine (leaves?_append _ _).trans ?_
      rw [leaves?_enable]
      rfl

end Router

namespace CodecTables

/-- The pins of all wirings. -/
def pins (tables : CodecTables) : List Pin :=
  Lane.all.flatMap fun lane => (tables.wiring lane).flatMap Wiring.pins

/-- Whether every pin on a control reverts it. -/
def Reverts (tables : CodecTables) (control : String) : Prop :=
  ∀ pin ∈ tables.pins, pin.control = control → pin.disabled ≠ none

/-- Whether a value is one that a control is reverted to. -/
def RestsAt (tables : CodecTables) (control : String) (value : ControlValue) : Prop :=
  ∃ pin ∈ tables.pins, pin.control = control ∧ pin.disabled = some value

end CodecTables

namespace Router

variable {control : String}

theorem mem_pins {router : Router} {lane : Lane} {wiring : Wiring} {pin : Pin}
    (used : wiring ∈ router.inUse lane) (member : pin ∈ wiring.pins) :
    pin ∈ router.tables.pins := by
  have listed : wiring ∈ router.tables.wiring lane := by
    unfold inUse at used
    split at used
    · cases used
    · exact (List.mem_filter.mp used).1
  refine List.mem_flatMap.mpr ⟨lane, ?_, List.mem_flatMap.mpr ⟨wiring, listed, member⟩⟩
  cases lane <;> simp [Lane.all]

/-- Reverting a control that is in use leaves it at rest. -/
theorem exists_reverted? {router : Router} {lane : Lane}
    (reverts : router.tables.Reverts control) (used : router.applied? control lane ≠ none) :
    ∃ value, router.reverted? control lane = some value ∧
      router.tables.RestsAt control value := by
  have written : router.reverted? control lane ≠ none := by
    intro none
    refine used (applied?_eq_none.mpr fun wiring there pin member same => ?_)
    obtain ⟨value, disabled⟩ := Option.ne_none_iff_exists'.mp
      (reverts pin (mem_pins there member) same)
    exact leaves?_eq_none.mp none value
      (mem_disable.mpr ⟨wiring, there, pin, member, same, disabled⟩)
  obtain ⟨value, left⟩ := Option.ne_none_iff_exists'.mp written
  obtain ⟨wiring, there, pin, member, rests⟩ := mem_disable.mp (mem_of_leaves? left)
  exact ⟨value, left, pin, mem_pins there member, rests⟩

/-- Whether what was last applied to a control is still there after a change of a lane: the lane
applies it anew, or it was there before and the lane did not have to revert it. -/
def settles (before : Router) (lane? : Option Lane) (after : Router) (control : String)
    (settled : Bool) : Bool :=
  lane?.elim settled fun lane =>
    (after.applied? control lane).isSome || settled && (before.applied? control lane).isNone

/-- The value of a control fits the wirings in use: if what was last applied to it is still there,
that is what some lane applies, unless no lane uses the control at all; otherwise a control that
every pin reverts is at rest. -/
structure Fits (router : Router) (control : String) (settled : Bool)
    (value? : Option ControlValue) : Prop where
  applied : settled = true → (∀ lane, router.applied? control lane = none) ∨
    ∃ lane value, router.applied? control lane = some value ∧ value? = some value
  resting : router.tables.Reverts control → settled = false →
    ∃ value, router.tables.RestsAt control value ∧ value? = some value

/-- A value goes on fitting as long as the lanes apply what they did. -/
theorem Fits.congr {before after : Router} {settled : Bool} {value? : Option ControlValue}
    (fits : before.Fits control settled value?) (tables : after.tables = before.tables)
    (same : ∀ lane, after.applied? control lane = before.applied? control lane) :
    after.Fits control settled value? := by
  constructor
  · intro still
    rw [funext same]
    exact fits.applied still
  · intro reverts unsettled
    rw [tables] at reverts ⊢
    exact fits.resting reverts unsettled

/-- **Calls.** The value of a control that is no gain keeps fitting the wirings in use. -/
theorem Fits.step {before after : Router} {lane? : Option Lane} {steps : List RouteStep}
    {settled : Bool} {value? : Option ControlValue} (fits : before.Fits control settled value?)
    (works : before.Works lane? after steps)
    (other : ∀ gain ∈ before.tables.routedGains, gain.control ≠ control) :
    after.Fits control (before.settles lane? after control settled)
      ((leaves? control steps).or value?) := by
  rw [works.leaves? other]
  have others : ∀ lane, lane? ≠ some lane →
      after.applied? control lane = before.applied? control lane := by
    intro lane ne
    unfold applied?
    rw [works.others lane ne]
  cases lane? with
  | none => exact fits.congr works.tables fun lane => others lane nofun
  | some lane =>
      unfold settles
      dsimp only [Option.elim_some]
      -- What the lane applies comes last; else what it reverts; else nothing was written.
      cases new : after.applied? control lane with
      | some value => exact ⟨fun _ => .inr ⟨lane, value, new, rfl⟩, fun _ => nofun⟩
      | none =>
          cases old : before.applied? control lane with
          | some value =>
              have used : before.applied? control lane ≠ none := by
                rw [old]
                exact nofun
              refine ⟨fun still => ?_, fun reverts _ => ?_⟩
              · simp at still
              · rw [works.tables] at reverts ⊢
                obtain ⟨resting, left, rests⟩ := exists_reverted? reverts used
                rw [left]
                exact ⟨resting, rests, rfl⟩
          | none =>
              rw [reverted?_eq_none old, Option.isNone_none, Bool.and_true]
              refine fits.congr works.tables fun other => ?_
              by_cases here : other = lane
              · rw [here, new, old]
              · exact others other fun eq => here (Option.some.inj eq).symm

end Router

/-- A mixer that has every control and refuses no write. -/
structure Bench.Mixer.Obliging (mixer : Mixer) : Prop where
  missing : mixer.missing = []
  rejected : mixer.rejected = []

theorem Bench.Mixer.Obliging.faults {mixer : Mixer} (obliging : mixer.Obliging) :
    mixer.faults = {} := by
  unfold Mixer.faults
  rw [obliging.missing, obliging.rejected]

/-- What a control reads after steps is what they leave, if anything, and else what it read before.
-/
theorem Run.value?_steered {run : Run} (obliging : run.machine.drivers.mixer.Obliging)
    (router : Router) (steps : List RouteStep) (control : String) :
    (run.steered router steps).machine.drivers.mixer.value? control =
      (Router.leaves? control steps).or (run.machine.drivers.mixer.value? control) := by
  apply (congrArg (ControlWrite.last? control) (run.writes_steered router steps)).trans
  rw [obliging.faults, List.filter_eq_self.mpr fun write _ => write.spares_none]
  exact ControlWrite.last?_append _ _

namespace Router

/-- Whether what was last applied to a control is still there after calls. -/
def settledAfter (control : String) (router : Router) (settled : Bool) :
    List RouterCall → Bool
  | [] => settled
  | call :: more =>
    let after := (call.onRouter router).1
    after.settledAfter control (router.settles (call.lane? router) after control settled) more

/-- The endpoints in use have their way: a control has the value that the endpoints of some lane
leave on it. -/
def InForce (router : Router) (control : String) (value? : Option ControlValue) : Prop :=
  ∃ lane value, router.applied? control lane = some value ∧ value? = some value

end Router

/-- Conditions under which the mixer has every control and refuses no write. -/
def Conditions.Obliging (conditions : Conditions) : Prop :=
  conditions.missing = [] ∧ conditions.rejected = []

/-- The controls of the pins are no gains, and no pin enables a control at a value that it rests
at. -/
structure CodecTables.Tidy (tables : CodecTables) : Prop where
  gains : ∀ pin ∈ tables.pins, ∀ gain ∈ tables.routedGains, gain.control ≠ pin.control
  values : ∀ pin ∈ tables.pins, ∀ other ∈ tables.pins, pin.control = other.control →
    other.disabled ≠ some pin.enabled

/-- No two controls of the codec are in each other's way. -/
theorem CodecTables.tidy_stock : CodecTables.stock.Tidy where
  gains := by decide +kernel
  values := by decide +kernel

namespace Run

variable {run : Run}

/-- Calls fit a control to what is routed, as long as it is not a gain. -/
theorem fits_calling {router : Router} {control : String} {settled : Bool}
    (there : run.machine.hardware.router = some router)
    (fits : router.Fits control settled (run.machine.drivers.mixer.value? control))
    (other : ∀ gain ∈ router.tables.routedGains, gain.control ≠ control)
    (calls : List (Conditions × RouterCall)) (obliging : ∀ entry ∈ calls, entry.1.Obliging) :
    (router.afterCalls (calls.map Prod.snd)).Fits control
      (router.settledAfter control settled (calls.map Prod.snd))
      ((run.calling calls).machine.drivers.mixer.value? control) := by
  induction calls generalizing run router settled with
  | nil => exact fits
  | cons entry more ih =>
      obtain ⟨conditions, call⟩ := entry
      have works := call.works router
      obtain ⟨missing, rejected⟩ := obliging _ List.mem_cons_self
      have willing : (run.under conditions).machine.drivers.mixer.Obliging := ⟨missing, rejected⟩
      have under : (run.under conditions).machine.hardware.router = some router := there
      have next := fits.step works other
      have value := value?_steered willing (call.onRouter router).1 (call.onRouter router).2 control
      rw [← perform_of_some under] at value
      refine ih ?_ (value ▸ next) ?_ fun entry member =>
        obliging entry (List.mem_cons_of_mem _ member)
      · exact (congrArg (fun run => run.machine.hardware.router) (perform_of_some under call)).trans
          (router_steered _ _ _)
      · rw [works.tables]
        exact other

/-- The controls that the wirings in use set, after calls on a router that was fresh. -/
structure ControlsFit (run : Run) (router : Router) (calls : List RouterCall) : Prop where
  /-- As long as what was last applied to a control is still there, some lane applies it. -/
  applied : ∀ lane, ∀ wiring ∈ router.inUse lane, ∀ pin ∈ wiring.pins,
    Router.settledAfter pin.control { tables := router.tables } true calls = true →
      router.InForce pin.control (run.machine.drivers.mixer.value? pin.control)
  /-- After that, a control that every pin reverts is at rest, which no lane wants it to be. -/
  resting : ∀ lane, ∀ wiring ∈ router.inUse lane, ∀ pin ∈ wiring.pins,
    Router.settledAfter pin.control { tables := router.tables } true calls = false →
      router.tables.Reverts pin.control →
        ¬ router.InForce pin.control (run.machine.drivers.mixer.value? pin.control) ∧
          ∃ value, router.tables.RestsAt pin.control value ∧
            run.machine.drivers.mixer.value? pin.control = some value

/-- **Controls.** On a mixer that refuses nothing, a control that a wiring in use sets has what some
lane applies to it, until a lane reverts it that needs it no more. -/
theorem Wired.controlsFit {tables : CodecTables} (wired : run.Wired tables) (tidy : tables.Tidy)
    {calls : List (Conditions × RouterCall)} (obliging : ∀ entry ∈ calls, entry.1.Obliging) :
    ∃ router, (run.calling calls).machine.hardware.router = some router ∧ router.tables = tables ∧
      (run.calling calls).ControlsFit router (calls.map Prod.snd) := by
  have fits : ∀ control, (∀ gain ∈ tables.routedGains, gain.control ≠ control) →
      (Router.afterCalls { tables := tables } (calls.map Prod.snd)).Fits control
        (Router.settledAfter control { tables := tables } true (calls.map Prod.snd))
        ((run.calling calls).machine.drivers.mixer.value? control) := by
    refine fun control other => fits_calling wired.router ?_ other calls obliging
    refine ⟨fun _ => .inl fun lane => ?_, fun _ => nofun⟩
    unfold Router.applied?
    rw [Router.inUse_fresh]
    rfl
  have there := router_calling calls wired.router
  have same := Router.tables_afterCalls { tables := tables } (calls.map Prod.snd)
  generalize Router.afterCalls { tables := tables } (calls.map Prod.snd) = router at *
  obtain rfl : router.tables = tables := same
  refine ⟨router, there, rfl, ?_, ?_⟩
  · intro lane wiring used pin member settled
    have fits := fits pin.control (tidy.gains pin (Router.mem_pins used member))
    obtain unused | inForce := fits.applied settled
    · exact absurd rfl (Router.applied?_eq_none.mp (unused lane) wiring used pin member)
    · exact inForce
  · intro lane wiring used pin member unsettled reverts
    have fits := fits pin.control (tidy.gains pin (Router.mem_pins used member))
    obtain ⟨resting, rests, value⟩ := fits.resting reverts unsettled
    refine ⟨?_, resting, rests, value⟩
    -- No pin enables the control at the value that it rests at.
    rintro ⟨lane, _, left, applied⟩
    obtain ⟨wiring, used, enabling, member, here, rfl⟩ :=
      Router.mem_applied.mp (ControlWrite.mem_of_last? left)
    obtain ⟨reverting, listed, reverted, disabled⟩ := rests
    have apart := tidy.values enabling (Router.mem_pins used member) reverting listed
      (here.trans reverted.symm)
    rw [disabled, ← value] at apart
    exact apart applied

/-- Playback on the earpiece, while a call on it begins and ends. -/
def earpieceCalls : List (Conditions × RouterCall) :=
  [({}, .setRoute .playback (.ofList [.earpiece])),
    ({}, .setRoute .downlink (.ofList [.earpiece])), ({}, .setRoute .downlink .none)]

theorem obliging_earpieceCalls : ∀ entry ∈ earpieceCalls, entry.1.Obliging := by
  unfold Conditions.Obliging
  decide +kernel

/-- Playback still has the earpiece in use, whose switch nobody applied since it was reverted. -/
theorem Wired.controlsFit_earpieceCalls :
    (∃ router, (wiredStock.calling earpieceCalls).machine.hardware.router = some router ∧
      router.tables = .stock ∧
      (wiredStock.calling earpieceCalls).ControlsFit router (earpieceCalls.map Prod.snd)) ∧
    Router.settledAfter "Earpiece Switch" { tables := .stock } true
      (earpieceCalls.map Prod.snd) = false :=
  ⟨wired_stock.controlsFit CodecTables.tidy_stock obliging_earpieceCalls, by decide +kernel⟩

/-- Every control that a wiring in use sets, gains of endpoints apart, has what the endpoints of
some lane leave on it. -/
def RoutesHold (run : Run) : Prop :=
  ∀ router, run.machine.hardware.router = some router →
    ∀ lane, ∀ wiring ∈ router.inUse lane, ∀ pin ∈ wiring.pins,
      pin.control ∉ router.tables.endpointGains.map (fun entry => entry.2.control) →
        router.InForce pin.control (run.machine.drivers.mixer.value? pin.control)

/-- The end of a call on the earpiece silences playback on it. -/
theorem Wired.not_routesHold : ¬ ∀ (run : Run) (calls : List (Conditions × RouterCall)),
    run.Wired .stock → run.machine.drivers.mixer.Obliging →
      (∀ entry ∈ calls, entry.1.Obliging) → (run.calling calls).RoutesHold := by
  intro holds
  have there := router_calling earpieceCalls wired_stock.router
  have obliging : wiredStock.machine.drivers.mixer.Obliging :=
    ⟨by decide +kernel, by decide +kernel⟩
  obtain ⟨lane, value, applied, left⟩ :=
    holds _ _ wired_stock obliging obliging_earpieceCalls _ there .playback
      ⟨.earpiece, Stock.switches ["LOUT1 Mixer DACL", "ROUT1 Mixer DACR", "Earpiece Switch"], none⟩
      (by decide +kernel) (.toggle "Earpiece Switch" true) (by decide +kernel) (by decide +kernel)
  have resting : (wiredStock.calling earpieceCalls).machine.drivers.mixer.value? "Earpiece Switch" =
      some (.number 0) := by
    decide +kernel
  have wanted : ∀ lane ∈ Lane.all,
      (Router.afterCalls { tables := .stock } (earpieceCalls.map Prod.snd)).applied?
        "Earpiece Switch" lane ≠ some (.number 0) := by
    decide +kernel
  have same : some value = some (.number 0) := left.symm.trans resting
  refine wanted lane ?_ (applied.trans same)
  cases lane <;> decide

end Run

end PhoneAudio
