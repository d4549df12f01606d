import PhoneAudio.Proofs.Machine.Core

/-!
# Routing and the core

What routing does to the core of the machine: it changes the router as the router says, whatever the
mixer and the Bluetooth links make of the steps (`PhoneAudio.Act.leads_reroute`).
-/

namespace PhoneAudio

namespace Bench.Pcm

/-- Opening fails and leaves the open PCMs, or adds one that was asked for. -/
theorem openPcm_cases (driver : Pcm) (setup : PcmSetup) :
    (∃ error, (driver.openPcm setup).1 = .error error ∧
      (driver.openPcm setup).2.live = driver.live) ∨
    ∃ pcm, (driver.openPcm setup).1 = .ok pcm ∧ pcm.setup = setup ∧
      (driver.openPcm setup).2.live = (setup.bus, setup.direction) :: driver.live := by
  have device : ∀ driver : Pcm,
      (∃ error, driver.openDevice setup = (.error error, driver)) ∨
      ∃ pcm after, driver.openDevice setup = (.ok pcm, after) ∧ pcm.setup = setup ∧
        after.live = (setup.bus, setup.direction) :: driver.live := by
    intro driver
    unfold openDevice
    split
    · exact .inl ⟨_, rfl⟩
    · exact .inr ⟨_, _, rfl, rfl, rfl⟩
  unfold openPcm
  split
  · obtain ⟨error, same⟩ | ⟨pcm, after, same, opened, live⟩ := device driver
    · rw [same]
      exact .inl ⟨error, rfl, rfl⟩
    · rw [same]
      exact .inr ⟨pcm, rfl, opened, live⟩
  · rename_i outcome rest _
    obtain ⟨error, same⟩ | ⟨pcm, after, same, opened, live⟩ :=
      device { driver with openScript := rest }
    · cases outcome with
      | fails planned => exact .inl ⟨planned, rfl, rfl⟩
      | _ =>
          simp only [same]
          exact .inl ⟨error, rfl, trivial⟩
    · cases outcome with
      | fails planned => exact .inl ⟨planned, rfl, rfl⟩
      | _ =>
          simp only [same]
          exact .inr ⟨_, rfl, opened, live⟩

end Bench.Pcm

namespace Act

variable {state : Machine}

/-- Reading the links: their PCMs are not the codec's. -/
theorem leads_links :
    Leads Run.Shows hardware state fun read after => after = state ∧
      ∀ direction pcm, (read.links.get direction).pcm = some pcm → pcm.setup.bus = .bluetooth :=
  fun _ shown => ⟨state, shown, rfl, shown.tallied.linked⟩

theorem leads_setLink (direction : Direction) {link : LinkEnd}
    (bluetooth : ∀ pcm, link.pcm = some pcm → pcm.setup.bus = .bluetooth) :
    Leads Run.Shows (setLink direction link) state fun _ after => after = state := by
  refine fun run shown => ⟨state, ⟨shown.core_eq, ?_⟩, rfl⟩
  refine ⟨shown.tallied.live_eq, shown.tallied.held, fun other pcm holds => ?_⟩
  have kept := shown.tallied.linked other pcm
  cases direction <;> cases other <;> first | exact bluetooth pcm holds | exact kept holds

theorem leads_openLink (direction : Direction) :
    Leads Run.Shows (openLink direction) state fun opened after =>
      after = state ∧ ∀ pcm, opened = some pcm → pcm.setup.bus = .bluetooth := by
  have call : Leads Run.Shows
      (bareCall (.openPcm .router (.bluetooth direction))
        (onPcm (·.openPcm (.bluetooth direction))))
      state fun answer after => after = state ∧ ∀ pcm, answer = .ok pcm →
        pcm.setup.bus = .bluetooth := by
    refine (leads_note _).then fun _ run shown => ⟨state, ⟨shown.core_eq, ?_⟩, rfl, ?_⟩
    · obtain ⟨_, _, live⟩ | ⟨_, _, _, live⟩ :=
        run.machine.drivers.pcm.openPcm_cases (.bluetooth direction)
      · exact live ▸ shown.tallied
      · refine live ▸ ⟨fun way => ?_, shown.tallied.held, shown.tallied.linked⟩
        rw [← shown.tallied.live_eq]
        refine List.count_cons_of_ne fun same => ?_
        have bus : PcmBus.bluetooth = .codec := congrArg Prod.fst same
        cases bus
    · intro pcm opened
      obtain ⟨_, failed, _⟩ | ⟨_, answer, setup, _⟩ :=
        run.machine.drivers.pcm.openPcm_cases (.bluetooth direction)
      · cases failed.symm.trans opened
      · cases answer.symm.trans opened
        rw [setup]
        rfl
  refine call.read fun opened bluetooth => ?_
  cases opened with
  | error error =>
      refine leads_pure _ ⟨rfl, ?_⟩
      rintro _ ⟨⟩
  | ok pcm =>
    have bus := bluetooth pcm rfl
    dsimp only
    split
    · refine (leads_bareCall _ fun _ => rfl).then fun _ => leads_pure _ ⟨rfl, ?_⟩
      rintro _ ⟨⟩
      exact bus
    · refine leads_pure _ ⟨rfl, ?_⟩
      rintro _ ⟨⟩
      exact bus

theorem leads_closing {pcm : OpenPcm} (bluetooth : pcm.setup.bus = .bluetooth)
    (what : Happening) :
    Leads Run.Shows (bareCall what (closing pcm)) state fun _ after => after = state := by
  refine (leads_note _).then fun _ run shown => ⟨state, ⟨shown.core_eq, ?_⟩, rfl⟩
  refine shown.tallied.erase_other ?_
  rw [bluetooth]
  exact nofun

theorem leads_closeLink (direction : Direction) :
    Leads Run.Shows (closeLink direction) state fun _ after => after = state := by
  refine leads_links.read fun read bluetooth => ?_
  refine (leads_setLink direction ?_).then fun _ => ?_
  · rintro _ ⟨⟩
  cases link : (read.links.get direction).pcm with
  | none => exact leads_pure _ rfl
  | some pcm => exact leads_closing (bluetooth direction pcm link) _

theorem leads_holdLink (direction : Direction) :
    Leads Run.Shows (holdLink direction) state fun _ after => after = state := by
  refine leads_links.read fun read bluetooth => ?_
  dsimp only
  cases Word.next? (read.links.get direction).holds with
  | none => exact leads_pure _ rfl
  | some holds =>
      refine (leads_setLink direction ?_).then fun _ => ?_
      · exact bluetooth direction
      · split
        · exact (leads_openLink direction).read fun _ opened => leads_setLink direction opened
        · exact leads_pure _ rfl

theorem leads_letGoLink (direction : Direction) :
    Leads Run.Shows (letGoLink direction) state fun _ after => after = state := by
  refine leads_links.read fun read bluetooth => ?_
  dsimp only
  split
  · refine (leads_setLink direction ?_).then fun _ => ?_
    · exact bluetooth direction
    · split
      · exact leads_closeLink direction
      · exact leads_pure _ rfl
  · exact leads_pure _ rfl

theorem leads_writeControl (control : String) (value : ControlValue) :
    Leads Run.Shows (writeControl control value) state fun _ after => after = state := by
  refine (leads_call _ _ _ fun _ => rfl).then fun handle => ?_
  cases handle with
  | none => exact leads_pure _ rfl
  | some handle => exact (leads_call _ _ _ fun _ => rfl).then fun _ => leads_pure _ rfl

theorem leads_takeSteps (steps : List RouteStep) :
    Leads Run.Shows (takeSteps steps) state fun _ after => after = state := by
  induction steps with
  | nil => exact leads_pure _ rfl
  | cons step rest ih =>
      have first : Leads Run.Shows (takeStep step) state fun _ after => after = state := by
        cases step with
        | write control value => exact leads_writeControl control value
        | hold link => exact leads_holdLink link
        | letGo link => exact leads_letGoLink link
      exact first.then fun _ => ih

/-- **Routing.** A change to the router does to the core what it says for the router. -/
theorem leads_reroute (f : Router → Router × List RouteStep) :
    Leads Run.Shows (reroute f) state fun _ after => after = state.reroute f := by
  refine leads_hardware.read fun read same => ?_
  have routers : read.router = state.hardware.router := by
    rw [← same]
    rfl
  cases router : read.router with
  | none =>
      rw [Machine.reroute_of_none f (routers.symm.trans router)]
      exact leads_pure _ rfl
  | some router =>
      rw [Machine.reroute_of_some f (routers.symm.trans router)]
      refine (leads_changeHardware ?_ ?_).then fun _ => leads_takeSteps _
      · exact fun _ => rfl
      · exact fun _ => rfl

end Act

end PhoneAudio
