import PhoneAudio.Proofs.Routing.Radio
import PhoneAudio.Proofs.Routing.Writes

/-!
# Missing and refusing controls

A mixer whose controls are missing, or refuse writes, is compared to one without such faults. The
router does the same on both, and so do the Bluetooth links; the faulty mixer logs what the other
one does, without the writes to the controls at fault (`PhoneAudio.Run.faultsErase`).
-/

namespace PhoneAudio

open Bench (ControlWrite Faults)

/-- The conditions with other faults of the mixer. -/
def Conditions.faulty (conditions : Conditions) (faults : Faults) : Conditions :=
  { conditions with missing := faults.missing, rejected := faults.rejected }

namespace Run

/-- Two runs that went on from the same one, the first without faults of the mixer: the second is
what the faults make of it. -/
structure Erases (before : Run) (faults : Faults) (free faulty : Run) : Prop where
  /-- The router is the same: routes, lanes that are off, volumes and the playback factor. -/
  router : faulty.machine.hardware.router = free.machine.hardware.router
  /-- The holds of the links are the same, and so are the PCMs opened and closed. -/
  radio : faulty.radio = free.radio
  /-- Both runs attempt the same writes, and only those to controls at fault are missing from the
  log. -/
  writes : ∃ asked : List ControlWrite,
    free.lookups = before.lookups ++ asked.map ControlWrite.control ∧
    faulty.lookups = before.lookups ++ asked.map ControlWrite.control ∧
    free.writes = before.writes ++ asked ∧
    faulty.writes = before.writes ++ asked.filter faults.spares

namespace Erases

variable {before free faulty : Run} {faults : Faults}

/-- Conditions under which the mixer has the faults that it always has. -/
theorem under (erases : Erases before faults free faulty) (conditions : Conditions) :
    Erases before faults (free.under (conditions.faulty {}))
      (faulty.under (conditions.faulty faults)) where
  router := erases.router
  radio := radio_under erases.radio (conditions.faulty faults) [] []
  writes := erases.writes

/-- The same router taking the same steps on both mixers. -/
theorem steered (erases : Erases before faults free faulty)
    (none : free.machine.drivers.mixer.faults = {})
    (some : faulty.machine.drivers.mixer.faults = faults) (router : Router)
    (steps : List RouteStep) :
    Erases before faults (free.steered router steps) (faulty.steered router steps) where
  router := (faulty.router_steered router steps).trans (free.router_steered router steps).symm
  radio := radio_steered erases.radio router router rfl
  writes := by
    obtain ⟨asked, freeLookups, faultyLookups, freeWrites, faultyWrites⟩ := erases.writes
    let more := steps.filterMap RouteStep.write?
    have all : more.filter (Faults.spares {}) = more :=
      List.filter_eq_self.mpr fun write _ => write.spares_none
    refine ⟨asked ++ more, ?_, ?_, ?_, ?_⟩
    · rw [lookups_steered, freeLookups, List.map_append, List.append_assoc]
    · rw [lookups_steered, faultyLookups, List.map_append, List.append_assoc]
    · apply (free.writes_steered router steps).trans
      rw [none, all, ← List.append_assoc]
      exact congrArg (· ++ more) freeWrites
    · apply (faulty.writes_steered router steps).trans
      rw [some, List.filter_append, ← List.append_assoc]
      exact congrArg (· ++ more.filter faults.spares) faultyWrites

/-- A call on both mixers, which does nothing where there is no router. -/
theorem perform (erases : Erases before faults free faulty) (conditions : Conditions)
    (call : RouterCall) :
    Erases before faults (call.perform (free.under (conditions.faulty {}))).2
      (call.perform (faulty.under (conditions.faulty faults))).2 := by
  have under := erases.under conditions
  cases there : (free.under (conditions.faulty {})).machine.hardware.router with
  | none =>
      rw [call.perform_eq, Act.reroute_of_none there,
        Act.reroute_of_none (under.router.trans there)]
      exact under
  | some router =>
      rw [perform_of_some there, perform_of_some (under.router.trans there)]
      exact under.steered rfl rfl _ _

/-- Calls under faults erase to calls without any. -/
theorem calling (erases : Erases before faults free faulty)
    (calls : List (Conditions × RouterCall)) :
    Erases before faults
      (free.calling (calls.map fun entry => (entry.1.faulty {}, entry.2)))
      (faulty.calling (calls.map fun entry => (entry.1.faulty faults, entry.2))) := by
  induction calls generalizing free faulty with
  | nil => exact erases
  | cons entry more ih => exact ih (erases.perform entry.1 entry.2)

end Erases

/-- Asking the mixer to open looks nothing up. -/
theorem erases_asking (before : Run) (faults : Faults) (conditions : Conditions) :
    Erases before faults (before.under (conditions.faulty {})).asking
      (before.under (conditions.faulty faults)).asking where
  router := rfl
  radio := by
    have asked := Act.keeps_radio_mixerCall .openingMixer .openMixer rfl
      fun mixer => (mixer.tryOpen, mixer)
    apply (asked _).trans
    apply Eq.trans _ (asked _).symm
    exact radio_under rfl (conditions.faulty faults) [] []
  writes := by
    have lookups (faults : Faults) :
        (before.under (conditions.faulty faults)).asking.lookups = before.lookups :=
      (Act.lookups_call _ _ rfl _ _).trans (List.append_nil _)
    refine ⟨[], ?_, ?_, ?_, ?_⟩
    · exact (lookups {}).trans (List.append_nil _).symm
    · exact (lookups faults).trans (List.append_nil _).symm
    · exact (List.append_nil _).symm
    · exact (List.append_nil _).symm

/-- The run in which a router is put on the mixer and calls are made on it, while the mixer has the
same faults all the time. -/
def routed (before : Run) (tables : CodecTables) (faults : Faults) (opening : Conditions)
    (calls : List (Conditions × RouterCall)) : Run :=
  (Act.openRouter tables (before.under (opening.faulty faults))).2.calling
    (calls.map fun entry => (entry.1.faulty faults, entry.2))

/-- **Faults.** Controls that are missing or refuse writes lose their own writes, and nothing
else. -/
theorem faultsErase (before : Run) (tables : CodecTables) (faults : Faults) (opening : Conditions)
    (calls : List (Conditions × RouterCall)) :
    (Act.openRouter tables (before.under (opening.faulty faults))).1 =
        (Act.openRouter tables (before.under (opening.faulty {}))).1 ∧
      Erases before faults (before.routed tables {} opening calls)
        (before.routed tables faults opening calls) := by
  have asked := erases_asking before faults opening
  have opens (faults : Faults) :
      (before.under (opening.faulty faults)).machine.drivers.mixer.tryOpen =
        before.machine.drivers.mixer.tryOpen := rfl
  unfold routed
  rw [openRouter_eq, openRouter_eq, opens, opens]
  cases before.machine.drivers.mixer.tryOpen with
  | error error => exact ⟨rfl, asked.calling calls⟩
  | ok => exact ⟨rfl, (asked.steered rfl rfl _ _).calling calls⟩

end Run

end PhoneAudio
