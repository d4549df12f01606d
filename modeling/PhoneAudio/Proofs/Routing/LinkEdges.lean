import PhoneAudio.Proofs.Routing.Links
import PhoneAudio.Proofs.Routing.Radio

/-!
# Edges of the Bluetooth links

Calls that take and let go of holds, in any order and whatever the PCM driver answers, open the PCM
of a link when its first hold is taken and close it when the last one is let go
(`PhoneAudio.Run.linksOnEdges`). In between the link stays as its latest first hold left it: with
the PCM that was opened then, or with none if the open failed. Holds are counted in words, and the
program stops at a hold that cannot be counted.
-/

namespace PhoneAudio

/-- A call on the Bluetooth links: one of them gets one more hold, or one less. -/
inductive LinkCall
  | hold (direction : Direction)
  | letGo (direction : Direction)
deriving DecidableEq

/-- The driver's answer when a link is opened under conditions. -/
def Conditions.opening (conditions : Conditions) (direction : Direction) :
    Except PcmError OpenPcm :=
  ((({} : Drivers).under conditions).pcm.openPcm (.bluetooth direction)).1

/-- The calls to the PCM driver when a link is opened: the open, and a start of a PCM that is
ready. -/
def openingCalls (direction : Direction) : Except PcmError OpenPcm → List Happening
  | .error _ => [.openPcm .router (.bluetooth direction)]
  | .ok pcm =>
    .openPcm .router (.bluetooth direction) ::
      if pcm.ready then [.startPcm .router (.bluetooth direction)] else []

/-- The link of a direction. -/
def Run.link (run : Run) (direction : Direction) : LinkEnd :=
  run.machine.hardware.links.get direction

namespace LinkCall

/-- The link that a call is for. -/
def direction : LinkCall → Direction
  | hold direction => direction
  | letGo direction => direction

/-- Performs a call. A hold that cannot be counted has no result: the program stops there. -/
def perform? (call : LinkCall) (run : Run) : Option Run :=
  match call with
  | hold direction =>
    (Word.next? (run.link direction).holds).map fun _ => (Act.holdLink direction run).2
  | letGo direction => some (Act.letGoLink direction run).2

/-- The link after a call for it, by the answer that its PCM would open with. -/
def onLink (link : LinkEnd) (answer : Except PcmError OpenPcm) : LinkCall → LinkEnd
  | hold _ => ⟨link.holds + 1, if link.holds = 0 then answer.toOption else link.pcm⟩
  | letGo _ =>
    if link.holds = 0 then link
    else ⟨link.holds - 1, if link.holds = 1 then none else link.pcm⟩

/-- The calls to the PCM driver that a call for a link comes to. -/
def pcmCalls (link : LinkEnd) (answer : Except PcmError OpenPcm) : LinkCall → List Happening
  | hold direction => if link.holds = 0 then openingCalls direction answer else []
  | letGo _ =>
    if link.holds = 1 then link.pcm.toList.map fun pcm => .closePcm .router pcm.setup else []

end LinkCall

/-- One of the links was replaced, and the PCM driver got calls. -/
structure Run.Relinked (run : Run) (direction : Direction) (link : LinkEnd)
    (calls : List Happening) (after : Run) : Prop where
  links : after.machine.hardware.links = run.machine.hardware.links.set direction link
  pcmCalls : after.pcmCalls = run.pcmCalls ++ calls

/-- Replacing a link by itself changes nothing. -/
theorem Links.set_get (links : Links) (direction : Direction) :
    links.set direction (links.get direction) = links := by
  cases direction <;> rfl

namespace Act

variable {direction : Direction} {run : Run} {answer : Except PcmError OpenPcm}

theorem pcmCalls_bareCall {α : Type} (what : Happening) (effect : Drivers → α × Drivers)
    (run : Run) :
    (bareCall what effect run).2.pcmCalls = run.pcmCalls ++ [what].filter Happening.isPcmCall :=
  pcmCalls_note what run

/-- Opening a link gives the PCM that the driver opens, if any, and leaves the audio hardware. -/
theorem openLink_spec
    (opens : (run.machine.drivers.pcm.openPcm (.bluetooth direction)).1 = answer) :
    (openLink direction run).1 = answer.toOption ∧
      (openLink direction run).2.machine.hardware = run.machine.hardware ∧
        (openLink direction run).2.pcmCalls = run.pcmCalls ++ openingCalls direction answer := by
  let opened := bareCall (.openPcm .router (.bluetooth direction))
    (onPcm (·.openPcm (.bluetooth direction))) run
  have answered : opened.1 = answer := opens
  have called : opened.2.pcmCalls = run.pcmCalls ++ [.openPcm .router (.bluetooth direction)] :=
    pcmCalls_bareCall ..
  unfold openLink
  dsimp only
  rw [bind_apply, answered]
  cases answer with
  | error error => exact ⟨rfl, rfl, called⟩
  | ok pcm =>
      rw [openingCalls]
      dsimp only
      by_cases ready : pcm.ready = true
      · rw [if_pos ready, if_pos ready]
        have started := pcmCalls_bareCall (.startPcm .router (.bluetooth direction))
          (onPcm (·.start pcm)) opened.2
        rw [called, List.append_assoc] at started
        exact ⟨rfl, rfl, started⟩
      · rw [if_neg ready, if_neg ready]
        exact ⟨rfl, rfl, called⟩

/-- Holding a link opens its PCM with the first hold. -/
theorem relinked_holdLink {holds : UInt32}
    (counted : Word.next? (run.link direction).holds = some holds)
    (opens : (run.machine.drivers.pcm.openPcm (.bluetooth direction)).1 = answer) :
    run.Relinked direction ((LinkCall.hold direction).onLink (run.link direction) answer)
      ((LinkCall.hold direction).pcmCalls (run.link direction) answer)
      (holdLink direction run).2 := by
  have same : run.machine.hardware.links.get direction = run.link direction := rfl
  obtain ⟨rfl, first⟩ := Word.next?_eq_some counted
  unfold holdLink LinkCall.onLink LinkCall.pcmCalls
  rw [bind_apply, hardware_apply]
  dsimp only
  rw [same, counted]
  dsimp only
  let held := (setLink direction ⟨(run.link direction).holds + 1, (run.link direction).pcm⟩ run).2
  by_cases free : (run.link direction).holds = 0
  · have answers : (held.machine.drivers.pcm.openPcm (.bluetooth direction)).1 = answer := opens
    obtain ⟨answered, hardware, calls⟩ := openLink_spec answers
    rw [bind_apply, if_pos (first.mpr free), if_pos free, if_pos free, bind_apply]
    refine ⟨?_, calls⟩
    change (openLink direction held).2.machine.hardware.links.set direction
      ⟨1, (openLink direction held).1⟩ = _
    rw [answered, hardware, free]
    exact run.machine.hardware.links.set_set direction _ _
  · rw [bind_apply, if_neg fun one => free (first.mp one), if_neg free, if_neg free]
    exact ⟨rfl, (List.append_nil _).symm⟩

/-- Letting go of a link closes its PCM with the last hold. -/
theorem relinked_letGoLink (direction : Direction) (run : Run)
    (answer : Except PcmError OpenPcm) :
    run.Relinked direction ((LinkCall.letGo direction).onLink (run.link direction) answer)
      ((LinkCall.letGo direction).pcmCalls (run.link direction) answer)
      (letGoLink direction run).2 := by
  have same : run.machine.hardware.links.get direction = run.link direction := rfl
  unfold letGoLink LinkCall.onLink LinkCall.pcmCalls
  rw [bind_apply, hardware_apply]
  dsimp only
  rw [same]
  by_cases none : (run.link direction).holds = 0
  · have free : ¬ 0 < (run.link direction).holds := by simp [none]
    have last : ¬ (run.link direction).holds = 1 := by simp [none]
    rw [if_neg free, if_pos none, if_neg last]
    exact ⟨(run.machine.hardware.links.set_get direction).symm, (List.append_nil _).symm⟩
  have held : 0 < (run.link direction).holds := UInt32.pos_iff_ne_zero.mpr none
  rw [if_pos held, if_neg none, bind_apply]
  by_cases last : (run.link direction).holds = 1
  · let counted :=
      (setLink direction ⟨(run.link direction).holds - 1, (run.link direction).pcm⟩ run).2
    have there : counted.machine.hardware.links.get direction =
        ⟨(run.link direction).holds - 1, (run.link direction).pcm⟩ :=
      run.machine.hardware.links.get_set_self direction _
    have links : ∀ link, counted.machine.hardware.links.set direction link =
        run.machine.hardware.links.set direction link :=
      fun link => run.machine.hardware.links.set_set direction link _
    rw [if_pos last, if_pos last, if_pos last]
    change run.Relinked direction _ _ (closeLink direction counted).2
    unfold closeLink
    rw [bind_apply, hardware_apply]
    dsimp only
    rw [there, bind_apply]
    dsimp only
    cases (run.link direction).pcm with
    | none => exact ⟨links _, (List.append_nil _).symm⟩
    | some pcm => exact ⟨links _, pcmCalls_bareCall ..⟩
  · rw [if_neg last, if_neg last, if_neg last]
    exact ⟨rfl, (List.append_nil _).symm⟩

end Act

/-- How a link is opened is up to the conditions. -/
theorem Drivers.openPcm_under (drivers : Drivers) (conditions : Conditions)
    (direction : Direction) :
    ((drivers.under conditions).pcm.openPcm (.bluetooth direction)).1 =
      conditions.opening direction := by
  obtain ⟨_, _, fails, _, _, script, _, _⟩ := conditions
  cases script with
  | nil => cases fails <;> rfl
  | cons outcome rest => cases outcome <;> cases fails <;> rfl

namespace LinkCall

/-- **A call** replaces its link only, and by that link alone and the driver's answer. -/
theorem relinked_perform? {call : LinkCall} {run after : Run} {conditions : Conditions}
    (performed : call.perform? (run.under conditions) = some after) :
    (run.under conditions).Relinked call.direction
      (call.onLink (run.link call.direction) (conditions.opening call.direction))
      (call.pcmCalls (run.link call.direction) (conditions.opening call.direction)) after := by
  cases call with
  | hold direction =>
      obtain ⟨_, counted, rfl⟩ := Option.map_eq_some_iff.mp performed
      exact Act.relinked_holdLink counted (run.machine.drivers.openPcm_under ..)
  | letGo direction =>
      cases performed
      exact Act.relinked_letGoLink direction (run.under conditions) _

/-- The program stops at a hold of a link that is held as often as can be counted. -/
theorem perform?_eq_none {call : LinkCall} {run : Run} :
    call.perform? run = none ↔
      ∃ direction, call = hold direction ∧ (run.link direction).holds.toNat + 1 = 2 ^ 32 := by
  cases call with
  | hold direction => simp [perform?, Word.next?_eq_none_iff, UInt32.size]
  | letGo direction => simp [perform?]

end LinkCall

namespace LinkCall

/-- The holds of the link of a direction after a call. Letting go without a hold does not count. -/
def holds (way : Direction) (held : Nat) : LinkCall → Nat
  | hold direction => if direction = way then held + 1 else held
  | letGo direction => if direction = way then held - 1 else held

/-- The holds of a link after calls. -/
def holdsAfter (way : Direction) (held : Nat) (calls : List (Conditions × LinkCall)) : Nat :=
  calls.foldl (fun held entry => entry.2.holds way held) held

/-- The conditions under which calls took a first hold of a link, in order. -/
def firstHolds (way : Direction) (held : Nat) : List (Conditions × LinkCall) → List Conditions
  | [] => []
  | (conditions, call) :: rest =>
    (if call = hold way ∧ held = 0 then [conditions] else []) ++
      firstHolds way (call.holds way held) rest

/-- The PCM that was opened when calls took a first hold of a link for the last time. -/
def opened? (way : Direction) (calls : List (Conditions × LinkCall)) : Option OpenPcm :=
  (firstHolds way 0 calls).getLast?.bind fun conditions => (conditions.opening way).toOption

variable {way : Direction}

/-- One more call counts last. -/
theorem holdsAfter_concat (held : Nat) (calls : List (Conditions × LinkCall))
    (conditions : Conditions) (call : LinkCall) :
    holdsAfter way held (calls ++ [(conditions, call)]) =
      call.holds way (holdsAfter way held calls) :=
  List.foldl_append

/-- One more call is a first hold if nothing is held before. -/
theorem firstHolds_concat (held : Nat) (calls : List (Conditions × LinkCall))
    (conditions : Conditions) (call : LinkCall) :
    firstHolds way held (calls ++ [(conditions, call)]) = firstHolds way held calls ++
      if call = hold way ∧ holdsAfter way held calls = 0 then [conditions] else [] := by
  induction calls generalizing held with
  | nil => exact List.append_nil _
  | cons entry rest ih =>
      rw [List.cons_append, firstHolds, ih, firstHolds, List.append_assoc]
      rfl

/-- One more first hold decides what the link is open with. -/
theorem opened?_concat (calls : List (Conditions × LinkCall)) (conditions : Conditions)
    (call : LinkCall) :
    opened? way (calls ++ [(conditions, call)]) =
      if call = hold way ∧ holdsAfter way 0 calls = 0 then (conditions.opening way).toOption
      else opened? way calls := by
  rw [opened?, firstHolds_concat]
  split
  · rw [List.getLast?_concat]
    rfl
  · rw [List.append_nil]
    rfl

/-- A link that is open has the PCM of its direction. -/
theorem setup_of_opened? {calls : List (Conditions × LinkCall)} {pcm : OpenPcm}
    (opened : opened? way calls = some pcm) : pcm.setup = .bluetooth way := by
  obtain ⟨conditions, -, answered⟩ := Option.bind_eq_some_iff.mp opened
  obtain ⟨_, failed, _⟩ | ⟨other, answer, setup, _⟩ :=
    (({} : Drivers).under conditions).pcm.openPcm_cases (.bluetooth way)
  · rw [Conditions.opening, failed] at answered
    cases answered
  · rw [Conditions.opening, answer] at answered
    cases answered
    exact setup

/-- Calls for the other direction do not count. -/
theorem holds_of_ne {call : LinkCall} (ne : call.direction ≠ way) (held : Nat) :
    call.holds way held = held := by
  cases call <;> exact if_neg ne

/-- Calls for other links count for nothing. -/
theorem holdsAfter_filter (held : Nat) (calls : List (Conditions × LinkCall)) :
    holdsAfter way held (calls.filter (·.2.direction = way)) = holdsAfter way held calls := by
  induction calls generalizing held with
  | nil => rfl
  | cons entry rest ih =>
      by_cases same : entry.2.direction = way
      · rw [List.filter_cons_of_pos (by simpa using same)]
        exact ih _
      · rw [List.filter_cons_of_neg (by simpa using same), ih]
        exact congrArg (holdsAfter way · rest) (holds_of_ne same held).symm

/-- The first holds of a link are found in its own calls. -/
theorem firstHolds_filter (held : Nat) (calls : List (Conditions × LinkCall)) :
    firstHolds way held (calls.filter (·.2.direction = way)) = firstHolds way held calls := by
  induction calls generalizing held with
  | nil => rfl
  | cons entry rest ih =>
      obtain ⟨conditions, call⟩ := entry
      by_cases same : call.direction = way
      · rw [List.filter_cons_of_pos (by simpa using same), firstHolds, firstHolds, ih]
      · have other : ¬ (call = hold way ∧ held = 0) := by
          rintro ⟨rfl, -⟩
          exact same rfl
        rw [List.filter_cons_of_neg (by simpa using same), ih, firstHolds, if_neg other,
          holds_of_ne same, List.nil_append]

/-- What a link is open with is decided by its own calls. -/
theorem opened?_filter (calls : List (Conditions × LinkCall)) :
    opened? way (calls.filter (·.2.direction = way)) = opened? way calls := by
  rw [opened?, firstHolds_filter]
  rfl

end LinkCall

/-- How often a link is held, and its PCM, if it has one while it is held. -/
structure LinkEnd.Held (link : LinkEnd) (held : Nat) (opened? : Option OpenPcm) : Prop where
  holds : link.holds.toNat = held
  pcm : link.pcm = if held = 0 then none else opened?

namespace LinkEnd.Held

variable {link : LinkEnd} {held : Nat} {opened? : Option OpenPcm} {way : Direction}

theorem holds_eq_zero (state : link.Held held opened?) : link.holds = 0 ↔ held = 0 := by
  rw [← UInt32.toNat_inj, state.holds]
  rfl

theorem holds_eq_one (state : link.Held held opened?) : link.holds = 1 ↔ held = 1 := by
  rw [← UInt32.toNat_inj, state.holds]
  rfl

/-- A link in a state is determined by it. -/
theorem unique {other : LinkEnd} (first : link.Held held opened?)
    (second : other.Held held opened?) : link = other := by
  rw [LinkEnd.mk.injEq]
  exact ⟨UInt32.toNat_inj.mp (first.holds.trans second.holds.symm), first.pcm.trans second.pcm.symm⟩

/-- A link has a PCM exactly if it is held and its first hold opened one. -/
theorem isSome_pcm (state : link.Held held opened?) :
    link.pcm.isSome ↔ 0 < held ∧ opened?.isSome := by
  rw [state.pcm]
  by_cases free : held = 0
  · simp [free]
  · simp [free, Nat.pos_of_ne_zero free]

/-- What a call makes of its link. -/
theorem onLink (state : link.Held held opened?) (answer : Except PcmError OpenPcm)
    (call : LinkCall) (counted : call = .hold call.direction → held + 1 < 2 ^ 32) :
    (call.onLink link answer).Held (call.holds call.direction held)
      (if call = .hold call.direction ∧ held = 0 then answer.toOption else opened?) := by
  have zero := state.holds_eq_zero
  have one := state.holds_eq_one
  obtain ⟨holds, pcm⟩ := state
  cases call with
  | hold direction =>
      have fits := counted rfl
      constructor
      · simp [LinkCall.onLink, LinkCall.holds, LinkCall.direction, UInt32.toNat_add, holds]
        omega
      · by_cases free : held = 0 <;>
          simp [LinkCall.onLink, LinkCall.holds, LinkCall.direction, zero, free, pcm]
  | letGo direction =>
      have last : held - 1 = 0 ↔ held = 1 ∨ held = 0 := by omega
      by_cases free : held = 0
      · constructor <;>
          simp [LinkCall.onLink, LinkCall.holds, LinkCall.direction, zero, free, holds, pcm]
      · have some : 1 ≤ link.holds :=
          UInt32.le_iff_toNat_le.mpr (holds ▸ Nat.pos_of_ne_zero free)
        constructor
        · simp [LinkCall.onLink, LinkCall.holds, LinkCall.direction, zero, free, holds,
            UInt32.toNat_sub_of_le _ _ some]
        · by_cases single : held = 1 <;>
            simp [LinkCall.onLink, LinkCall.holds, LinkCall.direction, zero, one, free, last,
              single, pcm]

/-- A first hold opens the PCM of a link. -/
theorem pcmCalls_hold (state : link.Held held opened?) (answer : Except PcmError OpenPcm) :
    (LinkCall.hold way).pcmCalls link answer =
      if held = 0 then openingCalls way answer else [] := by
  simp only [LinkCall.pcmCalls, state.holds_eq_zero]

/-- Letting go of the last hold closes the PCM of a link, if it has one. -/
theorem pcmCalls_letGo (state : link.Held held opened?)
    (own : ∀ pcm, opened? = some pcm → pcm.setup = .bluetooth way)
    (answer : Except PcmError OpenPcm) :
    (LinkCall.letGo way).pcmCalls link answer =
      if held = 1 ∧ opened?.isSome then [.closePcm .router (.bluetooth way)] else [] := by
  simp only [LinkCall.pcmCalls, state.holds_eq_one, state.pcm]
  by_cases last : held = 1
  · cases opened? with
    | none => simp [last]
    | some pcm => simp [last, own]
  · rw [if_neg last, if_neg fun closes => last closes.1]

end LinkEnd.Held

/-! ## Runs of calls -/

namespace Run

/-- The run after calls on the links, each under its own conditions, unless the program stops at one
of them. -/
def linking (run : Run) (calls : List (Conditions × LinkCall)) : Option Run :=
  calls.foldlM (fun run entry => entry.2.perform? (run.under entry.1)) run

variable {run after : Run} {way : Direction} {calls : List (Conditions × LinkCall)}

/-- A call follows the calls before it, unless the program has stopped. -/
theorem linking_concat (run : Run) (calls : List (Conditions × LinkCall))
    (conditions : Conditions) (call : LinkCall) :
    run.linking (calls ++ [(conditions, call)]) =
      (run.linking calls).bind fun after => call.perform? (after.under conditions) := by
  simp [linking, List.foldlM_append]

/-- The latest of the calls. -/
theorem linking_concat_eq_some {conditions : Conditions} {call : LinkCall}
    (linked : run.linking (calls ++ [(conditions, call)]) = some after) :
    ∃ earlier, run.linking calls = some earlier ∧
      call.perform? (earlier.under conditions) = some after ∧
      (earlier.under conditions).Relinked call.direction
        (call.onLink (earlier.link call.direction) (conditions.opening call.direction))
        (call.pcmCalls (earlier.link call.direction) (conditions.opening call.direction))
        after := by
  rw [linking_concat] at linked
  obtain ⟨earlier, before, performed⟩ := Option.bind_eq_some_iff.mp linked
  exact ⟨earlier, before, performed, LinkCall.relinked_perform? performed⟩

/-- A call leaves the link of the other direction. -/
theorem Relinked.link_eq {direction : Direction} {link : LinkEnd} {pcmCalls : List Happening}
    (relinked : run.Relinked direction link pcmCalls after) (way : Direction) :
    after.link way = if direction = way then link else run.link way := by
  rw [Run.link, relinked.links]
  split
  · rename_i same
    subst same
    exact Links.get_set_self ..
  · rename_i other
    exact Links.get_set_of_ne _ _ _ (Ne.symm other)

/-- **Holds.** A link is held as often as calls say, and has the PCM that its latest first hold
opened for as long as it is held. -/
theorem held_linking (fresh : run.machine.hardware.links = {})
    (linked : run.linking calls = some after) (way : Direction) :
    (after.link way).Held (LinkCall.holdsAfter way 0 calls) (LinkCall.opened? way calls) := by
  induction calls using List.reverseRecOn generalizing after with
  | nil =>
      cases linked
      rw [link, fresh]
      cases way <;> exact ⟨rfl, rfl⟩
  | append_singleton earlier entry ih =>
      obtain ⟨conditions, call⟩ := entry
      obtain ⟨before, reached, performed, relinked⟩ := linking_concat_eq_some linked
      have held := ih reached
      rw [relinked.link_eq way, LinkCall.holdsAfter_concat, LinkCall.opened?_concat]
      by_cases other : call.direction ≠ way
      · have apart : ¬ (call = .hold way ∧ LinkCall.holdsAfter way 0 earlier = 0) :=
          fun first => other (first.1 ▸ rfl)
        rw [if_neg other, if_neg apart, LinkCall.holds_of_ne other]
        exact held
      rw [not_not] at other
      subst other
      rw [if_pos rfl]
      refine held.onLink _ call fun takes => ?_
      by_contra full
      have stops : call.perform? (before.under conditions) = none := by
        refine LinkCall.perform?_eq_none.mpr ⟨_, takes, ?_⟩
        have bound := (before.link call.direction).holds.toNat_lt
        have counted : ((before.under conditions).link call.direction).holds.toNat =
            LinkCall.holdsAfter call.direction 0 earlier := held.holds
        have same : ((before.under conditions).link call.direction) =
            before.link call.direction := rfl
        rw [same] at counted ⊢
        omega
      rw [stops] at performed
      cases performed

/-- The program stops at the first hold of a link that cannot be counted, and at no other call. -/
theorem linking_eq_none_iff (fresh : run.machine.hardware.links = {}) :
    run.linking calls = none ↔
      ∃ way earlier, earlier <+: calls ∧ LinkCall.holdsAfter way 0 earlier = 2 ^ 32 := by
  induction calls using List.reverseRecOn with
  | nil =>
      constructor
      · intro stops
        cases stops
      · rintro ⟨way, earlier, within, full⟩
        cases List.prefix_nil.mp within
        cases full
  | append_singleton earlier entry ih =>
      obtain ⟨conditions, call⟩ := entry
      rw [linking_concat]
      cases reached : run.linking earlier with
      | none =>
          obtain ⟨way, first, within, full⟩ := ih.mp reached
          exact ⟨fun _ => ⟨way, first, within.trans (List.prefix_append _ _), full⟩, fun _ => rfl⟩
      | some before =>
          have held := fun way => (held_linking fresh reached way).holds
          change call.perform? (before.under conditions) = none ↔ _
          rw [LinkCall.perform?_eq_none]
          constructor
          · rintro ⟨way, rfl, full⟩
            refine ⟨way, _, List.prefix_rfl, ?_⟩
            rw [LinkCall.holdsAfter_concat, ← held way]
            exact (if_pos rfl).trans full
          · rintro ⟨way, first, within, full⟩
            obtain rfl | within := List.prefix_concat_iff.mp within
            · rw [LinkCall.holdsAfter_concat, ← held way] at full
              have bound := (before.link way).holds.toNat_lt
              cases call with
              | hold direction =>
                  by_cases same : direction = way
                  · subst same
                    exact ⟨direction, rfl, (if_pos rfl).symm.trans full⟩
                  · rw [LinkCall.holds, if_neg same] at full
                    omega
              | letGo direction =>
                  rw [LinkCall.holds] at full
                  split at full <;> omega
            · rw [ih.mpr ⟨way, first, within, full⟩] at reached
              cases reached

/-- What becomes of a link depends on the calls for it alone. -/
theorem exists_linking_filter (fresh : run.machine.hardware.links = {})
    (linked : run.linking calls = some after) (way : Direction) :
    ∃ alone, run.linking (calls.filter (·.2.direction = way)) = some alone := by
  induction calls using List.reverseRecOn generalizing after with
  | nil => exact ⟨run, rfl⟩
  | append_singleton earlier entry ih =>
      obtain ⟨conditions, call⟩ := entry
      obtain ⟨before, reached, performed, -⟩ := linking_concat_eq_some linked
      obtain ⟨alone, filtered⟩ := ih reached
      rw [List.filter_append]
      by_cases same : call.direction = way
      · have held : (before.link way).holds.toNat = (alone.link way).holds.toNat := by
          rw [(held_linking fresh reached way).holds, (held_linking fresh filtered way).holds,
            LinkCall.holdsAfter_filter]
        rw [List.filter_cons_of_pos (by simpa using same), List.filter_nil, linking_concat,
          filtered]
        change ∃ next, call.perform? (alone.under conditions) = some next
        rw [← Option.ne_none_iff_exists']
        intro stops
        obtain ⟨direction, rfl, full⟩ := LinkCall.perform?_eq_none.mp stops
        cases same
        have stopped : (LinkCall.hold direction).perform? (before.under conditions) = none :=
          LinkCall.perform?_eq_none.mpr ⟨direction, rfl, (congrArg (· + 1) held).trans full⟩
        rw [stopped] at performed
        cases performed
      · rw [List.filter_cons_of_neg (by simpa using same), List.filter_nil, List.append_nil]
        exact ⟨alone, filtered⟩

/-- **Edges.** Calls on the links, whatever the driver answers, are performed unless one of them is
a hold of a link that has `2 ^ 32 - 1` already, where the program stops. A link has as many holds as
were taken less those that were let go of, where letting go without a hold does not count. Its PCM
is opened when a first hold is taken, and started if it is ready; if it was opened, it is closed
when the last hold is let go of. In between, the link has the PCM that its latest first hold opened,
if any, and the driver gets no calls. What becomes of a link depends on the calls for it alone. -/
theorem linksOnEdges (run : Run) (fresh : run.machine.hardware.links = {})
    (calls : List (Conditions × LinkCall)) :
    (run.linking calls = none ↔
      ∃ way earlier, earlier <+: calls ∧ LinkCall.holdsAfter way 0 earlier = 2 ^ 32) ∧
    ∀ after, run.linking calls = some after → ∀ way,
      let held := LinkCall.holdsAfter way 0 calls
      let opened? := LinkCall.opened? way calls
      (after.link way).holds.toNat = held ∧
        (after.link way).pcm = (if held = 0 then none else opened?) ∧
        ((after.link way).pcm.isSome ↔ 0 < held ∧ opened?.isSome) ∧
        (∃ alone, run.linking (calls.filter (·.2.direction = way)) = some alone ∧
          after.link way = alone.link way) ∧
        ∀ conditions next,
          (run.linking (calls ++ [(conditions, .hold way)]) = some next → next.pcmCalls =
            after.pcmCalls ++
              (if held = 0 then openingCalls way (conditions.opening way) else [])) ∧
          (run.linking (calls ++ [(conditions, .letGo way)]) = some next → next.pcmCalls =
            after.pcmCalls ++
              (if held = 1 ∧ opened?.isSome then
                [.closePcm .router (.bluetooth way)] else [])) := by
  refine ⟨linking_eq_none_iff fresh, fun after linked way => ?_⟩
  have held := held_linking fresh linked way
  obtain ⟨alone, filtered⟩ := exists_linking_filter fresh linked way
  have sole := held_linking fresh filtered way
  rw [LinkCall.holdsAfter_filter, LinkCall.opened?_filter] at sole
  have calling : ∀ conditions call next,
      run.linking (calls ++ [(conditions, call)]) = some next →
        next.pcmCalls = after.pcmCalls ++
          call.pcmCalls (after.link call.direction) (conditions.opening call.direction) := by
    intro conditions call next performed
    obtain ⟨before, reached, -, relinked⟩ := linking_concat_eq_some performed
    cases linked.symm.trans reached
    exact relinked.pcmCalls
  refine ⟨held.holds, held.pcm, held.isSome_pcm, ⟨alone, filtered, held.unique sole⟩, ?_⟩
  refine fun conditions next => ⟨fun performed => ?_, fun performed => ?_⟩
  · rw [calling _ _ _ performed]
    exact congrArg _ (held.pcmCalls_hold _)
  · rw [calling _ _ _ performed]
    exact congrArg _ (held.pcmCalls_letGo (fun _ => LinkCall.setup_of_opened?) _)

/-- A link that failed to open is held all the same, and letting go of it once too often does
nothing. The first hold after that opens it. -/
theorem linksOnEdges_unbalanced :
    let calm : Conditions := {}
    let fails : Conditions := { failsToOpen := true }
    let calls : List (Conditions × LinkCall) :=
      [(fails, .hold .capture), (calm, .hold .capture), (calm, .letGo .capture),
        (calm, .letGo .capture), (calm, .letGo .capture),
        ({ opensNotReady := true }, .hold .capture)]
    let run : Run := {}
    run.machine.hardware.links = {} ∧
      (run.linking calls).isSome ∧ (run.linking (calls ++ [(calm, .letGo .capture)])).isSome ∧
      ∀ after, run.linking calls = some after →
        (after.link .capture).holds.toNat = 1 ∧ (after.link .capture).pcm.isSome ∧
        ∀ last, run.linking (calls ++ [(calm, .letGo .capture)]) = some last → last.pcmCalls =
          [.openPcm .router (.bluetooth .capture), .openPcm .router (.bluetooth .capture),
            .closePcm .router (.bluetooth .capture)] := by
  intro calm fails calls run
  obtain ⟨-, edges⟩ := linksOnEdges run rfl calls
  refine ⟨rfl, by decide +kernel, by decide +kernel, ?_⟩
  intro after linked
  obtain ⟨holds, -, opened, -, driven⟩ := edges after linked .capture
  refine ⟨holds, opened.mpr (by decide), fun last performed => ?_⟩
  have earlier : (run.linking calls).map Run.pcmCalls =
      some [.openPcm .router (.bluetooth .capture), .openPcm .router (.bluetooth .capture)] := by
    decide +kernel
  rw [linked] at earlier
  rw [(driven calm last).2 performed, Option.some_inj.mp earlier]
  rfl

end Run

end PhoneAudio
