import Mathlib.Algebra.GroupWithZero.Nat
import Mathlib.Algebra.Order.BigOperators.Group.List
import Mathlib.Algebra.Order.Group.Nat
import Mathlib.Data.List.Induction
import Mathlib.Tactic.Choose
import PhoneAudio.Proofs.Routing.Calls

/-!
# Holds of the Bluetooth links

Calls on the router keep the holds of each Bluetooth link equal to the number of wirings in use that
need it (`PhoneAudio.Run.Wired.linksFit`), whatever becomes of opening the links: no link is let go
of more often than it is held or held more often than can be counted, and a link that no wiring in
use needs is closed.
-/

namespace PhoneAudio

/-- The holds of a link after a step, or none when the step lets go of a link without a hold or
holds one more often than can be counted. -/
def RouteStep.holds? (direction : Direction) (holds : Nat) : RouteStep → Option Nat
  | write _ _ => some holds
  | hold link =>
    if link = direction then if holds + 1 < UInt32.size then some (holds + 1) else none
    else some holds
  | letGo link =>
    if link = direction then if holds = 0 then none else some (holds - 1) else some holds

namespace Router

/-- The holds of a link after steps, or none when they run out on the way. -/
def holdsAfter? (direction : Direction) (holds : Nat) (steps : List RouteStep) : Option Nat :=
  steps.foldlM (RouteStep.holds? direction) holds

variable {direction : Direction} {holds : Nat}

/-- Steps are counted one after the other. -/
theorem holdsAfter?_append_eq_some {steps more : List RouteStep} {after : Nat} :
    holdsAfter? direction holds (steps ++ more) = some after ↔
      ∃ between, holdsAfter? direction holds steps = some between ∧
        holdsAfter? direction between more = some after := by
  unfold holdsAfter?
  rw [List.foldlM_append]
  exact Option.bind_eq_some_iff

theorem holdsAfter?_append {steps more : List RouteStep} {between : Nat}
    (first : holdsAfter? direction holds steps = some between) :
    holdsAfter? direction holds (steps ++ more) = holdsAfter? direction between more := by
  unfold holdsAfter? at first ⊢
  rw [List.foldlM_append, first]
  rfl

/-- Where the holds do not run out, a step that lets go of the link finds a hold. -/
theorem pos_of_holdsAfter?_letGo {more : List RouteStep} {after : Nat}
    (counted : holdsAfter? direction holds (.letGo direction :: more) = some after) :
    0 < holds := by
  refine Nat.pos_of_ne_zero fun none => ?_
  simp [holdsAfter?, RouteStep.holds?, none] at counted

/-- Writes do not count. -/
theorem holdsAfter?_of_writes {steps : List RouteStep}
    (writes : ∀ step ∈ steps, ∃ control value, step = .write control value) :
    holdsAfter? direction holds steps = some holds := by
  induction steps with
  | nil => rfl
  | cons step rest ih =>
      obtain ⟨control, value, rfl⟩ := writes step List.mem_cons_self
      exact ih fun step member => writes step (List.mem_cons_of_mem _ member)

/-- Setting gains does not count. -/
theorem SetsGains.holdsAfter? {router : Router} {steps : List RouteStep}
    (gains : router.SetsGains steps) : holdsAfter? direction holds steps = some holds := by
  refine holdsAfter?_of_writes fun step member => ?_
  obtain ⟨volume, gain, -, rfl⟩ := gains step member
  exact ⟨_, _, rfl⟩

/-- How many of the wirings need a link. -/
def needs (direction : Direction) (wirings : List Wiring) : Nat :=
  wirings.countP fun wiring => wiring.link = some direction

theorem needs_cons (wiring : Wiring) (rest : List Wiring) :
    needs direction (wiring :: rest) =
      needs direction rest + if wiring.link = some direction then 1 else 0 := by
  unfold needs
  rw [List.countP_cons]
  simp only [decide_eq_true_eq]

/-- Enabling a wiring takes a hold of its link, as long as the holds can be counted. -/
theorem holdsAfter?_enableSteps (wiring : Wiring)
    (few : (holds + if wiring.link = some direction then 1 else 0) < UInt32.size) :
    holdsAfter? direction holds (enableSteps wiring) =
      some (holds + if wiring.link = some direction then 1 else 0) := by
  have pins : ∀ held, holdsAfter? direction held
      (wiring.pins.map fun pin => .write pin.control pin.enabled) = some held := by
    refine fun held => holdsAfter?_of_writes fun step member => ?_
    obtain ⟨pin, -, rfl⟩ := List.mem_map.mp member
    exact ⟨_, _, rfl⟩
  have link : holdsAfter? direction holds (wiring.link.toList.map .hold) =
      some (holds + if wiring.link = some direction then 1 else 0) := by
    cases needed : wiring.link with
    | none => rfl
    | some link =>
        by_cases same : link = direction
        · subst same
          rw [needed, if_pos rfl] at few
          simp [holdsAfter?, RouteStep.holds?, few]
        · simp [holdsAfter?, RouteStep.holds?, same]
  exact (holdsAfter?_append link).trans (pins _)

/-- Reverting a wiring lets go of its link once. -/
theorem holdsAfter?_disableSteps (wiring : Wiring) :
    holdsAfter? direction (holds + if wiring.link = some direction then 1 else 0)
      (disableSteps wiring) = some holds := by
  have pins : ∀ held, holdsAfter? direction held
      (wiring.pins.reverse.filterMap fun pin => pin.disabled.map (.write pin.control)) =
        some held := by
    refine fun held => holdsAfter?_of_writes fun step member => ?_
    obtain ⟨pin, -, written⟩ := List.mem_filterMap.mp member
    obtain ⟨value, -, rfl⟩ := Option.map_eq_some_iff.mp written
    exact ⟨_, _, rfl⟩
  refine (holdsAfter?_append (pins _)).trans ?_
  cases wiring.link with
  | none => rfl
  | some link => by_cases same : link = direction <;> simp [holdsAfter?, RouteStep.holds?, same]

/-- Enabling wirings counts a hold for each that needs the link. -/
theorem holdsAfter?_enable (wirings : List Wiring)
    (few : holds + needs direction wirings < UInt32.size) :
    holdsAfter? direction holds (wirings.flatMap enableSteps) =
      some (holds + needs direction wirings) := by
  induction wirings generalizing holds with
  | nil => rfl
  | cons wiring rest ih =>
      rw [needs_cons] at few ⊢
      rw [List.flatMap_cons, holdsAfter?_append (holdsAfter?_enableSteps wiring (by omega)),
        ih (by omega), Nat.add_assoc, Nat.add_comm (needs direction rest)]

/-- Disabling them takes these holds back. -/
theorem holdsAfter?_disable (wirings : List Wiring) :
    holdsAfter? direction (holds + needs direction wirings) (wirings.flatMap disableSteps) =
      some holds := by
  induction wirings generalizing holds with
  | nil => rfl
  | cons wiring rest ih =>
      rw [List.flatMap_cons, needs_cons, ← Nat.add_assoc,
        holdsAfter?_append (holdsAfter?_disableSteps wiring), ih]

/-- How many of the wirings in use need a link, over all lanes. -/
def demand (router : Router) (direction : Direction) : Nat :=
  (Lane.all.map fun lane => needs direction (router.inUse lane)).sum

/-- No more wirings are in use than the tables have, so the demand can be counted. -/
theorem demand_lt (router : Router) (direction : Direction) :
    router.demand direction < UInt32.size := by
  have less : ∀ lane, needs direction (router.inUse lane) ≤
      needs direction (router.tables.routes.get lane) := by
    intro lane
    unfold inUse
    split
    · exact Nat.zero_le _
    · exact List.filter_sublist.countP_le
  have uses : router.demand direction ≤ linkUses router.tables.routes direction := by
    rw [linkUses, List.countP_flatten, ByLane.toList, List.map_map]
    exact List.sum_le_sum fun lane _ => less lane
  cases direction with
  | capture => exact Nat.lt_of_le_of_lt uses router.tables.countable.1
  | playback => exact Nat.lt_of_le_of_lt uses router.tables.countable.2

/-- The demand is what a lane needs, and what all other lanes do. -/
theorem exists_demand_eq {before after : Router} {lane : Lane}
    (others : ∀ other, some lane ≠ some other → after.inUse other = before.inUse other)
    (direction : Direction) :
    ∃ rest, before.demand direction = rest + needs direction (before.inUse lane) ∧
      after.demand direction = rest + needs direction (after.inUse lane) := by
  have same : ∀ other, lane ≠ other → after.inUse other = before.inUse other :=
    fun other ne => others other fun eq => ne (Option.some.inj eq)
  refine ⟨before.demand direction - needs direction (before.inUse lane), ?_⟩
  unfold demand Lane.all
  cases lane <;> simp [same] <;> omega

/-- **Calls.** The steps of a call take the holds of a link from what the wirings in use need to
what those in use afterwards need. -/
theorem Works.holdsAfter? {before after : Router} {lane? : Option Lane} {steps : List RouteStep}
    (works : before.Works lane? after steps) :
    Router.holdsAfter? direction (before.demand direction) steps =
      some (after.demand direction) := by
  obtain ⟨silence, gains, silent, level, rfl⟩ := works.steps
  rw [List.append_assoc, holdsAfter?_append silent.holdsAfter?]
  refine (holdsAfter?_append ?_).trans level.holdsAfter?
  -- Gains hold nothing, so the renewal of the lane alone counts.
  cases lane? with
  | none =>
      have same : after.inUse = before.inUse := funext fun lane => works.others lane nofun
      unfold demand
      rw [same]
      rfl
  | some lane =>
      obtain ⟨rest, old, new⟩ := exists_demand_eq works.others direction
      have few := after.demand_lt direction
      rw [new] at few
      rw [old, new, Option.toList_some, List.flatMap_singleton]
      exact (holdsAfter?_append (holdsAfter?_disable _)).trans (holdsAfter?_enable _ few)

end Router

/-! ## Taking steps -/

namespace Links

variable (links : Links) (direction : Direction) (link : LinkEnd)

theorem get_set_self : (links.set direction link).get direction = link := by
  cases direction <;> rfl

theorem get_set_of_ne {other : Direction} (ne : other ≠ direction) :
    (links.set direction link).get other = links.get other := by
  cases direction <;> cases other <;> first | rfl | exact absurd rfl ne

theorem set_set (first : LinkEnd) :
    (links.set direction first).set direction link = links.set direction link := by
  cases direction <;> rfl

end Links

/-- The Bluetooth links, and which PCMs are open. -/
structure LinkBoard where
  links : Links
  live : List (PcmBus × Direction)

namespace LinkBoard

/-- How often the link of a direction is held. -/
def holds (board : LinkBoard) (direction : Direction) : Nat :=
  (board.links.get direction).holds.toNat

/-- The board with one link replaced, and with other PCMs open. -/
def withLink (board : LinkBoard) (direction : Direction) (link : LinkEnd)
    (live : List (PcmBus × Direction)) : LinkBoard :=
  ⟨board.links.set direction link, live⟩

/-- The links are in order beside other Bluetooth PCMs, so many in each direction: a link has no PCM
but one of its own, which is open, and none at all without a hold. -/
structure Ordered (others : Direction → Nat) (board : LinkBoard) : Prop where
  idle : ∀ direction, board.holds direction = 0 → (board.links.get direction).pcm = none
  own : ∀ direction pcm, (board.links.get direction).pcm = some pcm →
    pcm.setup = .bluetooth direction
  live : ∀ direction, board.live.count (.bluetooth, direction) =
    others direction + (board.links.get direction).pcm.toList.length

variable {board : LinkBoard} {others : Direction → Nat} {direction : Direction} {link : LinkEnd}
  {live : List (PcmBus × Direction)}

theorem holds_withLink_self :
    (board.withLink direction link live).holds direction = link.holds.toNat :=
  congrArg (fun link => link.holds.toNat) (board.links.get_set_self direction link)

theorem holds_withLink_of_ne {way : Direction} (ne : way ≠ direction) :
    (board.withLink direction link live).holds way = board.holds way :=
  congrArg (fun link => link.holds.toNat) (board.links.get_set_of_ne direction link ne)

theorem withLink_withLink (first : LinkEnd) (earlier : List (PcmBus × Direction)) :
    (board.withLink direction first earlier).withLink direction link live =
      board.withLink direction link live :=
  congrArg (LinkBoard.mk · live) (board.links.set_set direction link first)

/-- A board on which one link was replaced: the links are in order, that link is held so often, and
the other one as before. -/
structure Replaced (others : Direction → Nat) (board : LinkBoard) (direction : Direction)
    (held : Nat) (after : LinkBoard) : Prop where
  ordered : after.Ordered others
  holds : after.holds direction = held
  rest : ∀ way ≠ direction, after.holds way = board.holds way

/-- Replacing a link in order, with the PCMs of the other direction as before. -/
theorem Ordered.replaced (ordered : board.Ordered others) (link : LinkEnd)
    (live : List (PcmBus × Direction)) (idle : link.holds.toNat = 0 → link.pcm = none)
    (own : ∀ pcm, link.pcm = some pcm → pcm.setup = .bluetooth direction)
    (here : live.count (.bluetooth, direction) = others direction + link.pcm.toList.length)
    (there : ∀ way ≠ direction,
      live.count (.bluetooth, way) = board.live.count (.bluetooth, way)) :
    board.Replaced others direction link.holds.toNat (board.withLink direction link live) := by
  have self := board.links.get_set_self direction link
  have rest : ∀ way ≠ direction, (board.links.set direction link).get way = board.links.get way :=
    fun _ ne => board.links.get_set_of_ne direction link ne
  refine ⟨⟨fun way => ?_, fun way => ?_, fun way => ?_⟩, holds_withLink_self,
    fun _ => holds_withLink_of_ne⟩ <;> by_cases same : way = direction
  · subst same
    simpa only [holds, withLink, self] using idle
  · simpa only [holds, withLink, rest way same] using ordered.idle way
  · subst same
    simpa only [withLink, self] using own
  · simpa only [withLink, rest way same] using ordered.own way
  · subst same
    simpa only [withLink, self] using here
  · simpa only [withLink, rest way same, there way same] using ordered.live way

/-- Closing a link leaves it in order, however often it is held from then on. -/
theorem Ordered.emptied (ordered : board.Ordered others) (direction : Direction) (held : UInt32) :
    board.Replaced others direction held.toNat (board.withLink direction ⟨held, none⟩
      ((board.links.get direction).pcm.elim board.live fun pcm =>
        board.live.erase (pcm.setup.bus, pcm.setup.direction))) := by
  have here := ordered.live direction
  cases there : (board.links.get direction).pcm with
  | none =>
      rw [there] at here
      exact ordered.replaced ⟨held, none⟩ board.live (fun _ => rfl) nofun here fun _ _ => rfl
  | some pcm =>
      rw [there] at here
      have entry : (pcm.setup.bus, pcm.setup.direction) = (.bluetooth, direction) := by
        rw [ordered.own direction pcm there]
        rfl
      dsimp only [Option.elim_some]
      rw [entry]
      refine ordered.replaced ⟨held, none⟩ (board.live.erase (.bluetooth, direction))
        (fun _ => rfl) nofun ?_ ?_
      · rw [List.count_erase_self, here]
        rfl
      · exact fun way ne => List.count_erase_of_ne fun same => ne (congrArg Prod.snd same)

end LinkBoard

/-- The links of a run, and which PCMs are open in it. -/
def Run.board (run : Run) : LinkBoard :=
  ⟨run.machine.hardware.links, run.machine.drivers.pcm.live⟩

/-- A run whose links and open PCMs are on a board. -/
def Run.Boards (run : Run) (board : LinkBoard) : Prop :=
  run.board = board

namespace Act

variable {board : LinkBoard} {others : Direction → Nat}

theorem boards_note (what : Happening) :
    Leads Run.Boards (note what) board fun _ after => after = board :=
  fun _ shown => ⟨board, shown, rfl⟩

theorem boards_links :
    Leads Run.Boards hardware board fun read after => after = board ∧ read.links = board.links :=
  fun _ shown => ⟨board, shown, rfl, congrArg LinkBoard.links shown⟩

theorem boards_setLink (direction : Direction) (link : LinkEnd) :
    Leads Run.Boards (setLink direction link) board fun _ after =>
      after = board.withLink direction link board.live := by
  rintro run rfl
  exact ⟨_, rfl, rfl⟩

/-- Opening a link opens its PCM or nothing. -/
theorem boards_openLink (direction : Direction) :
    Leads Run.Boards (openLink direction) board fun opened after =>
      (opened = none ∧ after = board) ∨ ∃ pcm, opened = some pcm ∧
        pcm.setup = .bluetooth direction ∧
        after = ⟨board.links, (.bluetooth, direction) :: board.live⟩ := by
  have call : Leads Run.Boards
      (bareCall (.openPcm .router (.bluetooth direction))
        (onPcm (·.openPcm (.bluetooth direction))))
      board fun answer after => (∃ error, answer = .error error ∧ after = board) ∨
        ∃ pcm, answer = .ok pcm ∧ pcm.setup = .bluetooth direction ∧
          after = ⟨board.links, (.bluetooth, direction) :: board.live⟩ := by
    refine (boards_note _).then fun _ => ?_
    rintro run rfl
    refine ⟨_, rfl, ?_⟩
    obtain ⟨error, failed, live⟩ | ⟨pcm, opened, setup, live⟩ :=
      run.machine.drivers.pcm.openPcm_cases (.bluetooth direction)
    · exact .inl ⟨error, failed, congrArg (LinkBoard.mk _) live⟩
    · exact .inr ⟨pcm, opened, setup, congrArg (LinkBoard.mk _) live⟩
  refine call.bind ?_
  rintro _ _ (⟨error, rfl, rfl⟩ | ⟨pcm, rfl, setup, rfl⟩)
  · exact leads_pure _ (.inl ⟨rfl, rfl⟩)
  · have start : Leads Run.Boards
        (bareCall (.startPcm .router (.bluetooth direction)) (onPcm (·.start pcm)))
        ⟨board.links, (.bluetooth, direction) :: board.live⟩ fun _ after =>
          after = ⟨board.links, (.bluetooth, direction) :: board.live⟩ :=
      (boards_note _).then fun _ => leads_of_unseen fun _ _ shown => shown
    dsimp only
    split
    · exact start.then fun _ => leads_pure _ (.inr ⟨pcm, rfl, setup, rfl⟩)
    · exact leads_pure _ (.inr ⟨pcm, rfl, setup, rfl⟩)

/-- Closing a link closes its PCM, if it has one. -/
theorem boards_closeLink (direction : Direction) :
    Leads Run.Boards (closeLink direction) board fun _ after =>
      after = board.withLink direction { board.links.get direction with pcm := none }
        ((board.links.get direction).pcm.elim board.live fun pcm =>
          board.live.erase (pcm.setup.bus, pcm.setup.direction)) := by
  refine boards_links.read fun read same => ?_
  rw [same]
  refine (boards_setLink direction _).then fun _ => ?_
  cases (board.links.get direction).pcm with
  | none => exact leads_pure _ rfl
  | some pcm =>
      refine (boards_note _).then fun _ => ?_
      intro run shown
      exact ⟨_, congrArg (fun board : LinkBoard => LinkBoard.mk board.links
        (board.live.erase (pcm.setup.bus, pcm.setup.direction))) shown, rfl⟩

/-- Taking a hold, whether or not the link opens. A link with as many holds as can be counted stays
as it is. -/
theorem boards_holdLink (direction : Direction) (ordered : board.Ordered others) :
    Leads Run.Boards (holdLink direction) board fun _ after =>
      ∃ held, board.Replaced others direction held after ∧
        (board.holds direction + 1 < UInt32.size → held = board.holds direction + 1) := by
  have own := ordered.own direction
  have here := ordered.live direction
  refine boards_links.read fun read same => ?_
  rw [same]
  dsimp only
  cases counted : Word.next? (board.links.get direction).holds with
  | none =>
      have full : board.holds direction + 1 = UInt32.size := Word.next?_eq_none_iff.mp counted
      refine leads_pure _ ⟨board.holds direction, ⟨ordered, rfl, fun _ _ => rfl⟩, fun few => ?_⟩
      exact absurd full (Nat.ne_of_lt few)
  | some held =>
  have count : held.toNat = board.holds direction + 1 := Word.toNat_of_next? counted
  refine Leads.mono ?_ fun _ after replaced => ⟨held.toNat, replaced, fun _ => count⟩
  refine (boards_setLink direction _).then fun _ => ?_
  split
  · rename_i first
    subst first
    have free := ordered.idle direction (Nat.succ.inj count.symm)
    rw [free] at here
    refine (boards_openLink direction).bind ?_
    rintro _ _ (⟨rfl, rfl⟩ | ⟨pcm, rfl, setup, rfl⟩)
    · refine (boards_setLink direction _).mono fun _ _ same => ?_
      rw [same, LinkBoard.withLink_withLink]
      exact ordered.replaced ⟨1, none⟩ board.live nofun nofun here fun _ _ => rfl
    · refine (boards_setLink direction _).mono fun _ after same => ?_
      have opened : after =
          board.withLink direction ⟨1, some pcm⟩ ((.bluetooth, direction) :: board.live) :=
        same.trans (LinkBoard.withLink_withLink _ board.live)
      rw [opened]
      refine ordered.replaced ⟨1, some pcm⟩ ((.bluetooth, direction) :: board.live) nofun ?_ ?_ ?_
      · rintro _ ⟨⟩
        exact setup
      · rw [List.count_cons_self, here]
        rfl
      · exact fun way ne => List.count_cons_of_ne fun same => ne (congrArg Prod.snd same).symm
  · have idle (nothing : held.toNat = 0) : (board.links.get direction).pcm = none :=
      absurd (count.symm.trans nothing) (Nat.succ_ne_zero _)
    exact leads_pure _ (ordered.replaced ⟨_, _⟩ board.live idle own here fun _ _ => rfl)

/-- Letting go of a link that is held. -/
theorem boards_letGoLink (direction : Direction) (ordered : board.Ordered others)
    (held : 0 < board.holds direction) :
    Leads Run.Boards (letGoLink direction) board fun _ after =>
      board.Replaced others direction (board.holds direction - 1) after := by
  have own := ordered.own direction
  have here := ordered.live direction
  have count : ((board.links.get direction).holds - 1).toNat = board.holds direction - 1 :=
    UInt32.toNat_sub_of_le _ _ (UInt32.le_iff_toNat_le.mpr held)
  refine boards_links.read fun read same => ?_
  rw [same]
  dsimp only
  rw [← count]
  split
  · refine (boards_setLink direction _).then fun _ => ?_
    split
    · rename_i last
      refine (boards_closeLink direction).mono fun _ after same => ?_
      have closed : after =
          board.withLink direction ⟨(board.links.get direction).holds - 1, none⟩
            ((board.links.get direction).pcm.elim board.live fun pcm =>
              board.live.erase (pcm.setup.bus, pcm.setup.direction)) := by
        simpa only [LinkBoard.withLink, Links.get_set_self, Links.set_set] using same
      rw [closed]
      exact ordered.emptied direction _
    · rename_i more
      have idle (nothing : ((board.links.get direction).holds - 1).toNat = 0) :
          (board.links.get direction).pcm = none := by
        rw [count] at nothing
        have one : board.holds direction = 1 :=
          Nat.le_antisymm (Nat.le_of_sub_eq_zero nothing) held
        have last : (board.links.get direction).holds = 1 := UInt32.toNat_inj.mp one
        exact absurd last more
      exact leads_pure _ (ordered.replaced ⟨_, _⟩ board.live idle own here fun _ _ => rfl)
  · rename_i none
    exact absurd held none

theorem boards_writeControl (control : String) (value : ControlValue) :
    Leads Run.Boards (writeControl control value) board fun _ after => after = board := by
  have call : ∀ {γ : Type} activity what (effect : Bench.Mixer → γ × Bench.Mixer),
      Leads Run.Boards (Act.call .router activity what (onMixer effect)) board fun _ after =>
        after = board :=
    fun _ _ _ => leads_of_unseen fun _ _ shown => shown
  refine (call _ _ _).then fun handle => ?_
  cases handle with
  | none => exact leads_pure _ rfl
  | some handle => exact (call _ _ _).then fun _ => leads_pure _ rfl

theorem boards_takeStep (step : RouteStep) (ordered : board.Ordered others)
    {held : Direction → Nat}
    (counted : ∀ direction, step.holds? direction (board.holds direction) = some (held direction)) :
    Leads Run.Boards (takeStep step) board fun _ after => after.Ordered others ∧
      after.holds = held := by
  -- A change of one link is what the step says for both directions.
  have replaced : ∀ {link count} {after : LinkBoard}, board.Replaced others link count after →
      (∀ direction, held direction = if link = direction then count else board.holds direction) →
      after.Ordered others ∧ after.holds = held := by
    intro link count after replaced said
    refine ⟨replaced.ordered, funext fun direction => ?_⟩
    rw [said]
    split
    · rename_i same
      rw [← same]
      exact replaced.holds
    · rename_i ne
      exact replaced.rest direction (Ne.symm ne)
  cases step with
  | write control value =>
      refine (boards_writeControl control value).mono fun _ _ same => ?_
      rw [same]
      exact ⟨ordered, funext fun direction => Option.some.inj (counted direction)⟩
  | hold link =>
      have few : board.holds link + 1 < UInt32.size := by
        have said := counted link
        by_contra many
        simp [RouteStep.holds?, many] at said
      refine (boards_holdLink link ordered).mono fun _ after ⟨count, taken, one⟩ => ?_
      cases one few
      refine replaced taken fun direction => ?_
      refine Option.some.inj ((counted direction).symm.trans ?_)
      by_cases same : link = direction
      · subst same
        simp [RouteStep.holds?, few]
      · simp [RouteStep.holds?, same]
  | letGo link =>
      have held : board.holds link ≠ 0 := by
        intro nothing
        have said := counted link
        simp [RouteStep.holds?, nothing] at said
      refine (boards_letGoLink link ordered (Nat.pos_of_ne_zero held)).mono fun _ after left => ?_
      refine replaced left fun direction => ?_
      refine Option.some.inj ((counted direction).symm.trans ?_)
      by_cases same : link = direction
      · subst same
        simp [RouteStep.holds?, held]
      · simp [RouteStep.holds?, same]

/-- Taking steps keeps the links in order, and changes their holds as the steps say as long as the
holds do not run out. -/
theorem boards_takeSteps (steps : List RouteStep) (ordered : board.Ordered others)
    {held : Direction → Nat} (counted : ∀ direction,
      Router.holdsAfter? direction (board.holds direction) steps = some (held direction)) :
    Leads Run.Boards (takeSteps steps) board fun _ after => after.Ordered others ∧
      after.holds = held := by
  induction steps generalizing board with
  | nil => exact leads_pure _ ⟨ordered, funext fun direction => Option.some.inj (counted direction)⟩
  | cons step rest ih =>
      have first : ∀ direction, ∃ between,
          step.holds? direction (board.holds direction) = some between ∧
          Router.holdsAfter? direction between rest = some (held direction) := by
        intro direction
        exact Option.bind_eq_some_iff.mp (counted direction)
      choose between taken later using first
      refine (boards_takeStep step ordered taken).bind ?_
      rintro _ _ ⟨ordered, rfl⟩
      exact ih ordered later

end Act

/-! ## Runs of calls -/

namespace Router

/-- A link that no wiring in use needs is not in demand. -/
theorem demand_eq_zero {router : Router} {direction : Direction}
    (unneeded : ∀ lane, ∀ wiring ∈ router.inUse lane, wiring.link ≠ some direction) :
    router.demand direction = 0 := by
  have lanes : ∀ lane, needs direction (router.inUse lane) = 0 := by
    intro lane
    refine List.countP_eq_zero.mpr fun wiring member => ?_
    simpa using unneeded lane wiring member
  simp [demand, Lane.all, lanes]

/-- A new router demands nothing. -/
theorem demand_fresh (tables : CodecTables) (direction : Direction) :
    { tables := tables : Router }.demand direction = 0 := by
  refine demand_eq_zero fun lane wiring member => ?_
  rw [inUse_fresh] at member
  cases member

end Router

namespace Run

variable {run : Run} {others : Direction → Nat}

/-- Steps that can be counted leave the links held as counted, and the PCMs in order. -/
theorem board_steered (run : Run) (router : Router) (steps : List RouteStep)
    (ordered : run.board.Ordered others) {held : Direction → Nat} (counted : ∀ direction,
      Router.holdsAfter? direction (run.board.holds direction) steps = some (held direction)) :
    (run.steered router steps).board.Ordered others ∧
      (run.steered router steps).board.holds = held := by
  have start : (Act.changeHardware (fun hardware =>
    { hardware with router := some router }) run).2.Boards run.board := rfl
  obtain ⟨_, rfl, done⟩ := Act.boards_takeSteps steps ordered counted _ start
  exact done

/-- The links of a run that goes on from another one as a router needs them. -/
structure LinksFit (first run : Run) (router : Router) : Prop where
  /-- The links are held once for each wiring in use that needs them. -/
  holds : ∀ direction,
    (run.machine.hardware.links.get direction).holds.toNat = router.demand direction
  /-- Whenever the next call lets go of a link, it is held. -/
  found : ∀ conditions (call : RouterCall) direction steps more,
    (call.onRouter router).2 = steps ++ .letGo direction :: more →
      0 < (((run.under conditions).steered (call.onRouter router).1
        steps).machine.hardware.links.get direction).holds
  /-- A link that no wiring in use needs is closed, and its PCM is not open either. -/
  closed : ∀ direction,
    (∀ lane, ∀ wiring ∈ router.inUse lane, wiring.link ≠ some direction) →
      (run.machine.hardware.links.get direction).pcm = none ∧
        run.machine.drivers.pcm.liveOn .bluetooth direction =
          first.machine.drivers.pcm.liveOn .bluetooth direction

/-- A router that was just put on its mixer finds the links in order. -/
theorem Wired.ordered {tables : CodecTables} (wired : run.Wired tables) :
    run.board.Ordered (run.machine.drivers.pcm.liveOn .bluetooth) ∧
      run.board.holds = { tables := tables : Router }.demand := by
  obtain ⟨before, free, rfl⟩ := wired.steps
  have links : ∀ direction, before.board.links.get direction = {} := by
    intro direction
    change before.machine.hardware.links.get direction = {}
    rw [free]
    cases direction <;> rfl
  have start : before.board.Ordered (before.machine.drivers.pcm.liveOn .bluetooth) := by
    refine ⟨fun direction _ => ?_, fun direction pcm there => ?_, fun direction => ?_⟩
    · rw [links]
    · rw [links] at there
      cases there
    · rw [links]
      rfl
  have counted : ∀ direction, Router.holdsAfter? direction (before.board.holds direction)
      (Router.initialSteps tables) = some 0 := by
    intro direction
    have none : before.board.holds direction = 0 :=
      congrArg (fun link => link.holds.toNat) (links direction)
    rw [none]
    refine Router.holdsAfter?_of_writes fun step member => ?_
    obtain ⟨pin, -, rfl⟩ := List.mem_map.mp member
    exact ⟨_, _, rfl⟩
  obtain ⟨ordered, holds⟩ := board_steered before { tables := tables } _ start counted
  have live : before.machine.drivers.pcm.liveOn .bluetooth =
      (before.steered { tables := tables }
        (Router.initialSteps tables)).machine.drivers.pcm.liveOn .bluetooth := by
    funext direction
    have closed := ordered.idle direction (congrFun holds direction)
    have here := ordered.live direction
    rw [closed] at here
    exact here.symm
  rw [live] at ordered
  exact ⟨ordered, holds.trans (funext fun direction => (Router.demand_fresh _ direction).symm)⟩

/-- The links stay in order, held as the wirings in use need them. -/
theorem Wired.board_calling {tables : CodecTables} (wired : run.Wired tables)
    (calls : List (Conditions × RouterCall)) :
    (run.calling calls).board.Ordered (run.machine.drivers.pcm.liveOn .bluetooth) ∧
      (run.calling calls).board.holds =
        ({ tables := tables : Router }.afterCalls (calls.map Prod.snd)).demand := by
  induction calls using List.reverseRecOn with
  | nil => exact wired.ordered
  | append_singleton earlier entry ih =>
      obtain ⟨conditions, call⟩ := entry
      obtain ⟨ordered, holds⟩ := ih
      rw [calling_concat earlier wired.router, List.map_append, List.map_singleton,
        Router.afterCalls_concat]
      refine board_steered ((run.calling earlier).under conditions) _ _ ordered ?_
      intro direction
      change Router.holdsAfter? direction ((run.calling earlier).board.holds direction) _ = _
      rw [holds]
      exact (call.works _).holdsAfter?

/-- **Links.** However opening the links turns out, calls on a router keep their holds equal to what
the wirings in use need. -/
theorem Wired.linksFit {tables : CodecTables} (wired : run.Wired tables)
    (calls : List (Conditions × RouterCall)) :
    ∃ router, (run.calling calls).machine.hardware.router = some router ∧
      router.tables = tables ∧ LinksFit run (run.calling calls) router := by
  obtain ⟨ordered, holds⟩ := wired.board_calling calls
  have there := router_calling calls wired.router
  have same := Router.tables_afterCalls { tables := tables } (calls.map Prod.snd)
  generalize Router.afterCalls { tables := tables } (calls.map Prod.snd) = router at *
  refine ⟨router, there, same, ?_, ?_, ?_⟩
  · exact congrFun holds
  · intro conditions call direction steps more said
    -- The count of the whole call, cut where the link is let go of.
    have prior : ∀ way, ∃ between,
        Router.holdsAfter? way ((run.calling calls).board.holds way) steps = some between ∧
          Router.holdsAfter? way between (.letGo direction :: more) =
            some ((call.onRouter router).1.demand way) := by
      intro way
      rw [holds, ← Router.holdsAfter?_append_eq_some, ← said]
      exact (call.works router).holdsAfter?
    choose between taken later using prior
    obtain ⟨-, held⟩ := board_steered ((run.calling calls).under conditions)
      (call.onRouter router).1 steps ordered taken
    refine UInt32.lt_iff_toNat_lt.mpr ?_
    change 0 < (Run.board _).holds direction
    rw [held]
    exact Router.pos_of_holdsAfter?_letGo (later direction)
  · intro direction unneeded
    have idle := (congrFun holds direction).trans (Router.demand_eq_zero unneeded)
    have closed := ordered.idle direction idle
    refine ⟨closed, ?_⟩
    have live := ordered.live direction
    rw [closed] at live
    exact live

/-- Playback on a Bluetooth headset, whose link does not open, goes on in a call on it and ends with
the call still on. -/
def headsetCalls : List (Conditions × RouterCall) :=
  [({ failsToOpen := true }, .setRoute .playback (.ofList [.bluetooth])),
    ({}, .setRoute .downlink (.ofList [.bluetooth])), ({}, .setRoute .playback .none)]

/-- The call holds the link on. -/
theorem Wired.linksFit_headset :
    (∃ router, (wiredStock.calling headsetCalls).machine.hardware.router = some router ∧
      router.tables = .stock ∧ LinksFit wiredStock (wiredStock.calling headsetCalls) router) ∧
    ((wiredStock.calling headsetCalls).machine.hardware.links.get .playback).holds = 1 :=
  ⟨wired_stock.linksFit headsetCalls, by decide +kernel⟩

end Run

end PhoneAudio
