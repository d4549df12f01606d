import PhoneAudio.Proofs.Handset.CapturingAlone

/-!
# Sessions at every instant

Every operation that is possible in a sound state proceeds in steps
(`PhoneAudio.Operation.proceeds`), and so do sessions (`PhoneAudio.Session.Through.proceeds`).
Audio hardware that was just built has made calls to the mixer only, with nothing routed, held or
open (`PhoneAudio.Run.Built.bare`).
-/

namespace PhoneAudio

variable {alone : Prop}

/-- The steps from a run that shows the state that an action leads from. -/
theorem Act.Leads.proceeds {α : Type} {action : Act α} {run : Run} {state : Machine}
    {post : α → Machine → Prop} (leads : Act.Leads (Run.Along alone run) action state post)
    (shown : run.Shows state) : run.Proceeds alone (action run).2 := by
  obtain ⟨_, ⟨-, proceeds⟩, -⟩ := leads run ⟨shown, .refl⟩
  exact proceeds

namespace Operation

/-- **Operations** proceed in steps from a sound state in which they are possible. If there is one
capture stream at most, the PCMs of the codec are opened while it is free for them. -/
theorem proceeds {operation : Operation} {run : Run} {state : Machine} (shown : run.Shows state)
    (sound : state.Sound []) (possible : operation.Possible state)
    (few : alone → state.hardware.inputs.length ≤ 1) :
    run.Proceeds alone (operation.perform run).2 := by
  have silent := shown.silentInCall sound
  cases operation with
  | openStream direction devices request =>
      refine (Act.aside_openStream direction devices request).then (fun opened => ?_) run
      cases opened <;> exact Act.proceeds_pure _
  | close id => exact (Act.proceeds_close id).bind (fun _ => Act.proceeds_pure _) run
  | standby id => exact (Act.proceeds_standby id).bind (fun _ => Act.proceeds_pure _) run
  | applyParameters id text => exact Act.proceeds_applyParameters id text silent
  | answerKeys id keys =>
      exact (Act.aside_answerKeys id keys).then (fun _ => Act.proceeds_pure _) run
  | write id bytes =>
      have leads : Act.Leads (Run.Along alone run) (write id bytes).perform state fun _ _ => True :=
        (Act.along_write possible.1 sound few bytes).bind fun answer _ _ => by
          cases answer <;> exact Act.leads_pure _ trivial
      exact leads.proceeds shown
  | read id buffer =>
      have leads : Act.Leads (Run.Along alone run) (read id buffer).perform state fun _ _ => True :=
        (Act.along_read possible.1 sound few buffer).bind fun answer _ _ => by
          obtain ⟨outcome, filled⟩ := answer
          cases outcome <;> exact Act.leads_pure _ trivial
      exact leads.proceeds shown
  | setMode mode => exact (Act.along_setMode sound mode).proceeds shown
  | setMuted muted => exact (Act.proceeds_setMuted muted).bind (fun _ => Act.proceeds_pure _) run
  | setCallVolume volume =>
      exact (Act.proceeds_setCallVolume volume).bind (fun _ => Act.proceeds_pure _) run
  | setMediaVolume volume =>
      exact (Act.proceeds_setMediaVolume volume).bind (fun _ => Act.proceeds_pure _) run
  | setCallDevices devices => exact Act.proceeds_setCallDevices devices silent
  | ask query => exact (Act.aside_find query).then (fun _ => Act.proceeds_pure _) run
  | dropHardware => exact Act.proceeds_dropHardware.bind (fun _ => Act.proceeds_pure _) run

end Operation

namespace Session

variable {first last : Run} {operations : List Operation} {state : Machine}

/-- Sessions whose steps are described by nothing that could fail. -/
theorem through {described : Run → Operation → Run → Prop}
    (session : Session first operations last)
    (holds : ∀ before operation after, described before operation after) :
    Through described first operations last := by
  induction session with
  | start => exact .start
  | step earlier conditions possible ih => exact ih.step conditions possible (holds _ _ _)

/-- Operations that are described are so in weaker terms. -/
theorem Through.mono {described weaker : Run → Operation → Run → Prop}
    (through : Through described first operations last)
    (weaken : ∀ before operation after, described before operation after →
      weaker before operation after) : Through weaker first operations last := by
  induction through with
  | start => exact .start
  | step earlier conditions possible holds ih =>
      exact ih.step conditions possible (weaken _ _ _ holds)

/-- **Sessions** proceed in steps. If there is one capture stream at most at any time, the PCMs of
the codec are opened while it is free for them. -/
theorem Through.proceeds (through : Through
      (fun _ _ after => alone → after.machine.hardware.inputs.length ≤ 1) first operations last)
    (shown : first.Shows state) (sound : state.Sound [])
    (few : alone → first.machine.hardware.inputs.length ≤ 1) : first.Proceeds alone last := by
  have both : first.Proceeds alone last ∧
      (alone → last.machine.hardware.inputs.length ≤ 1) := by
    induction through with
    | start => exact ⟨.refl, few⟩
    | step earlier conditions possible after ih =>
        rename_i run _
        obtain ⟨behind, few⟩ := ih
        obtain ⟨before, shows, advanced⟩ := earlier.session.advances shown sound
        have inputs : run.machine.hardware.inputs = before.hardware.inputs := by
          rw [← shows.core_eq]
          rfl
        have aside : run.Stays Machine.wires Happening.isAside (run.under conditions) :=
          .of_history rfl rfl
        have ahead := Operation.proceeds (shows.under conditions) advanced.sound
          (possible.core shows) fun unaccompanied => inputs ▸ few unaccompanied
        exact ⟨(behind.tail (.aside aside)).trans ahead, after⟩
  exact both.1

/-- Sessions proceed step by step. -/
theorem proceeds (session : Session first operations last) (shown : first.Shows state)
    (sound : state.Sound []) : first.Proceeds False last :=
  (session.through fun _ _ _ => nofun).proceeds shown sound nofun

end Session

/-- Nothing is routed, held or open. -/
structure Machine.Bare (machine : Machine) : Prop where
  fresh : ∀ router, machine.hardware.router = some router → router = { tables := router.tables }
  links : machine.hardware.links = {}
  held : machine.held = []
  live : machine.drivers.pcm.live = []

theorem Machine.Bare.of_wires {first second : Machine} (bare : first.Bare)
    (same : second.wires = first.wires) : second.Bare := by
  simp only [wires, Prod.mk.injEq] at same
  obtain ⟨router, links, held, live⟩ := same
  exact ⟨router ▸ bare.fresh, links.trans bare.links, held.trans bare.held, live.trans bare.live⟩

namespace Run

/-- So far only the mixer was called, and nothing was ever routed, held or open. -/
structure Bare (run : Run) : Prop extends run.Throughout Machine.Bare where
  mixer : ∀ moment ∈ run.history, moment.what.isMixerCall = true

variable {run after : Run}

/-- What is done with the mixer alone leaves the beginning bare. -/
theorem Bare.stays (bare : run.Bare) (stays : run.Stays Machine.wires Happening.isMixerCall after) :
    after.Bare := by
  refine ⟨bare.toThroughout.stays stays fun _ same => bare.now.of_wires same, ?_⟩
  obtain ⟨more, history, before⟩ := stays.moments
  intro moment member
  rw [history] at member
  obtain early | late := List.mem_append.mp member
  · exact bare.mixer moment early
  · exact (before moment late).2

/-- Opening the router leaves the beginning bare. -/
theorem Bare.openRouter (bare : run.Bare) (tables : CodecTables) :
    (Act.openRouter tables run).2.Bare := by
  have mixer : Happening.openMixer.isMixerCall = true := rfl
  have opened := bare.stays
    (Act.wires_mixerCall .openingMixer mixer (fun mixer => (mixer.tryOpen, mixer)) run)
  unfold Act.openRouter
  rw [Act.bind_apply]
  generalize Act.call .router .openingMixer .openMixer _ run = answered at opened
  obtain ⟨error | done, after⟩ := answered
  · exact opened
  · have routed : (Act.changeHardware (fun hardware =>
        { hardware with router := some { tables := tables } }) after).2.Bare := by
      refine ⟨⟨⟨?_, opened.now.links, opened.now.held, opened.now.live⟩, opened.ever⟩, opened.mixer⟩
      rintro router there
      cases there
      rfl
    have writes : ∀ step ∈ Router.initialSteps tables,
        ∃ control value, step = .write control value := by
      intro step member
      obtain ⟨pin, -, rfl⟩ := List.mem_map.mp member
      exact ⟨_, _, rfl⟩
    exact routed.stays (Act.wires_takeSteps writes _)

/-- **Building** calls the mixer only. -/
theorem Built.bare (built : run.Built) : run.Bare := by
  obtain ⟨plan, drivers, quiet, done⟩ := built
  have start : Bare { machine := { drivers := drivers } } :=
    ⟨⟨⟨nofun, rfl, rfl, quiet⟩, fun _ member => absurd member List.not_mem_nil⟩,
      fun _ member => absurd member List.not_mem_nil⟩
  unfold Act.build at done
  cases fault : plan.fault? with
  | some error =>
      rw [fault] at done
      cases done
  | none =>
      rw [fault] at done
      cases done
      have opened := start.openRouter plan.tables
      exact opened.stays (.of_history rfl rfl)

end Run

end PhoneAudio
