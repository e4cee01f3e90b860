import PacketDivert.Proofs.Session.Interleaving

/-! How dispatching ends: a raised signal lets a dispatcher finish what it has in hand, one that
nobody holds lets it take what is there already, and what was not taken waits for the next one. -/

namespace PacketDivert

variable {ω : Type}

namespace Stage

/-- How many arrivals can still be taken once the signal is raised: one, if the dispatcher waits and
an arrival comes before it notices the signal. -/
def allowance : Stage → Nat
  | .waiting => 1
  | .looking | .handling _ => 0

/-- What is left of the arrival in hand. -/
def left : Stage → List Arrival
  | .handling left => left
  | .looking | .waiting => []

/-- How many acts it takes to come to the end once the signal is raised, unless another arrival is
taken. -/
def work : Stage → Nat
  | .looking => 1
  | .waiting => 2
  | .handling left => left.length + 2

/-- How a dispatcher goes on whose signal is raised. -/
inductive Moves : Stage → Act ω → Stage → Prop where
  | noticed : Moves .waiting .noticed .looking
  | took (arrival) : Moves .waiting (.took arrival) (.handling (arrivalParts arrival))
  | handled (part left deeds) :
      Moves (.handling (part :: left)) (.handled part deeds) (.handling left)
  | finished : Moves (.handling []) .finished .looking

/-- How it comes to its end. -/
inductive Ends : Stage → Act ω → Prop where
  | heeded : Ends .looking .heeded
  | abandoned : Ends .waiting .abandoned
  | stopped (part left deeds) : Ends (.handling (part :: left)) (.handled part deeds)

/-- The acts of a dispatcher whose signal is raised, and the stage that it is in afterwards, if it
has not come to its end. -/
inductive Winds : Stage → List (Act ω) → Option Stage → Prop where
  | rest (stage) : Winds stage [] (some stage)
  | move {stage act next acts last} (moves : Moves stage act next) (rest : Winds next acts last) :
      Winds stage (act :: acts) last
  | last {stage act} (ends : Ends stage act) : Winds stage [act] none

end Stage

/-- How many acts it takes to deal with some arrivals, once they were taken. -/
def arrivalsWork (arrivals : List Arrival) : Nat :=
  (arrivals.flatMap arrivalParts).length + arrivals.length

namespace Stage.Winds

variable {stage : Stage} {acts : List (Act ω)} {last : Option Stage}

theorem takes (winds : Winds stage acts last) :
    (acts.filterMap Act.taken?).length ≤ stage.allowance := by
  induction winds with
  | rest => exact Nat.zero_le _
  | move moves _ inductionHypothesis =>
    cases moves with
    | took arrival => exact Nat.succ_le_succ inductionHypothesis
    | noticed => exact Nat.le_succ_of_le inductionHypothesis
    | handled | finished => exact inductionHypothesis
  | last ends => cases ends <;> exact Nat.zero_le _

theorem handles (winds : Winds stage acts last) :
    acts.filterMap Act.handled? <+:
      stage.left ++ (acts.filterMap Act.taken?).flatMap arrivalParts := by
  induction winds with
  | rest => exact List.nil_prefix
  | move moves _ inductionHypothesis =>
    cases moves with
    | handled part left deeds => exact (List.prefix_cons_inj part).mpr inductionHypothesis
    | noticed | took | finished => exact inductionHypothesis
  | last ends =>
    cases ends with
    | stopped part left deeds => exact ⟨left, (List.append_nil _).symm⟩
    | heeded | abandoned => exact List.nil_prefix

theorem turns (winds : Winds stage acts last) :
    acts.length + last.elim 0 work ≤
      stage.work + arrivalsWork (acts.filterMap Act.taken?) := by
  induction winds with
  | rest => simp
  | @move stage act next acts last moves _ inductionHypothesis =>
    cases moves with
    | took arrival =>
      have taken : (Act.took arrival :: acts).filterMap Act.taken? =
          arrival :: acts.filterMap Act.taken? := rfl
      rw [taken, arrivalsWork, List.flatMap_cons, List.length_append, List.length_cons,
        List.length_cons]
      simp only [work, arrivalsWork] at inductionHypothesis ⊢
      omega
    | noticed | handled | finished =>
      rw [List.filterMap_cons_none rfl, List.length_cons]
      simp only [work, List.length_cons, List.length_nil] at inductionHypothesis ⊢
      omega
  | last ends => cases ends <;> exact Nat.le_add_right_of_le (Nat.succ_le_succ (Nat.zero_le _))

end Stage.Winds

namespace Scene

/-- The dispatcher with a given number runs, and its signal is raised. -/
structure Raised (number : Nat) (scene : Scene ω) : Prop where
  number : scene.number = number
  running : ∃ dispatcher, scene.dispatcher? = some dispatcher ∧ dispatcher.shutdown.raised = true

/-- What is so of a dispatcher whose signal was raised: it is in some stage, or gone. -/
def Standing (number : Nat) (scene : Scene ω) : Option Stage → Prop
  | some stage => Raised number scene ∧ scene.stage = stage
  | none => Gone number scene

variable [Transport ω] {scene middle after : Scene ω} {event : Event ω} {events : List (Event ω)}
  {number : Nat}

/-- While a signal is raised, nothing but the dispatcher itself changes what it is about. -/
theorem Step.raised_cases (raised : Raised number scene) (step : Step scene event after) :
    (event.actOf? number = none ∧ Standing number after (some scene.stage)) ∨
      (∃ act, event.actOf? number = some act ∧ Raised number after ∧
        Stage.Moves scene.stage act after.stage) ∨
      ∃ act, event.actOf? number = some act ∧ Gone number after ∧ Stage.Ends scene.stage act := by
  obtain ⟨same, dispatcher, running, up⟩ := raised
  have quits {later : Scene ω} (number : later.number = scene.number)
      (free : later.dispatcher? = none) : Gone scene.number later :=
    ⟨Nat.le_of_eq number.symm, fun _ => free⟩
  subst same
  cases step with
  | met spared =>
    exact .inl ⟨rfl, ⟨rfl, dispatcher, (meet_spared spared).1.trans running, up⟩, rfl⟩
  | registered free => exact nomatch free.symm.trans running
  | raised found held => exact .inl ⟨rfl, ⟨rfl, _, meet_signal running _, rfl⟩, rfl⟩
  | released found held =>
    cases running.symm.trans found
    exact .inl ⟨rfl, ⟨rfl, _, meet_signal running _, up⟩, rfl⟩
  | looked found here calm =>
    cases running.symm.trans found
    exact nomatch up.symm.trans calm
  | heeded _ here =>
    exact .inr (.inr ⟨_, if_pos rfl, quits rfl rfl, here ▸ .heeded⟩)
  | noticed _ here =>
    exact .inr (.inl ⟨_, if_pos rfl, ⟨rfl, dispatcher, running, up⟩, here ▸ .noticed⟩)
  | abandoned _ here =>
    exact .inr (.inr ⟨_, if_pos rfl, quits rfl rfl, here ▸ .abandoned⟩)
  | took _ here =>
    exact .inr (.inl ⟨_, if_pos rfl, ⟨rfl, dispatcher, running, up⟩, here ▸ .took _⟩)
  | handled _ here =>
    exact .inr (.inl ⟨_, if_pos rfl, ⟨rfl, dispatcher, running, up⟩, here ▸ .handled _ _ _⟩)
  | stopped _ here =>
    exact .inr (.inr ⟨_, if_pos rfl, quits rfl rfl, here ▸ .stopped _ _ _⟩)
  | finished _ here =>
    exact .inr (.inl ⟨_, if_pos rfl, ⟨rfl, dispatcher, running, up⟩, here ▸ .finished⟩)

/-- A run is cut into what the dispatcher does and what only happens around it. -/
theorem Run.winds (run : Run scene events after) (raised : Raised number scene) :
    ∃ last, Stage.Winds scene.stage (actsOf number events) last ∧ Standing number after last := by
  induction run with
  | @done scene => exact ⟨some scene.stage, .rest _, raised, rfl⟩
  | @next scene event middle events after step rest inductionHypothesis =>
    rcases step.raised_cases raised with
      ⟨idle, raisedThen, same⟩ | ⟨act, acts, raisedThen, moves⟩ | ⟨act, acts, gone, ends⟩
    · obtain ⟨last, winds, standing⟩ := inductionHypothesis raisedThen
      rw [actsOf, List.filterMap_cons_none idle]
      exact ⟨last, same ▸ winds, standing⟩
    · obtain ⟨last, winds, standing⟩ := inductionHypothesis raisedThen
      rw [actsOf, List.filterMap_cons_some acts]
      exact ⟨last, .move moves winds, standing⟩
    -- The end has come, and what is left of the run has none of its acts.
    · obtain ⟨idle, goneThen⟩ := rest.gone gone
      rw [actsOf, List.filterMap_cons_some acts, ← actsOf, idle]
      exact ⟨none, .last ends, goneThen⟩

/-- A dispatcher whose signal is raised can always act, so that it never waits for anything. -/
theorem can_act_of_raised (alert : Alert scene) (raised : Raised scene.number scene) :
    ∃ act later, Step scene (.acted scene.number act) later := by
  obtain ⟨dispatcher, running, up⟩ := raised.running
  cases here : scene.stage with
  | looking => exact ⟨_, _, .heeded running here up⟩
  | waiting => exact ⟨_, _, .noticed running here ((alert dispatcher running here).trans up)⟩
  | handling left =>
    cases left with
    | nil => exact ⟨_, _, .finished running here⟩
    | cons part left =>
      obtain ⟨deeds, dealt⟩ := dispatcher.accept_watched part scene.station.world
      cases flow : (dispatcher.accept part scene.station.world).1 with
      | proceed => exact ⟨_, _, .handled running here (flow ▸ dealt)⟩
      | stop => exact ⟨_, _, .stopped running here (flow ▸ dealt)⟩

/-- What becomes of a dispatcher in a run after its signal was raised. It takes at most one more
arrival, and none if it has one in hand; it deals with nothing but that one; and as long as it has
not come to its end it can act, but only so many times. -/
structure WindsUp (scene : Scene ω) (events : List (Event ω)) (after : Scene ω) : Prop where
  takes : ((actsOf scene.number events).filterMap Act.taken?).length ≤ scene.stage.allowance
  handles : (actsOf scene.number events).filterMap Act.handled? <+:
    scene.stage.left ++
      ((actsOf scene.number events).filterMap Act.taken?).flatMap arrivalParts
  goesOn : Gone scene.number after ∨
    (∃ act later, Step after (.acted scene.number act) later) ∧
      (actsOf scene.number events).length <
        scene.stage.work + arrivalsWork ((actsOf scene.number events).filterMap Act.taken?)

theorem Run.windsUp (alert : Alert scene) (raised : Raised scene.number scene)
    (run : Run scene events after) : WindsUp scene events after := by
  obtain ⟨last, winds, standing⟩ := run.winds raised
  refine ⟨winds.takes, winds.handles, ?_⟩
  cases last with
  | none => exact .inl standing
  | some stage =>
    obtain ⟨still, _⟩ := standing
    have alertThen : Alert after := run.invariant (fun _ _ _ held step => step.alert held) alert
    obtain ⟨act, later, step⟩ := can_act_of_raised alertThen (still.number.symm ▸ still)
    rw [still.number] at step
    have turns := winds.turns
    have working : 0 < stage.work := by cases stage <;> exact Nat.succ_pos _
    refine .inr ⟨⟨act, later, step⟩, ?_⟩
    simp only [Option.elim] at turns
    omega

/-- What a dispatcher that waits does once its signal is let go of and was not raised. -/
theorem waits_of_released {dispatcher : Dispatcher ω} (alert : Alert scene)
    (running : scene.dispatcher? = some dispatcher) (here : scene.stage = .waiting)
    (released : dispatcher.shutdown = ⟨false, false⟩) :
    (∃ act later, Step scene (.acted scene.number act) later) ∧
      ∀ act later, Step scene (.acted scene.number act) later →
        later = scene.quit ∨
          ∃ arrival, act = .took arrival ∧
            scene.station.arrivals = arrival :: later.station.arrivals := by
  have unchanged : scene.unseen = false :=
    (alert dispatcher running here).trans (by rw [released])
  refine ⟨⟨_, _, .abandoned running here unchanged (by rw [released])⟩, fun act later step => ?_⟩
  cases step with
  | looked _ found | handled _ found | stopped _ found | finished _ found | heeded _ found =>
    exact nomatch here.symm.trans found
  | noticed _ _ changed => exact nomatch unchanged.symm.trans changed
  | abandoned => exact .inl rfl
  | took _ _ ready => exact .inr ⟨_, rfl, ready⟩

/-- A dispatcher that starts with a raised signal looks at it before it can wait for an arrival. -/
theorem takes_none_of_registered {begun : Scene ω} (free : scene.dispatcher? = none)
    {shutdown : Shutdown} (up : shutdown.raised = true) {callback : Callback ω}
    (registered : Step scene (.met (.register shutdown callback)) begun)
    (run : Run begun events after) :
    (actsOf begun.number events).filterMap Act.taken? = [] ∧
      (actsOf begun.number events).filterMap Act.handled? = [] := by
  cases registered with
  | met spared =>
    rw [Spares, free] at spared
    exact nomatch spared
  | registered =>
    obtain ⟨⟨dispatcher, same, running⟩, _⟩ := meet_register free shutdown callback
    obtain ⟨last, winds, _⟩ := run.winds ⟨rfl, dispatcher, running, same ▸ up⟩
    have none := List.eq_nil_of_length_eq_zero (Nat.le_zero.mp winds.takes)
    have handles := winds.handles
    rw [none] at handles
    exact ⟨none, List.prefix_nil.mp handles⟩

end Scene

/-- Shutdown is prompt and final, wherever a run of a session has come since its opening and in
whatever order its steps come. Arrivals are taken in their order, and those that were not taken are
there for the dispatchers to come. A dispatcher that is gone does nothing any more, and one that
starts with a raised signal takes nothing. After its signal was raised, a dispatcher deals with at
most one more arrival and comes to its end. Once the signal is let go of without being raised, each
wait ends the dispatcher or takes what is there. A turn in one go is one of the ways in which the
steps can come. -/
theorem shutdown_is_prompt_and_final [Transport ω] {id : Nat} {backend : RuleBackend}
    {policy : Policy} {world : ω} {machine : Machine} {events : List (Event ω)} {scene : Scene ω}
    (reached : Scene.Run (.openWith id backend policy world machine) events scene) :
    (∀ more after, Scene.Run scene more after →
      scene.station.arrivals ++ more.filterMap Event.arrival? =
        more.filterMap Event.taken? ++ after.station.arrivals) ∧
    (∀ number more after, Scene.Gone number scene → Scene.Run scene more after →
      actsOf number more = []) ∧
    (∀ (shutdown : Shutdown) callback begun more after,
      scene.dispatcher? = none → shutdown.raised = true →
      Scene.Step scene (.met (.register shutdown callback)) begun → Scene.Run begun more after →
        (actsOf begun.number more).filterMap Act.taken? = [] ∧
          (actsOf begun.number more).filterMap Act.handled? = []) ∧
    (∀ more after, Scene.Raised scene.number scene → Scene.Run scene more after →
      Scene.WindsUp scene more after) ∧
    (∀ dispatcher, scene.dispatcher? = some dispatcher → scene.stage = .waiting →
      (∀ arrival rest, scene.station.arrivals = arrival :: rest →
        ∃ later, Scene.Step scene (.acted scene.number (.took arrival)) later) ∧
      (dispatcher.shutdown = ⟨false, false⟩ →
        (∃ act later, Scene.Step scene (.acted scene.number act) later) ∧
          ∀ act later, Scene.Step scene (.acted scene.number act) later →
            later = scene.quit ∨
              ∃ arrival, act = .took arrival ∧
                scene.station.arrivals = arrival :: later.station.arrivals)) ∧
    ((∀ left, scene.stage ≠ .handling left) →
      ∃ after, Scene.Alone scene after ∧
        after.station = (Station.take .dispatch scene.station).2 ∧ Scene.Resting after) := by
  have alert : Scene.Alert scene :=
    reached.invariant (fun _ _ _ held step => step.alert held) fun _ running => nomatch running
  refine ⟨fun more after run => run.arrivals, fun number more after gone run => (run.gone gone).1,
    fun shutdown callback begun more after free raised registered run => ?_,
    fun more after raised run => run.windsUp alert raised,
    fun dispatcher running here => ⟨fun arrival rest ready => ?_, ?_⟩,
    Scene.alone_turn alert⟩
  · exact Scene.takes_none_of_registered free raised registered run
  · exact ⟨_, .took running here ready⟩
  · exact Scene.waits_of_released alert running here

/-- A callback that lets everything go on. -/
def Callback.easygoing : Callback DetachedTransport := fun _ transport => (.proceed, transport)

/-- A session whose rules go nowhere, on a machine without tools. -/
def openedDetached : Scene DetachedTransport :=
  .openWith 1 (.legacy ⟨[], .usual⟩) ⟨false, false⟩ {}
    { tools := { answer := fun _ _ => .error .notFound } }

/-- A dispatcher waits when a batch arrives and its signal is raised, and takes the batch. -/
def racingEvents : List (Event DetachedTransport) := [
  .met (.register ⟨false, true⟩ .easygoing),
  .acted 1 .looked,
  .met (.arrive (.ok [⟨some 1, none, none⟩, ⟨none, none, none⟩])),
  .met (.arrive (.error .noBufferSpace)),
  .met (.signal ⟨true, true⟩),
  .acted 1 (.took (.ok [⟨some 1, none, none⟩, ⟨none, none, none⟩]))]

theorem shutdown_is_prompt_and_final_race :
    ∃ scene, Scene.Run openedDetached racingEvents scene ∧ Scene.Raised 1 scene ∧
      ∀ more after, Scene.Run scene more after →
        ((actsOf 1 more).filterMap Act.taken?).length ≤ 0 ∧
          [.error .noBufferSpace] ++ more.filterMap Event.arrival? =
            more.filterMap Event.taken? ++ after.station.arrivals := by
  have run : Scene.Run openedDetached racingEvents _ :=
    .next (.registered rfl _ _) (.next (.looked rfl rfl rfl) (.next (.met trivial)
      (.next (.met trivial) (.next (.raised rfl rfl) (.next (.took rfl rfl rfl) .done)))))
  obtain ⟨kept, _, _, windsUp, _⟩ := shutdown_is_prompt_and_final run
  exact ⟨_, run, ⟨rfl, _, rfl, rfl⟩, fun more after rest =>
    ⟨(windsUp more after ⟨rfl, _, rfl, rfl⟩ rest).takes, kept more after rest⟩⟩

end PacketDivert
