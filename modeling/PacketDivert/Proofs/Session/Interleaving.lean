import PacketDivert.Proofs.Session.Dispositions
import Mathlib.Data.List.Basic

/-! A dispatcher among all that goes on around it, in steps so small that packets can arrive and its
signal can change between any two of them. Where a wait can end in several ways, any of them may
come. -/

namespace PacketDivert

variable {ω : Type}

/-- What there is to deal with in an arrival, one thing at a time. -/
def arrivalParts : Arrival → List Arrival
  | .ok reports => reports.map fun report => .ok [report]
  | .error cause => [.error cause]

/-- What a dispatcher is about: to look at the value of its signal, to wait for a change of the
signal or for an arrival, or to deal with what is left of the arrival that it took. -/
inductive Stage where
  | looking
  | waiting
  | handling (left : List Arrival)

/-- A session between two steps: its dispatcher's stage, whether the signal was set since the
dispatcher looked at it, and how many dispatchers there have been. -/
structure Scene (ω : Type) where
  station : Station ω
  stage : Stage := .looking
  unseen : Bool := false
  number : Nat := 0

/-- A step of a dispatcher. Where it deals with something, its deeds are part of the step. -/
inductive Act (ω : Type) where
  | looked
  | heeded
  | noticed
  | abandoned
  | took (arrival : Arrival)
  | handled (part : Arrival) (deeds : List (Deed ω))
  | finished

/-- A step: something happens to the session, or one of its dispatchers acts. The dispatchers are
counted from 1. -/
inductive Event (ω : Type) where
  | met (stimulus : Stimulus ω)
  | acted (number : Nat) (act : Act ω)

def Act.taken? : Act ω → Option Arrival
  | .took arrival => some arrival
  | _ => none

def Act.handled? : Act ω → Option Arrival
  | .handled part _ => some part
  | _ => none

namespace Event

def arrival? : Event ω → Option Arrival
  | .met stimulus => stimulus.arrival?
  | .acted _ _ => none

/-- The act of the dispatcher with a given number. -/
def actOf? (number : Nat) : Event ω → Option (Act ω)
  | .met _ => none
  | .acted actor act => if actor = number then some act else none

/-- What any dispatcher took. -/
def taken? : Event ω → Option Arrival
  | .met _ => none
  | .acted _ act => act.taken?

end Event

/-- What one dispatcher did, in the order of its acts. -/
def actsOf (number : Nat) (events : List (Event ω)) : List (Act ω) :=
  events.filterMap (Event.actOf? number)

namespace Scene

def openWith (id : Nat) (backend : RuleBackend) (policy : Policy) (world : ω) (machine : Machine) :
    Scene ω where
  station := .openWith id backend policy world machine

def dispatcher? (scene : Scene ω) : Option (Dispatcher ω) := scene.station.session.dispatcher

/-- The dispatcher comes to its end. What has arrived stays. -/
def quit (scene : Scene ω) : Scene ω where
  station := { scene.station with session := scene.station.session.ended }
  number := scene.number

/-- What happens to a session without a change for its dispatcher. While there is one, another one
is refused. -/
def Spares (scene : Scene ω) : Stimulus ω → Prop
  | .arrive _ | .limit _ _ | .outside _ => True
  | .register _ _ => scene.dispatcher?.isSome = true
  | .signal _ | .dispatch => False

variable [Transport ω]

def meet (stimulus : Stimulus ω) (scene : Scene ω) : Scene ω :=
  { scene with station := (Station.take stimulus scene.station).2 }

/-- What can come next. The signal is never set back, and it is not set once it was let go of. A
wait that is given up takes nothing of what has arrived. -/
inductive Step (scene : Scene ω) : Event ω → Scene ω → Prop where
  | met {stimulus} (spared : scene.Spares stimulus) :
      Step scene (.met stimulus) (scene.meet stimulus)
  | registered (free : scene.dispatcher? = none) (shutdown callback) :
      Step scene (.met (.register shutdown callback))
        { scene.meet (.register shutdown callback) with
          stage := .looking, unseen := false, number := scene.number + 1 }
  | raised {dispatcher} (running : scene.dispatcher? = some dispatcher)
      (held : dispatcher.shutdown.held = true) :
      Step scene (.met (.signal ⟨true, true⟩))
        { scene.meet (.signal ⟨true, true⟩) with unseen := true }
  | released {dispatcher} (running : scene.dispatcher? = some dispatcher)
      (held : dispatcher.shutdown.held = true) :
      Step scene (.met (.signal ⟨dispatcher.shutdown.raised, false⟩))
        (scene.meet (.signal ⟨dispatcher.shutdown.raised, false⟩))
  | looked {dispatcher} (running : scene.dispatcher? = some dispatcher)
      (here : scene.stage = .looking) (calm : dispatcher.shutdown.raised = false) :
      Step scene (.acted scene.number .looked) { scene with stage := .waiting, unseen := false }
  | heeded {dispatcher} (running : scene.dispatcher? = some dispatcher)
      (here : scene.stage = .looking) (raised : dispatcher.shutdown.raised = true) :
      Step scene (.acted scene.number .heeded) scene.quit
  | noticed {dispatcher} (running : scene.dispatcher? = some dispatcher)
      (here : scene.stage = .waiting) (changed : scene.unseen = true) :
      Step scene (.acted scene.number .noticed) { scene with stage := .looking, unseen := false }
  | abandoned {dispatcher} (running : scene.dispatcher? = some dispatcher)
      (here : scene.stage = .waiting) (unchanged : scene.unseen = false)
      (released : dispatcher.shutdown.held = false) :
      Step scene (.acted scene.number .abandoned) scene.quit
  | took {dispatcher arrival rest} (running : scene.dispatcher? = some dispatcher)
      (here : scene.stage = .waiting) (ready : scene.station.arrivals = arrival :: rest) :
      Step scene (.acted scene.number (.took arrival))
        { scene with station.arrivals := rest, stage := .handling (arrivalParts arrival) }
  | handled {dispatcher part left reached deeds} (running : scene.dispatcher? = some dispatcher)
      (here : scene.stage = .handling (part :: left))
      (dealt : dispatcher.watched.accept part ⟨scene.station.world, []⟩ =
        (.proceed, ⟨reached, deeds⟩)) :
      Step scene (.acted scene.number (.handled part deeds))
        { scene with station.world := reached, stage := .handling left }
  | stopped {dispatcher part left reached deeds} (running : scene.dispatcher? = some dispatcher)
      (here : scene.stage = .handling (part :: left))
      (dealt : dispatcher.watched.accept part ⟨scene.station.world, []⟩ =
        (.stop, ⟨reached, deeds⟩)) :
      Step scene (.acted scene.number (.handled part deeds))
        { scene.quit with station.world := reached }
  | finished {dispatcher} (running : scene.dispatcher? = some dispatcher)
      (here : scene.stage = .handling []) :
      Step scene (.acted scene.number .finished) { scene with stage := .looking }

inductive Run : Scene ω → List (Event ω) → Scene ω → Prop where
  | done {scene} : Run scene [] scene
  | next {scene event middle events after} (step : Step scene event middle)
      (rest : Run middle events after) : Run scene (event :: events) after

variable {scene middle after : Scene ω} {event : Event ω} {events more : List (Event ω)}

theorem Run.append (first : Run scene events middle) (rest : Run middle more after) :
    Run scene (events ++ more) after := by
  induction first with
  | done => exact rest
  | next step _ inductionHypothesis => exact .next step (inductionHypothesis rest)

/-- What every step keeps, a run keeps. -/
theorem Run.invariant {Holds : Scene ω → Prop}
    (kept : ∀ scene event after, Holds scene → Step scene event after → Holds after)
    (run : Run scene events after) (held : Holds scene) : Holds after := by
  induction run with
  | done => exact held
  | next step _ inductionHypothesis => exact inductionHypothesis (kept _ _ _ held step)

theorem meet_spared {stimulus : Stimulus ω} (spared : scene.Spares stimulus) :
    (scene.meet stimulus).dispatcher? = scene.dispatcher? ∧
      (scene.meet stimulus).station.arrivals =
        scene.station.arrivals ++ stimulus.arrival?.toList := by
  cases stimulus with
  | arrive arrival => exact ⟨rfl, rfl⟩
  | limit number limits => exact ⟨rfl, (List.append_nil _).symm⟩
  | outside change => exact ⟨rfl, (List.append_nil _).symm⟩
  | register shutdown callback =>
    obtain ⟨dispatcher, busy⟩ := Option.isSome_iff_exists.mp spared
    have refused := Station.register_of_some busy shutdown callback
    simp [meet, refused, Stimulus.arrival?]
  | signal | dispatch => exact absurd spared id

theorem meet_register (free : scene.dispatcher? = none) (shutdown : Shutdown)
    (callback : Callback ω) :
    (∃ dispatcher, dispatcher.shutdown = shutdown ∧
      (scene.meet (.register shutdown callback)).dispatcher? = some dispatcher) ∧
    (scene.meet (.register shutdown callback)).station.arrivals = scene.station.arrivals := by
  obtain ⟨_, _, spawned, _, waiting⟩ := Station.register_spawns free shutdown callback
  exact ⟨⟨_, rfl, spawned⟩, waiting⟩

theorem meet_signal {dispatcher : Dispatcher ω} (running : scene.dispatcher? = some dispatcher)
    (shutdown : Shutdown) :
    (scene.meet (.signal shutdown)).dispatcher? = some { dispatcher with shutdown } := by
  have found : scene.station.session.dispatcher = some dispatcher := running
  simp only [meet, dispatcher?, Station.take, Session.signal, found]

/-- Arrivals are taken in their order, and no step but that of taking one removes any. -/
theorem Step.arrivals (step : Step scene event after) :
    scene.station.arrivals ++ event.arrival?.toList =
      event.taken?.toList ++ after.station.arrivals := by
  cases step with
  | met spared => exact (meet_spared spared).2.symm
  | registered free shutdown callback =>
    rw [← (meet_register free shutdown callback).2]
    exact List.append_nil _
  | took _ _ ready =>
    rw [ready]
    exact List.append_nil _
  | _ => exact List.append_nil _

theorem Run.arrivals (run : Run scene events after) :
    scene.station.arrivals ++ events.filterMap Event.arrival? =
      events.filterMap Event.taken? ++ after.station.arrivals := by
  induction run with
  | done => simp
  | @next scene event middle events after step _ inductionHypothesis =>
    simp only [List.filterMap_eq_flatMap_toList, List.flatMap_cons] at inductionHypothesis ⊢
    calc scene.station.arrivals ++ (event.arrival?.toList ++ events.flatMap (·.arrival?.toList))
      _ = event.taken?.toList ++
          (middle.station.arrivals ++ events.flatMap (·.arrival?.toList)) := by
        rw [← List.append_assoc, step.arrivals, List.append_assoc]
      _ = event.taken?.toList ++ events.flatMap (·.taken?.toList) ++ after.station.arrivals := by
        rw [inductionHypothesis, List.append_assoc]

/-- A dispatcher that waits knows of every change of its signal, or will know at once. -/
def Alert (scene : Scene ω) : Prop :=
  ∀ dispatcher, scene.dispatcher? = some dispatcher → scene.stage = .waiting →
    scene.unseen = dispatcher.shutdown.raised

theorem Step.alert (alert : Alert scene) (step : Step scene event after) : Alert after := by
  intro dispatcher running waits
  cases step with
  | met spared => exact alert dispatcher ((meet_spared spared).1 ▸ running) waits
  | registered | noticed | took | handled | finished => exact nomatch waits
  | heeded | abandoned | stopped => exact nomatch running
  | raised found held =>
    cases (meet_signal found _).symm.trans running
    rfl
  | released found held =>
    have same := Option.some.inj ((meet_signal found _).symm.trans running)
    exact (alert _ found waits).trans (congrArg (·.shutdown.raised) same)
  | looked found here calm =>
    cases found.symm.trans running
    exact calm.symm

/-- There is no dispatcher with a given number any more. -/
structure Gone (number : Nat) (scene : Scene ω) : Prop where
  started : number ≤ scene.number
  ended : scene.number = number → scene.dispatcher? = none

/-- A dispatcher that has come to its end does nothing any more. -/
theorem Step.gone {number : Nat} (gone : Gone number scene) (step : Step scene event after) :
    event.actOf? number = none ∧ Gone number after := by
  -- Whoever acts or hears of the signal runs, so it is not the one that is gone.
  have other {dispatcher : Dispatcher ω} (running : scene.dispatcher? = some dispatcher) :
      scene.number ≠ number := fun same => nomatch (gone.ended same).symm.trans running
  have stays {later : Scene ω} (same : later.number = scene.number)
      (another : scene.number ≠ number) : Gone number later :=
    ⟨same ▸ gone.started, fun ended => absurd (same.symm.trans ended) another⟩
  cases step with
  | met spared =>
    exact ⟨rfl, gone.started, fun same => (meet_spared spared).1.trans (gone.ended same)⟩
  | registered =>
    exact ⟨rfl, Nat.le_succ_of_le gone.started,
      fun same => absurd gone.started (Nat.not_le_of_lt (same ▸ Nat.lt_succ_self _))⟩
  | raised running | released running => exact ⟨rfl, stays rfl (other running)⟩
  | looked running | heeded running | noticed running | abandoned running | took running
  | handled running | stopped running | finished running =>
    exact ⟨if_neg (other running), stays rfl (other running)⟩

theorem Run.gone {number : Nat} (gone : Gone number scene) (run : Run scene events after) :
    actsOf number events = [] ∧ Gone number after := by
  induction run with
  | done => exact ⟨rfl, gone⟩
  | next step _ inductionHypothesis =>
    obtain ⟨idle, goneThen⟩ := step.gone gone
    obtain ⟨idleRest, goneLast⟩ := inductionHypothesis goneThen
    exact ⟨by rw [actsOf, List.filterMap_cons_none idle]; exact idleRest, goneLast⟩

end Scene

/-! A turn of a dispatcher in one go is one of its runs in small steps. -/

namespace Dispatcher

variable [Transport ω] (dispatcher : Dispatcher ω)

/-- To deal with an arrival is to deal with one thing in it after the other. -/
theorem accept_eq_drain (arrival : Arrival) (world : ω) :
    dispatcher.accept arrival world =
      ((dispatcher.drain (arrivalParts arrival) world).1,
        (dispatcher.drain (arrivalParts arrival) world).2.2) := by
  cases arrival with
  | ok reports =>
    induction reports generalizing world with
    | nil => rfl
    | cons report reports inductionHypothesis =>
      have rest := inductionHypothesis
      simp only [accept, deliver, arrivalParts, List.map_cons, drain] at rest ⊢
      rcases dispatcher.deliverOne report world with ⟨_ | _, reached⟩
      · exact rest reached
      · rfl
  | error cause =>
    simp only [arrivalParts, drain]
    rcases dispatcher.accept (.error cause) world with ⟨_ | _, reached⟩ <;> rfl

theorem drain_proceeds {arrivals : List Arrival} {world : ω}
    (proceeds : (dispatcher.drain arrivals world).1 = .proceed) :
    (dispatcher.drain arrivals world).2.1 = [] := by
  induction arrivals generalizing world with
  | nil => rfl
  | cons arrival arrivals inductionHypothesis =>
    rw [drain] at proceeds ⊢
    rcases accepted : dispatcher.accept arrival world with ⟨_ | _, reached⟩
    · rw [accepted] at proceeds
      exact inductionHypothesis proceeds
    · rw [accepted] at proceeds
      cases proceeds

/-- What is dealt with takes some deeds. -/
theorem accept_watched (part : Arrival) (world : ω) :
    ∃ deeds, dispatcher.watched.accept part ⟨world, []⟩ =
      ((dispatcher.accept part world).1, ⟨(dispatcher.accept part world).2, deeds⟩) := by
  obtain ⟨deeds, seen, _⟩ := dispatcher.accept_shows part world []
  exact ⟨deeds, seen⟩

end Dispatcher

namespace Scene

variable [Transport ω]

/-- Steps of the dispatcher alone. -/
def Alone (scene after : Scene ω) : Prop :=
  after.number = scene.number ∧
    ∃ acts : List (Act ω), Run scene (acts.map (.acted scene.number)) after

namespace Alone

variable {scene middle after : Scene ω}

theorem refl (scene : Scene ω) : Alone scene scene := ⟨rfl, [], .done⟩

theorem head {act : Act ω} (step : Step scene (.acted scene.number act) middle)
    (same : middle.number = scene.number) (rest : Alone middle after) : Alone scene after := by
  obtain ⟨number, acts, run⟩ := rest
  rw [same] at number run
  exact ⟨number, act :: acts, .next step run⟩

theorem trans (first : Alone scene middle) (rest : Alone middle after) : Alone scene after := by
  obtain ⟨number, acts, run⟩ := first
  obtain ⟨numberThen, more, runThen⟩ := rest
  rw [number] at numberThen runThen
  exact ⟨numberThen, acts ++ more, by rw [List.map_append]; exact run.append runThen⟩

end Alone

/-- How a scene goes on when its dispatcher was told to proceed or to stop. -/
def told (scene : Scene ω) (stage : Stage) (arrivals : List Arrival) : Flow × ω → Scene ω
  | (.proceed, world) => { scene with station := { scene.station with world, arrivals }, stage }
  | (.stop, world) =>
    { scene.quit with station := { scene.quit.station with world, arrivals } }

theorem alone_handling {dispatcher : Dispatcher ω} (scene : Scene ω)
    (running : scene.dispatcher? = some dispatcher) {left : List Arrival}
    (here : scene.stage = .handling left) :
    let dealt := dispatcher.drain left scene.station.world
    Alone scene (scene.told (.handling []) scene.station.arrivals (dealt.1, dealt.2.2)) := by
  induction left generalizing scene with
  | nil =>
    obtain ⟨station, stage, unseen, number⟩ := scene
    cases here
    exact .refl _
  | cons part left inductionHypothesis =>
    obtain ⟨deeds, dealt⟩ := dispatcher.accept_watched part scene.station.world
    rw [Dispatcher.drain]
    rcases accepted : dispatcher.accept part scene.station.world with ⟨_ | _, reached⟩
    · rw [accepted] at dealt
      exact .head (.handled running here dealt) rfl (inductionHypothesis _ running rfl)
    · rw [accepted] at dealt
      exact .head (.stopped running here dealt) rfl (.refl _)

theorem alone_waiting {dispatcher : Dispatcher ω} (scene : Scene ω)
    (running : scene.dispatcher? = some dispatcher) (here : scene.stage = .waiting)
    (unchanged : scene.unseen = false) (calm : dispatcher.shutdown.raised = false)
    {arrivals : List Arrival} (ready : scene.station.arrivals = arrivals) :
    let dealt := dispatcher.drain arrivals scene.station.world
    Alone scene (scene.told .waiting dealt.2.1 (dealt.1, dealt.2.2)) := by
  induction arrivals generalizing scene with
  | nil =>
    obtain ⟨⟨session, world, machine, _⟩, stage, unseen, number⟩ := scene
    cases here
    cases ready
    exact .refl _
  | cons arrival arrivals inductionHypothesis =>
    obtain ⟨station, stage, unseen, number⟩ := scene
    cases unchanged
    let busy : Scene ω :=
      ⟨{ station with arrivals }, .handling (arrivalParts arrival), false, number⟩
    have handled := busy.alone_handling running rfl
    dsimp only at handled
    rw [← dispatcher.accept_eq_drain] at handled
    refine .head (.took running here ready) rfl (.trans handled ?_)
    rw [Dispatcher.drain]
    rcases dispatcher.accept arrival station.world with ⟨_ | _, reached⟩
    · have rest := inductionHypothesis
        ⟨{ station with world := reached, arrivals }, .waiting, false, number⟩ running rfl rfl rfl
      exact .head (.finished running rfl) rfl (.head (.looked running rfl calm) rfl rest)
    · exact .refl _

/-- Nothing is left for the dispatcher to do but wait, if there is one. -/
def Resting (scene : Scene ω) : Prop := ∀ act after, ¬Step scene (.acted scene.number act) after

theorem resting_quit {scene : Scene ω} (free : scene.dispatcher? = none) : Resting scene := by
  intro act after step
  cases step <;> exact nomatch free.symm.trans ‹scene.dispatcher? = some _›

theorem resting_waiting {dispatcher : Dispatcher ω} {scene : Scene ω}
    (running : scene.dispatcher? = some dispatcher) (here : scene.stage = .waiting)
    (unchanged : scene.unseen = false) (held : dispatcher.shutdown.held = true)
    (none : scene.station.arrivals = []) : Resting scene := by
  intro act after step
  cases step with
  | looked _ found | heeded _ found | handled _ found | stopped _ found | finished _ found =>
    exact nomatch here.symm.trans found
  | noticed _ _ changed => exact nomatch unchanged.symm.trans changed
  | abandoned found _ _ released =>
    cases running.symm.trans found
    exact nomatch held.symm.trans released
  | took _ _ ready => exact nomatch none.symm.trans ready

theorem dispatch_ends {dispatcher : Dispatcher ω} {scene : Scene ω}
    (running : scene.dispatcher? = some dispatcher) (ends : dispatcher.shutdown.ends = true) :
    scene.quit.station = (Station.take .dispatch scene.station).2 := by
  have found : scene.station.session.dispatcher = some dispatcher := running
  simp [quit, Station.take, Session.resume, found, Dispatcher.resume, ends]

/-- A turn that begins with a wait for which the signal has not changed. -/
theorem alone_calm {dispatcher : Dispatcher ω} (scene : Scene ω)
    (running : scene.dispatcher? = some dispatcher) (here : scene.stage = .waiting)
    (unchanged : scene.unseen = false) (calm : dispatcher.shutdown.raised = false) :
    ∃ after, Alone scene after ∧ after.station = (Station.take .dispatch scene.station).2 ∧
      Resting after := by
  by_cases held : dispatcher.shutdown.held = true
  · refine ⟨_, scene.alone_waiting running here unchanged calm rfl, ?_, ?_⟩
    · have found : scene.station.session.dispatcher = some dispatcher := running
      have goesOn : dispatcher.shutdown.ends = false := by simp [Shutdown.ends, calm, held]
      simp only [Station.take, Session.resume, found, Dispatcher.resume, goesOn]
      rcases dispatcher.drain scene.station.arrivals scene.station.world with ⟨_ | _, left, reached⟩
      · rfl
      · rfl
    · have complete := @Dispatcher.drain_proceeds ω _ dispatcher scene.station.arrivals
        scene.station.world
      rcases drained : dispatcher.drain scene.station.arrivals scene.station.world with
        ⟨_ | _, left, reached⟩
      · rw [drained] at complete
        exact resting_waiting running rfl unchanged held (complete rfl)
      · exact resting_quit rfl
  · have released : dispatcher.shutdown.held = false := Bool.not_eq_true _ ▸ held
    refine ⟨scene.quit, .head (.abandoned running here unchanged released) rfl (.refl _), ?_,
      resting_quit rfl⟩
    exact dispatch_ends running (by simp [Shutdown.ends, released])

/-- A turn of the dispatcher, which ends when there is nothing to do but wait, is a run of steps of
its own. It may begin where the last one ended. -/
theorem alone_turn {scene : Scene ω} (alert : Alert scene)
    (idle : ∀ left, scene.stage ≠ .handling left) :
    ∃ after, Alone scene after ∧ after.station = (Station.take .dispatch scene.station).2 ∧
      Resting after := by
  cases running : scene.dispatcher? with
  | none =>
    have found : scene.station.session.dispatcher = none := running
    exact ⟨scene, .refl _, by simp [Station.take, Session.resume, found], resting_quit running⟩
  | some dispatcher =>
    cases raised : dispatcher.shutdown.raised with
    | true =>
      have same := dispatch_ends running (by simp [Shutdown.ends, raised])
      refine ⟨scene.quit, ?_, same, resting_quit rfl⟩
      cases here : scene.stage with
      | looking => exact .head (.heeded running here raised) rfl (.refl _)
      | waiting =>
        have changed := (alert dispatcher running here).trans raised
        exact .head (.noticed running here changed) rfl
          (.head (.heeded running rfl raised) rfl (.refl _))
      | handling left => exact absurd here (idle left)
    | false =>
      cases here : scene.stage with
      | looking =>
        obtain ⟨after, alone, same, resting⟩ := alone_calm
          { scene with stage := .waiting, unseen := false } running rfl rfl raised
        exact ⟨after, .head (.looked running here raised) rfl alone, same, resting⟩
      | waiting =>
        have unchanged := (alert dispatcher running here).trans raised
        exact alone_calm scene running here unchanged raised
      | handling left => exact absurd here (idle left)

end Scene

end PacketDivert
