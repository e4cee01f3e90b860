import Mathlib.Logic.Function.Basic
import PacketDivert.Proofs.Session.Turns

namespace PacketDivert

variable {ω : Type}

/-- Sessions side by side in the order in which they were opened, and the number of the next. -/
structure Ensemble (ω : Type) where
  stations : List (Station ω) := []
  next : UInt64 := Session.firstNumber

/-- A session is opened, or it is the turn of one that was. -/
inductive Move (ω : Type) where
  | opening (backend : RuleBackend) (policy : Policy) (world : ω) (machine : Machine)
  | turn (place : Nat) (turn : Turn ω)

namespace Move

def isOpening : Move ω → Bool
  | .opening .. => true
  | _ => false

def watched : Move ω → Move (Watched ω)
  | .opening backend policy world machine => .opening backend policy ⟨world, []⟩ machine
  | .turn place given => .turn place given.watched

end Move

namespace Ensemble

/-- Puts another state of a session in its place. -/
def put (place : Nat) (station : Station ω) (ensemble : Ensemble ω) : Ensemble ω :=
  { ensemble with stations := ensemble.stations.set place station }

@[simp] theorem length_put (place : Nat) (station : Station ω) (ensemble : Ensemble ω) :
    (ensemble.put place station).stations.length = ensemble.stations.length :=
  List.length_set

/-- Lets something be done to one session; without such a session nothing is done. -/
def act (place : Nat) (action : Attempt Error (Station ω) Unit) (ensemble : Ensemble ω) :
    Option (Except Error Unit × Ensemble ω) :=
  ensemble.stations[place]?.map fun station =>
    let (result, reached) := action station
    (result, ensemble.put place reached)

theorem act_of_some {ensemble : Ensemble ω} {place : Nat} {station : Station ω}
    (found : ensemble.stations[place]? = some station)
    (action : Attempt Error (Station ω) Unit) :
    ensemble.act place action =
      some ((action station).1, ensemble.put place (action station).2) := by
  rw [act, found, Option.map_some]

theorem put_self {ensemble : Ensemble ω} {place : Nat} {station : Station ω}
    (found : ensemble.stations[place]? = some station) : ensemble.put place station = ensemble := by
  obtain ⟨early, same⟩ := List.getElem?_eq_some_iff.mp found
  rw [put, ← same, List.set_getElem_self]

/-- The number of the session in a place. -/
def number (place : Nat) : Nat := (UInt64.ofNat (place + 1)).toNat

theorem number_eq {place count : Nat} (early : place < count) (few : count < UInt64.size) :
    number place = place + 1 :=
  UInt64.toNat_ofNat_of_lt' (by omega)

/-- The ensemble in a world where the deeds of each session's dispatcher are written down. -/
def watched (deeds : Nat → List (Deed ω)) (ensemble : Ensemble ω) : Ensemble (Watched ω) where
  stations := ensemble.stations.mapIdx fun place station => station.watched (deeds place)
  next := ensemble.next

/-- Every session has the number of its place, and what was handed out in its name bears it. -/
structure Ordered (deeds : Nat → List (Deed ω)) (ensemble : Ensemble ω) : Prop where
  next : ensemble.next = UInt64.ofNat (ensemble.stations.length + 1)
  serves : ∀ place station, ensemble.stations[place]? = some station →
    Station.Serves (number place) station
  silent : ∀ place, ensemble.stations.length ≤ place → deeds place = []
  handed : ∀ place, ∀ packet ∈ handedOut (deeds place), packet.session = number place

theorem Ordered.empty : Ordered (fun _ => []) ({} : Ensemble ω) where
  next := rfl
  serves := nofun
  silent _ _ := rfl
  handed := nofun

/-- More that is handed out in the name of one session leaves all others as they are. -/
theorem Ordered.put {deeds : Nat → List (Deed ω)} {ensemble : Ensemble ω}
    (ordered : Ordered deeds ensemble) {place : Nat} (early : place < ensemble.stations.length)
    {reached : Station ω} (serves : Station.Serves (number place) reached) {more : List (Deed ω)}
    (handed : ∀ packet ∈ handedOut more, packet.session = number place) :
    Ordered (Function.update deeds place (deeds place ++ more)) (ensemble.put place reached) where
  next := by rw [length_put]; exact ordered.next
  serves other station there := by
    rw [Ensemble.put, List.getElem?_set] at there
    split at there
    · next same =>
      rw [same] at serves
      cases there
      exact serves
    · exact ordered.serves other station there
  silent other late := by
    rw [length_put] at late
    rw [Function.update_of_ne (by omega)]
    exact ordered.silent other late
  handed other := by
    by_cases same : other = place
    · subst same
      simpa [or_imp, forall_and] using ⟨ordered.handed other, handed⟩
    · simpa [same] using ordered.handed other

theorem getElem?_watched (deeds : Nat → List (Deed ω)) (ensemble : Ensemble ω) (place : Nat) :
    (ensemble.watched deeds).stations[place]? =
      ensemble.stations[place]?.map (·.watched (deeds place)) :=
  List.getElem?_mapIdx

theorem put_watched (place : Nat) (station : Station ω) (ensemble : Ensemble ω)
    (deeds : Nat → List (Deed ω)) (log : List (Deed ω)) :
    (ensemble.watched deeds).put place (station.watched log) =
      (ensemble.put place station).watched (Function.update deeds place log) := by
  simp only [put, watched, Ensemble.mk.injEq, and_true]
  apply List.ext_getElem?
  intro other
  simp only [List.getElem?_set, List.getElem?_mapIdx, List.length_mapIdx]
  by_cases same : place = other
  · subst same
    by_cases early : place < ensemble.stations.length <;> simp [early]
  · simp [same, Function.update_of_ne (Ne.symm same)]

variable [Transport ω]

def step (ensemble : Ensemble ω) : Move ω → Ensemble ω
  | .opening backend policy world machine =>
    let (session, next) := Session.openNext backend policy ensemble.next
    { stations := ensemble.stations ++ [{ session, world, machine }], next }
  | .turn place turn => ((ensemble.act place (Station.turn turn)).map Prod.snd).getD ensemble

def run (moves : List (Move ω)) (ensemble : Ensemble ω) : Ensemble ω := moves.foldl step ensemble

theorem run_cons (move : Move ω) (moves : List (Move ω)) (ensemble : Ensemble ω) :
    run (move :: moves) ensemble = run moves (ensemble.step move) := rfl

/-- No session is ever taken out. -/
theorem length_step (move : Move ω) (ensemble : Ensemble ω) :
    (ensemble.step move).stations.length =
      ensemble.stations.length + if move.isOpening then 1 else 0 := by
  cases move with
  | opening => simp [step, Move.isOpening]
  | turn place turn =>
    cases found : ensemble.stations[place]? <;> simp [step, act, found, Move.isOpening]

theorem length_run (moves : List (Move ω)) (ensemble : Ensemble ω) :
    (run moves ensemble).stations.length =
      ensemble.stations.length + moves.countP Move.isOpening := by
  induction moves generalizing ensemble with
  | nil => rfl
  | cons move moves inductionHypothesis =>
    rw [run_cons, inductionHypothesis, length_step, List.countP_cons, Nat.add_assoc,
      Nat.add_comm (List.countP _ _)]

namespace Ordered

variable {deeds : Nat → List (Deed ω)} {ensemble : Ensemble ω}

/-- A session that is opened gets the number of its place. -/
theorem opened (ordered : Ordered deeds ensemble) (backend : RuleBackend) (policy : Policy)
    (world : ω) (machine : Machine) :
    Ordered deeds (ensemble.step (.opening backend policy world machine)) ∧
      (ensemble.watched deeds).step (.opening backend policy ⟨world, []⟩ machine) =
        (ensemble.step (.opening backend policy world machine)).watched deeds := by
  refine ⟨⟨?_, ?_, ?_, ordered.handed⟩, ?_⟩
  · simp [step, Session.openNext, ordered.next]
  · intro place station found
    change (ensemble.stations ++ [_])[place]? = some station at found
    rcases Nat.lt_or_ge place ensemble.stations.length with early | late
    · rw [List.getElem?_append_left early] at found
      exact ordered.serves place station found
    · rw [List.getElem?_append_right late, List.getElem?_singleton] at found
      split at found
      · next last =>
        cases found
        have same : place = ensemble.stations.length := by omega
        exact ⟨by rw [same, number, ← ordered.next]; rfl, nofun⟩
      · cases found
  · intro place late
    refine ordered.silent place ?_
    simp only [length_step] at late
    omega
  · have silent := ordered.silent _ (Nat.le_refl _)
    simp only [step, watched, List.mapIdx_append, Session.openNext, List.mapIdx_singleton,
      Nat.zero_add, silent]
    rfl

/-- What happens to one session is watched without being changed. -/
theorem turned (ordered : Ordered deeds ensemble) (place : Nat) (turn : Turn ω) :
    ∃ deedsThen, Ordered deedsThen (ensemble.step (.turn place turn)) ∧
      (ensemble.watched deeds).step (.turn place turn.watched) =
        (ensemble.step (.turn place turn)).watched deedsThen := by
  cases found : ensemble.stations[place]? with
  | none =>
    have nobody : ensemble.step (.turn place turn) = ensemble := by simp [step, act, found]
    refine ⟨deeds, by rwa [nobody], ?_⟩
    rw [nobody]
    simp [step, act, getElem?_watched, found]
  | some station =>
    have serves := ordered.serves place station found
    obtain ⟨more, handed, seen⟩ := serves.turn_watched turn (deeds place)
    have done : ensemble.step (.turn place turn) =
        ensemble.put place (Station.turn turn station).2 := by
      rw [step, act_of_some found, Option.map_some, Option.getD_some]
    have there : (ensemble.watched deeds).stations[place]? =
        some (station.watched (deeds place)) := by
      rw [getElem?_watched, found, Option.map_some]
    have early := (List.getElem?_eq_some_iff.mp found).1
    rw [done]
    refine ⟨_, ordered.put early (serves.after_turn turn) handed, ?_⟩
    rw [← put_watched, step, act_of_some there, seen, Option.map_some, Option.getD_some]

theorem run (ordered : Ordered deeds ensemble) (moves : List (Move ω)) :
    ∃ deedsThen, Ordered deedsThen (Ensemble.run moves ensemble) ∧
      Ensemble.run (moves.map Move.watched) (ensemble.watched deeds) =
        (Ensemble.run moves ensemble).watched deedsThen := by
  induction moves generalizing deeds ensemble with
  | nil => exact ⟨deeds, ordered, rfl⟩
  | cons move moves inductionHypothesis =>
    have stepped : ∃ deedsThen, Ordered deedsThen (ensemble.step move) ∧
        (ensemble.watched deeds).step move.watched = (ensemble.step move).watched deedsThen := by
      cases move with
      | opening backend policy world machine =>
        exact ⟨deeds, ordered.opened backend policy world machine⟩
      | turn place turn => exact ordered.turned place turn
    obtain ⟨deedsThen, orderedThen, seen⟩ := stepped
    rw [List.map_cons, run_cons, run_cons, seen]
    exact inductionHypothesis orderedThen

end Ordered

end Ensemble

theorem VerdictHandle.request_id (handle : VerdictHandle) (id : UInt32) (replacement : Option Bytes)
    (verdict : Verdict) : (handle.request id replacement verdict).id = id := by
  cases verdict <;> cases replacement <;> rfl

/-- Whichever sessions are opened and whatever happens to them, a packet that one of them handed
out is answered by its own handle, however early that was taken, with one call on its own transport,
and refused by every other handle without a call on any. The state in which the ensemble is then
makes no difference. -/
theorem verdicts_stay_with_session [Transport ω] {moves : List (Move ω)}
    (few : moves.countP Move.isOpening < UInt64.size) :
    ∃ deeds : Nat → List (Deed ω),
      Ensemble.run (moves.map Move.watched) {} = (Ensemble.run moves {}).watched deeds ∧
      ∀ producer, ∀ packet ∈ handedOut (deeds producer),
      ∀ earlier owner holder, earlier <+: moves →
        (Ensemble.run earlier {}).stations[owner]? = some holder →
      ∀ verdict replacement (now : Ensemble (Watched ω)) station,
        now.stations[owner]? = some station →
        let handle := holder.session.handle
        let call := now.act owner (Station.setVerdict handle packet verdict replacement)
        if owner = producer then
          let request := handle.request packet.id replacement verdict
          let (result, reached) := Transport.send request station.world.world
          let deeds := station.world.deeds ++ [.answered request result]
          request.id = packet.id ∧
            call = some (result.mapError .transport,
              now.put owner { station with world := ⟨reached, deeds⟩ })
        else
          call = some (.error .invalidPacket, now) := by
  obtain ⟨deeds, ordered, watched⟩ := Ensemble.Ordered.empty.run moves
  refine ⟨deeds, watched, ?_⟩
  intro producer packet member earlier owner holder before opened verdict replacement now station
    found handle call
  obtain ⟨_, orderedBefore, -⟩ := Ensemble.Ordered.empty.run earlier
  have produced : packet.session = Ensemble.number producer := ordered.handed producer packet member
  have owned : handle.session = Ensemble.number owner :=
    (orderedBefore.serves owner holder opened).handle
  have producerOpened : producer < moves.countP Move.isOpening := by
    by_contra late
    have length := Ensemble.length_run moves ({} : Ensemble ω)
    rw [ordered.silent producer (by simp only [List.length_nil] at length; omega)] at member
    cases member
  have ownerOpened : owner < moves.countP Move.isOpening := by
    have length := Ensemble.length_run earlier ({} : Ensemble ω)
    have early := (List.getElem?_eq_some_iff.mp opened).1
    have fewer := before.sublist.countP_le (p := Move.isOpening)
    simp only [List.length_nil] at length
    omega
  -- Both places lie below the end of the counter, so that no number has come back.
  have own_iff : packet.session = handle.session ↔ owner = producer := by
    rw [produced, owned, Ensemble.number_eq producerOpened few, Ensemble.number_eq ownerOpened few]
    omega
  by_cases own : owner = producer
  · rw [if_pos own]
    refine ⟨handle.request_id _ _ _, ?_⟩
    simp only [call, Ensemble.act_of_some found, Station.setVerdict_own (own_iff.mpr own)]
    rfl
  · rw [if_neg own]
    simp only [call, Ensemble.act_of_some found,
      Station.setVerdict_foreign (mt own_iff.mp own), Ensemble.put_self found]

/-- Two sessions that are each handed a packet with the same id on the same stream. -/
def twins : List (Move DetachedTransport) :=
  let report := { id := some 5, payload := some (List.replicate 20 0x45), conntrack := some [] }
  let opening := .opening (.legacy { tables := [], params := .usual }) ⟨false, false⟩ {}
    { tools := .scripted (fun _ => .ok ()) [] }
  let delivery := fun place => [
    .turn place (.happen (.arrive (.ok [report]))),
    .turn place (.happen (.register ⟨false, true⟩ fun _ world => (.proceed, world))),
    .turn place (.happen .dispatch)]
  [opening, opening] ++ delivery 0 ++ delivery 1

theorem verdicts_stay_with_session_twins :
    let packet := fun session => Packet.mk 5 0 (List.replicate 20 0x45) session
    twins.countP Move.isOpening < UInt64.size ∧ ∃ deeds : Nat → List (Deed DetachedTransport),
      let now := (Ensemble.run twins {}).watched deeds
      Ensemble.run (twins.map Move.watched) {} = now ∧
        handedOut (deeds 0) = [packet 1] ∧ handedOut (deeds 1) = [packet 2] ∧
        now.act 1 (Station.setVerdict ⟨2, 1001, 1002⟩ (packet 1) .drop none) =
          some (.error .invalidPacket, now) := by
  intro packet
  have few : twins.countP Move.isOpening < UInt64.size := by decide
  obtain ⟨deeds, watched, calls⟩ := verdicts_stay_with_session few
  refine ⟨few, deeds, watched, ?_⟩
  have seen : (Ensemble.run (twins.map Move.watched) {}).stations.map
      (fun station => (station.session.handle, handedOut station.world.deeds)) =
        [(⟨1, 1001, 1002⟩, [packet 1]), (⟨2, 1001, 1002⟩, [packet 2])] := by
    decide +kernel
  have inPlace : ∀ place listed,
      [((⟨1, 1001, 1002⟩ : VerdictHandle), [packet 1]), (⟨2, 1001, 1002⟩, [packet 2])][place]? =
        some listed →
      ∃ holder, (Ensemble.run twins {}).stations[place]? = some holder ∧
        holder.session.handle = listed.1 ∧ handedOut (deeds place) = listed.2 := by
    intro place listed there
    rw [← seen, watched, List.getElem?_map, Ensemble.getElem?_watched, Option.map_map] at there
    obtain ⟨holder, found, rfl⟩ := Option.map_eq_some_iff.mp there
    exact ⟨holder, found, rfl, rfl⟩
  obtain ⟨-, -, -, first⟩ := inPlace 0 _ rfl
  obtain ⟨holder, found, handle, second⟩ := inPlace 1 _ rfl
  refine ⟨first, second, ?_⟩
  have now : ((Ensemble.run twins {}).watched deeds).stations[1]? =
      some (holder.watched (deeds 1)) := by
    rw [Ensemble.getElem?_watched, found, Option.map_some]
  have refused := calls 0 (packet 1) (by simp [first]) twins 1 holder (List.prefix_refl _) found
    .drop none _ _ now
  rw [handle] at refused
  exact refused

end PacketDivert
