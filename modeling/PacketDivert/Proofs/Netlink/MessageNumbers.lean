import PacketDivert.Proofs.Netlink.CheckedWords
import PacketDivert.Proofs.Netlink.QueueSetup

/-! The numbers that messages bear over the life of a queue. The count starts with the setup, and
every message that is handed to the socket takes the next number, whether the socket takes the
message or not. A build that checks its sums runs out of numbers, others begin again at 0. -/

namespace PacketDivert.Netlink

/-- What is asked of the kernel for a queue. -/
inductive QueueTask where
  | bind
  | configure (options : QueueOptions)
  | verdict (request : VerdictRequest)
  | unbind
  deriving DecidableEq, Repr

namespace QueueTask

def kind : QueueTask → MessageKind
  | .verdict _ => .verdict
  | _ => .config

/-- Only the setup waits for a status. -/
def flags : QueueTask → UInt16
  | .bind | .configure _ => Message.requestFlag ||| Message.statusFlag
  | .verdict _ | .unbind => Message.requestFlag

def attributes : QueueTask → Bytes
  | .bind => ConfigCommand.bind.encode
  | .configure options => options.encode
  | .verdict request => request.encode
  | .unbind => ConfigCommand.unbind.encode

/-- The bytes of a message in front of its number. -/
def front (task : QueueTask) : Bytes :=
  Bytes.le32 (UInt32.ofNat (20 + task.attributes.length)) ++ Bytes.le16 task.kind.code ++
    Bytes.le16 task.flags

/-- The bytes of a message behind its number. -/
def back (task : QueueTask) (queue : UInt16) : Bytes :=
  Bytes.le32 0 ++ [0, 0] ++ Bytes.be16 queue ++ task.attributes

def message (task : QueueTask) (queue : UInt16) (sequence : UInt32) : Bytes :=
  task.front ++ Bytes.le32 sequence ++ task.back queue

theorem encode_eq (task : QueueTask) (queue : UInt16) (sequence : UInt32) :
    Message.encode task.kind task.flags sequence queue task.attributes =
      task.message queue sequence := by
  simp only [Message.encode, message, front, back, List.append_assoc]

end QueueTask

/-- What can be done with a queue once it is set up. -/
inductive QueueUse where
  | verdict (request : VerdictRequest)
  | close
  deriving DecidableEq, Repr

namespace QueueUse

def task : QueueUse → QueueTask
  | .verdict request => .verdict request
  | .close => .unbind

def act : QueueUse → Attempt SystemError BoundQueue Unit
  | .verdict request => BoundQueue.verdict request
  | .close => BoundQueue.close

theorem act_eq (use : QueueUse) :
    use.act = BoundQueue.send use.task.kind use.task.flags use.task.attributes := by
  cases use <;> rfl

end QueueUse

/-- Whether a sum that has no room in its word panics or goes around. -/
inductive Build where
  | checked
  | unchecked
  deriving DecidableEq, Repr

namespace Build

/-- The number behind a count. The setup, which counts to 2, has room in every build. -/
def next : Build → UInt32 → Except Mishap UInt32
  | .unchecked, count => .ok (count + 1)
  | .checked, count =>
    if count.toNat + 1 < UInt32.size then .ok (count + 1) else .error .overflow

/-- Something that sends one message, as a build does it. The count goes around in every build. What
is checked is the number of the message, before it is sent. -/
def guard (build : Build) (act : Attempt SystemError BoundQueue Unit) :
    Attempt Mishap BoundQueue (Except SystemError Unit) := fun bound =>
  match build.next bound.queue.sequence with
  | .error mishap =>
    let queue := { bound.queue with sequence := bound.queue.sequence + 1 }
    (.error mishap, { bound with queue })
  | .ok _ =>
    let (result, bound) := act bound
    (.ok result, bound)

theorem next_of_room {build : Build} {count : UInt32}
    (room : build = .checked → count.toNat + 1 < UInt32.size) :
    build.next count = .ok (count + 1) := by
  cases build with
  | checked => exact if_pos (room rfl)
  | unchecked => rfl

theorem guard_of_room {build : Build} {bound : BoundQueue}
    (room : build = .checked → bound.queue.sequence.toNat + 1 < UInt32.size)
    (act : Attempt SystemError BoundQueue Unit) :
    build.guard act bound = (.ok (act bound).1, (act bound).2) := by
  rw [guard, next_of_room room]

theorem guard_of_full {bound : BoundQueue}
    (full : bound.queue.sequence.toNat + 1 = UInt32.size)
    (act : Attempt SystemError BoundQueue Unit) :
    checked.guard act bound = (.error .overflow, { bound with queue.sequence := 0 }) := by
  have around : bound.queue.sequence + 1 = 0 := by
    apply UInt32.toNat_inj.mp
    rw [UInt32.toNat_add]
    exact full ▸ Nat.mod_self _
  have none : ¬bound.queue.sequence.toNat + 1 < UInt32.size := full ▸ Nat.lt_irrefl _
  simp only [guard, next, none, ↓reduceIte, around]

end Build

/-- What comes of some uses: their results, what ended them early, and what is left. -/
structure Served where
  results : List (Except SystemError Unit)
  mishap? : Option Mishap
  bound : BoundQueue

/-- Uses one after the other, whether they succeed or not. One that panics is the last. -/
def BoundQueue.serve (build : Build) : List QueueUse → BoundQueue → Served
  | [], bound => ⟨[], none, bound⟩
  | use :: uses, bound =>
    match build.guard use.act bound with
    | (.error mishap, bound) => ⟨[], some mishap, bound⟩
    | (.ok result, bound) =>
      let served := serve build uses bound
      { served with results := result :: served.results }

/-- A message for the kernel, and why the socket does not take it. -/
def KernelCall.message? : KernelCall → Option (Bytes × Option Int32)
  | .send message refused => some (message, refused)
  | _ => none

/-- The messages of tasks, numbered from 1 on, and which of them the kernel refuses. -/
def numbered (kernel : Kernel) (queue : UInt16) (tasks : List QueueTask) :
    List (Bytes × Option Int32) :=
  tasks.mapIdx fun place task =>
    (task.message queue (UInt32.ofNat (place + 1)), kernel.sendsRefused[place]?.join)

theorem numbered_concat (kernel : Kernel) (queue : UInt16) (tasks : List QueueTask)
    (task : QueueTask) :
    numbered kernel queue (tasks ++ [task]) = numbered kernel queue tasks ++
      [(task.message queue (UInt32.ofNat (tasks.length + 1)),
        kernel.sendsRefused[tasks.length]?.join)] :=
  List.mapIdx_concat

/-- A queue for which some tasks were sent since the kernel was in a given state. -/
structure Serving (options : QueueOptions) (kernel : Kernel) (tasks : List QueueTask)
    (bound : BoundQueue) : Prop where
  queue : bound.queue = ⟨options.queue, UInt32.ofNat tasks.length⟩
  refusals : bound.kernel.sendsRefused = kernel.sendsRefused.drop tasks.length
  calls : ∃ since, bound.kernel.calls = kernel.calls ++ since ∧
    since.filterMap KernelCall.message? = numbered kernel options.queue tasks

namespace Serving

variable {options : QueueOptions} {kernel : Kernel} {tasks : List QueueTask} {bound : BoundQueue}

/-- A use sends the next message, and the socket alone decides its result. -/
theorem use (serving : Serving options kernel tasks bound) (use : QueueUse) :
    (use.act bound).1 = Kernel.outcome kernel.sendsRefused[tasks.length]?.join ∧
      Serving options kernel (tasks ++ [use.task]) (use.act bound).2 := by
  have refusal : bound.kernel.sendsRefused.head?.join =
      kernel.sendsRefused[tasks.length]?.join := by
    rw [serving.refusals, List.head?_drop]
  have sequence : bound.queue.sequence + 1 = UInt32.ofNat (tasks.length + 1) := by
    rw [serving.queue]
    exact (UInt32.ofNat_add _ _).symm
  obtain ⟨result, calls⟩ := BoundQueue.send_calls use.task.kind use.task.flags use.task.attributes
    bound
  rw [sequence, refusal, QueueTask.encode_eq] at calls
  rw [use.act_eq]
  refine ⟨result.trans (congrArg Kernel.outcome refusal), ?_, ?_, ?_⟩
  · change Queue.mk bound.queue.number (bound.queue.sequence + 1) = _
    rw [sequence, serving.queue, List.length_append, List.length_singleton]
  · change bound.kernel.sendsRefused.tail = _
    rw [serving.refusals, List.tail_drop, List.length_append, List.length_singleton]
  · obtain ⟨since, before, sent⟩ := serving.calls
    refine ⟨since ++ [_], by rw [calls, before, List.append_assoc], ?_⟩
    rw [List.filterMap_append, sent, numbered_concat, serving.queue]
    rfl

theorem toNat_sequence (serving : Serving options kernel tasks bound)
    (room : tasks.length < UInt32.size) : bound.queue.sequence.toNat = tasks.length := by
  rw [serving.queue]
  exact UInt32.toNat_ofNat_of_lt' room

/-- The numbers go on through any uses, in the order of the uses, up to one that has no number. -/
theorem serve (serving : Serving options kernel tasks bound) {build : Build}
    (room : build = .checked → tasks.length < UInt32.size) (uses : List QueueUse) :
    let served := bound.serve build uses
    let done := uses.take served.results.length
    let sent := tasks ++ done.map QueueUse.task
    served.results = done.mapIdx (fun place _ =>
        Kernel.outcome kernel.sendsRefused[tasks.length + place]?.join) ∧
      (build = .checked → sent.length < UInt32.size) ∧
      ∃ reached, Serving options kernel sent reached ∧
        (served.mishap? = none ∧ done = uses ∧ served.bound = reached ∨
          served.mishap? = some .overflow ∧ build = .checked ∧ done.length < uses.length ∧
            sent.length + 1 = UInt32.size ∧
            served.bound = { reached with queue.sequence := 0 }) := by
  induction uses generalizing tasks bound with
  | nil =>
    refine ⟨rfl, by simpa [BoundQueue.serve] using room, bound, ?_, .inl ⟨rfl, rfl, rfl⟩⟩
    simpa [BoundQueue.serve] using serving
  | cons use uses inductionHypothesis =>
    by_cases full : build = .checked ∧ tasks.length + 1 = UInt32.size
    · obtain ⟨rfl, last⟩ := full
      have count := serving.toNat_sequence (room rfl)
      have panics := Build.guard_of_full (count ▸ last) use.act
      have served : bound.serve .checked (use :: uses) =
          ⟨[], some .overflow, { bound with queue.sequence := 0 }⟩ := by
        rw [BoundQueue.serve, panics]
      rw [served]
      refine ⟨rfl, fun _ => by simpa using room rfl, bound, by simpa using serving, .inr ?_⟩
      simpa using last
    · have roomThen : build = .checked → (tasks ++ [use.task]).length < UInt32.size := by
        intro checked
        have before := room checked
        rw [List.length_append, List.length_singleton]
        exact Nat.lt_of_le_of_ne before fun last => full ⟨checked, last⟩
      have room : build = .checked → bound.queue.sequence.toNat + 1 < UInt32.size := by
        intro checked
        rw [serving.toNat_sequence (room checked)]
        simpa using roomThen checked
      obtain ⟨result, servingThen⟩ := serving.use use
      have served : bound.serve build (use :: uses) =
          let rest := (use.act bound).2.serve build uses
          { rest with results := (use.act bound).1 :: rest.results } := by
        rw [BoundQueue.serve, Build.guard_of_room room]
      obtain ⟨results, roomLast, reached, servingLast, ends⟩ :=
        inductionHypothesis servingThen roomThen
      simp only [List.append_assoc, List.singleton_append] at roomLast servingLast ends
      rw [served]
      dsimp only
      rw [List.length_cons, List.take_succ_cons, List.map_cons]
      refine ⟨?_, roomLast, reached, servingLast, ?_⟩
      · rw [List.mapIdx_cons]
        refine congrArg₂ List.cons result (results.trans ?_)
        simp only [List.length_append, List.length_singleton, Nat.add_assoc, Nat.add_comm 1]
      · rcases ends with ⟨none, complete, same⟩ | ⟨some, checked, early, last, same⟩
        · exact .inl ⟨none, congrArg (use :: ·) complete, same⟩
        · exact .inr ⟨some, checked, Nat.succ_lt_succ early, last, same⟩

end Serving

theorem SetupStage.message?_socket (options : QueueOptions) (kernel : Kernel) (step : SocketStep) :
    (call options kernel (.socket step)).message? = none := by
  cases step <;> rfl

/-- Two messages are sent while a queue is set up. -/
theorem SetupStage.messages_plan (options : QueueOptions) (kernel : Kernel) :
    (options.plan.map (call options kernel)).filterMap KernelCall.message? =
      numbered kernel options.queue [.bind, .configure options] := by
  have silent : ((options.steps.map .socket).map (call options kernel)).filterMap
      KernelCall.message? = [] := by
    rw [List.map_map, List.filterMap_map, List.filterMap_eq_nil_iff]
    exact fun step _ => message?_socket options kernel step
  rw [QueueOptions.plan, List.map_append, List.filterMap_append, silent]
  rfl

/-- A queue that was opened goes on counting where its setup ended. -/
theorem Serving.start {options : QueueOptions} {kernel : Kernel} {queue : Queue}
    (opened : (BoundQueue.openQueue options kernel).1 = .ok queue) :
    Serving options kernel [.bind, .configure options]
      ⟨queue, (BoundQueue.openQueue options kernel).2⟩ := by
  have begun : Underway options kernel 0 { queue := { number := options.queue }, kernel } :=
    ⟨rfl, rfl, rfl, .none kernel.datagrams⟩
  obtain ⟨after, ⟨_, done, finished, calls⟩ | ⟨_, _, _, _, failed, _⟩⟩ :=
    SetupStage.runAll_cases begun (SetupStage.ordered_plan options)
  · rw [BoundQueue.openQueue, BoundQueue.setUp_eq, done] at opened ⊢
    cases opened
    exact ⟨finished.queue, finished.sends, _, calls, SetupStage.messages_plan options kernel⟩
  · rw [BoundQueue.openQueue, BoundQueue.setUp_eq, failed] at opened
    cases opened

end PacketDivert.Netlink
