import PacketDivert.Netlink.Queue
import PacketDivert.Proofs.Netlink.Acknowledgements
import PacketDivert.Proofs.Netlink.MessageReading

namespace PacketDivert.Netlink

/-- What is done to the socket before anything is sent. -/
inductive SocketStep where
  | create
  | bind
  | readBuffer (size : UInt64)
  | writeBuffer (size : UInt64)
  deriving DecidableEq, Repr

namespace SocketStep

def call : SocketStep → KernelCall
  | .create => .openSocket 16 3 12
  | .bind => .bind 16 0 0
  | .readBuffer size => .receiveBuffer size.toUInt32.toInt32
  | .writeBuffer size => .sendBuffer size.toUInt32.toInt32

/-- Whether the kernel refuses a step, and by which number. -/
def refused : SocketStep → Kernel → Option Int32
  | .create => Kernel.openRefused
  | .bind => Kernel.bindRefused
  | .readBuffer _ => Kernel.receiveBufferRefused
  | .writeBuffer _ => Kernel.sendBufferRefused

def failure : SocketStep → String
  | .create => "failed to open netfilter netlink socket"
  | .bind => "failed to bind netlink socket"
  | .readBuffer size => s!"failed to set read buffer to {size.toNat}"
  | .writeBuffer size => s!"failed to set write buffer to {size.toNat}"

end SocketStep

/-- What the kernel is asked for, by messages with the numbers 1 and 2. -/
inductive QueueRequest where
  | bind
  | configure
  deriving DecidableEq, Repr

namespace QueueRequest

/-- How many requests were sent before. -/
def earlier : QueueRequest → Nat
  | .bind => 0
  | .configure => 1

def attributes (options : QueueOptions) : QueueRequest → Bytes
  | .bind => ConfigCommand.bind.encode
  | .configure => options.encode

def failure (options : QueueOptions) : QueueRequest → String
  | .bind => s!"failed to bind queue {options.queue.toNat}"
  | .configure => s!"failed to configure queue {options.queue.toNat}"

def message (options : QueueOptions) (request : QueueRequest) : Bytes :=
  Message.encode .config (Message.requestFlag ||| Message.statusFlag)
    (UInt32.ofNat (request.earlier + 1)) options.queue (request.attributes options)

end QueueRequest

inductive SetupStage where
  | socket (step : SocketStep)
  | send (request : QueueRequest)
  deriving DecidableEq, Repr

/-- The first requests are acknowledged one after the other, by what the kernel delivers. -/
inductive AllAcknowledged : Nat → List Bytes → List Bytes → Prop where
  | none (datagrams : List Bytes) : AllAcknowledged 0 datagrams datagrams
  | next {count : Nat} {datagrams middle unread : List Bytes}
      (before : AllAcknowledged count datagrams middle)
      (acknowledged : Acknowledged (UInt32.ofNat (count + 1)) ⟨[], middle⟩ unread) :
      AllAcknowledged (count + 1) datagrams unread

namespace SetupStage

/-- The kernel lets a stage pass: it does not refuse its call, and where a request is sent, it
acknowledges it behind those before. -/
def Clears (kernel : Kernel) : SetupStage → Prop
  | .socket step => step.refused kernel = none
  | .send request =>
    kernel.sendsRefused[request.earlier]?.join = none ∧
      ∃ unread, AllAcknowledged (request.earlier + 1) kernel.datagrams unread

/-- The call of a stage, as the kernel sees it. -/
def call (options : QueueOptions) (kernel : Kernel) : SetupStage → KernelCall
  | .socket step => step.call
  | .send request =>
    .send (request.message options) (kernel.sendsRefused[request.earlier]?.join)

/-- What is said when a stage fails. -/
def fault (options : QueueOptions) (cause : SystemError) : SetupStage → Error
  | .socket step => .setup s!"{step.failure}: {cause.message}"
  | .send request => .setup s!"{request.failure options}: {cause.message}"

def act (options : QueueOptions) : SetupStage → Attempt Error BoundQueue Unit
  | .socket step =>
    BoundQueue.stage step.failure (BoundQueue.onKernel (Kernel.perform step.call step.refused))
  | .send request =>
    BoundQueue.stage (request.failure options) (BoundQueue.configure (request.attributes options))

/-- Stages one after the other, up to the first that fails. -/
def runAll (options : QueueOptions) : List SetupStage → Attempt Error BoundQueue Unit
  | [] => pure ()
  | stage :: stages => do
    stage.act options
    runAll options stages

end SetupStage

/-- A buffer size that is set. -/
def wanted (size : Option UInt64) : List UInt64 := size.toList.filter (· ≠ 0)

/-- What is done to the socket, with those of the buffer sizes that are asked for. -/
def QueueOptions.steps (options : QueueOptions) : List SocketStep :=
  [.create, .bind] ++ (wanted options.readBuffer).map .readBuffer ++
    (wanted options.writeBuffer).map .writeBuffer

/-- The stages of a setup. -/
def QueueOptions.plan (options : QueueOptions) : List SetupStage :=
  options.steps.map .socket ++ [.send .bind, .send .configure]

theorem SetupStage.runAll_append (options : QueueOptions) (stages more : List SetupStage) :
    runAll options (stages ++ more) = runAll options stages >>= fun _ => runAll options more := by
  induction stages with
  | nil => rfl
  | cons stage stages inductionHypothesis =>
    simp only [List.cons_append, runAll, inductionHypothesis, bind_assoc]

theorem BoundQueue.sizeStage_eq (options : QueueOptions) (what : String)
    {set : UInt64 → Attempt SystemError Kernel Unit} {step : UInt64 → SocketStep}
    (does : ∀ size, stage s!"failed to set {what} buffer to {size.toNat}" (onKernel (set size)) =
      SetupStage.act options (.socket (step size)))
    (size : Option UInt64) :
    sizeStage what set size =
      SetupStage.runAll options (((wanted size).map step).map .socket) := by
  cases size with
  | none => rfl
  | some size =>
    by_cases zero : size = 0
    · rw [sizeStage, if_pos zero, wanted, zero]
      rfl
    · have asked : wanted (some size) = [size] := List.filter_cons_of_pos (by simpa using zero)
      rw [sizeStage, if_neg zero, does, asked]
      exact bind_pure_unit.symm

theorem BoundQueue.setUp_eq (options : QueueOptions) :
    setUp options = SetupStage.runAll options options.plan := by
  have read : sizeStage "read" Kernel.setReceiveBuffer options.readBuffer = _ :=
    @sizeStage_eq options "read" _ .readBuffer (fun _ => rfl) options.readBuffer
  have write : sizeStage "write" Kernel.setSendBuffer options.writeBuffer = _ :=
    @sizeStage_eq options "write" _ .writeBuffer (fun _ => rfl) options.writeBuffer
  rw [QueueOptions.plan, QueueOptions.steps, List.map_append, List.map_append,
    SetupStage.runAll_append, SetupStage.runAll_append, SetupStage.runAll_append, ← read, ← write]
  simp only [List.map_cons, List.map_nil, SetupStage.runAll, bind_assoc, bind_pure_unit]
  rfl

theorem AllAcknowledged.unique {count : Nat} {datagrams unread other : List Bytes}
    (acknowledged : AllAcknowledged count datagrams unread)
    (too : AllAcknowledged count datagrams other) : unread = other := by
  induction acknowledged generalizing other with
  | none => cases too; rfl
  | next before acknowledged inductionHypothesis =>
    cases too with
    | next beforeToo acknowledgedToo =>
      rw [← inductionHypothesis beforeToo] at acknowledgedToo
      have same := (statusAmong_eq_ok_iff.mpr acknowledged).symm.trans
        (statusAmong_eq_ok_iff.mpr acknowledgedToo)
      exact congrArg Prod.snd same

theorem BoundQueue.configure_run (attributes : Bytes) (bound : BoundQueue) :
    configure attributes bound =
      match send .config (Message.requestFlag ||| Message.statusFlag) attributes bound with
      | (.error cause, sent) => (.error cause, sent)
      | (.ok (), sent) =>
        let status := Kernel.statusAmong sent.queue.sequence sent.kernel.datagrams
        (status.1, { sent with kernel := { sent.kernel with datagrams := status.2 } }) := by
  refine (Attempt.bind_run _ _ bound).trans ?_
  rcases send .config (Message.requestFlag ||| Message.statusFlag) attributes bound with
    ⟨_ | _, sent⟩ <;> rfl

/-- The kernel refuses the same steps, whatever was called and read. -/
def SameRefusals (kernel other : Kernel) : Prop :=
  { other with
    sendsRefused := kernel.sendsRefused
    datagrams := kernel.datagrams
    calls := kernel.calls } = kernel

theorem SameRefusals.refused {kernel other : Kernel} (same : SameRefusals kernel other)
    (step : SocketStep) : step.refused other = step.refused kernel := by
  rw [← same]
  cases step <;> rfl

/-- A setup of which some requests were sent, and acknowledged. -/
structure Underway (options : QueueOptions) (kernel : Kernel) (sent : Nat) (bound : BoundQueue) :
    Prop where
  queue : bound.queue = ⟨options.queue, UInt32.ofNat sent⟩
  refusals : SameRefusals kernel bound.kernel
  sends : bound.kernel.sendsRefused = kernel.sendsRefused.drop sent
  unread : AllAcknowledged sent kernel.datagrams bound.kernel.datagrams

namespace SetupStage

/-- The requests that are sent in a stage. -/
def sends : SetupStage → Nat
  | .socket _ => 0
  | .send _ => 1

/-- A request is due when those before it were sent. -/
def Due (sent : Nat) : SetupStage → Prop
  | .socket _ => True
  | .send request => request.earlier = sent

variable {options : QueueOptions} {kernel : Kernel} {sent : Nat} {bound : BoundQueue}

theorem act_socket (options : QueueOptions) (step : SocketStep) (bound : BoundQueue) :
    act options (.socket step) bound =
      (match step.refused bound.kernel with
        | none => .ok ()
        | some number => .error (fault options (.code number) (.socket step)),
        { bound with kernel := { bound.kernel with
          calls := bound.kernel.calls ++ [step.call] } }) := by
  rw [act, BoundQueue.stage, Attempt.mapError_run, BoundQueue.onKernel, Kernel.perform]
  cases step.refused bound.kernel <;> rfl

theorem act_send (options : QueueOptions) (request : QueueRequest) (bound : BoundQueue) :
    act options (.send request) bound =
      match BoundQueue.send .config (Message.requestFlag ||| Message.statusFlag)
        (request.attributes options) bound with
      | (.error cause, sent) => (.error (fault options cause (.send request)), sent)
      | (.ok (), sent) =>
        let status := Kernel.statusAmong sent.queue.sequence sent.kernel.datagrams
        (status.1.mapError (fault options · (.send request)),
          { sent with kernel := { sent.kernel with datagrams := status.2 } }) := by
  rw [act, BoundQueue.stage, Attempt.mapError_run, BoundQueue.configure_run]
  rcases BoundQueue.send .config (Message.requestFlag ||| Message.statusFlag)
    (request.attributes options) bound with ⟨_ | _, sent⟩ <;> rfl

/-- What sending a request that is due leaves behind, before its status is waited for. -/
theorem send_underway {request : QueueRequest}
    (underway : Underway options kernel request.earlier bound) :
    ∃ sent : BoundQueue,
      BoundQueue.send .config (Message.requestFlag ||| Message.statusFlag)
          (request.attributes options) bound =
        (Kernel.outcome kernel.sendsRefused[request.earlier]?.join, sent) ∧
      sent.kernel.calls = bound.kernel.calls ++ [call options kernel (.send request)] ∧
      sent.queue = ⟨options.queue, UInt32.ofNat (request.earlier + 1)⟩ ∧
      SameRefusals kernel sent.kernel ∧
      sent.kernel.sendsRefused = kernel.sendsRefused.drop (request.earlier + 1) ∧
      sent.kernel.datagrams = bound.kernel.datagrams := by
  have refusal : bound.kernel.sendsRefused.head?.join =
      kernel.sendsRefused[request.earlier]?.join := by
    rw [underway.sends, List.head?_drop]
  have sequence : bound.queue.sequence + 1 = UInt32.ofNat (request.earlier + 1) := by
    rw [underway.queue]
    exact (UInt32.ofNat_add _ _).symm
  obtain ⟨result, calls⟩ := BoundQueue.send_calls .config
    (Message.requestFlag ||| Message.statusFlag) (request.attributes options) bound
  refine ⟨_, Prod.ext (result.trans (congrArg Kernel.outcome refusal)) rfl, ?_, ?_,
    underway.refusals, ?_, rfl⟩
  · rw [calls, refusal, sequence, underway.queue]
    rfl
  · change Queue.mk bound.queue.number (bound.queue.sequence + 1) = _
    rw [sequence, underway.queue]
  · change bound.kernel.sendsRefused.tail = _
    rw [underway.sends, List.tail_drop]

/-- A stage makes its call, and it succeeds just when the kernel lets it pass. -/
theorem act_cases (underway : Underway options kernel sent bound) {stage : SetupStage}
    (due : stage.Due sent) :
    ∃ after, after.kernel.calls = bound.kernel.calls ++ [stage.call options kernel] ∧
      (stage.Clears kernel ∧ stage.act options bound = (.ok (), after) ∧
          Underway options kernel (sent + stage.sends) after ∨
        ¬stage.Clears kernel ∧
          ∃ cause, stage.act options bound = (.error (stage.fault options cause), after)) := by
  cases stage with
  | socket step =>
    refine ⟨{ bound with kernel := { bound.kernel with
      calls := bound.kernel.calls ++ [step.call] } }, rfl, ?_⟩
    rw [act_socket, underway.refusals.refused]
    cases refused : step.refused kernel with
    | none =>
      exact .inl ⟨refused, rfl, underway.queue, underway.refusals, underway.sends, underway.unread⟩
    | some number =>
      exact .inr ⟨fun clears => (nomatch refused.symm.trans clears), .code number, rfl⟩
  | send request =>
    have due : request.earlier = sent := due
    subst due
    obtain ⟨reached, sent, calls, queue, refusals, sends, datagrams⟩ := send_underway underway
    rw [act_send, sent]
    cases refused : kernel.sendsRefused[request.earlier]?.join with
    | some number =>
      refine ⟨reached, calls, .inr ⟨fun clears => ?_, .code number, rfl⟩⟩
      exact nomatch refused.symm.trans clears.1
    | none =>
      have sequence : reached.queue.sequence = UInt32.ofNat (request.earlier + 1) := by rw [queue]
      dsimp only [Kernel.outcome]
      rw [sequence, datagrams]
      rcases read : Kernel.statusAmong (UInt32.ofNat (request.earlier + 1))
        bound.kernel.datagrams with ⟨cause | _, unread⟩
      · refine ⟨{ reached with kernel := { reached.kernel with datagrams := unread } }, calls,
          .inr ⟨?_, cause, rfl⟩⟩
        rintro ⟨_, _, acknowledged⟩
        cases acknowledged with
        | next before acknowledged =>
          rw [before.unique underway.unread] at acknowledged
          exact nomatch (statusAmong_eq_ok_iff.mpr acknowledged).symm.trans read
      · have acknowledged := AllAcknowledged.next underway.unread (statusAmong_eq_ok_iff.mp read)
        exact ⟨{ reached with kernel := { reached.kernel with datagrams := unread } }, calls,
          .inl ⟨⟨refused, unread, acknowledged⟩, rfl, queue, refusals, sends, acknowledged⟩⟩

/-- Every request of some stages is due when its turn comes, and they bring the requests that were
sent to a total. -/
def Ordered : Nat → List SetupStage → Nat → Prop
  | sent, [], total => sent = total
  | sent, stage :: stages, total => stage.Due sent ∧ Ordered (sent + stage.sends) stages total

theorem ordered_plan (options : QueueOptions) : Ordered 0 options.plan 2 := by
  have requests : Ordered 0 [.send .bind, .send .configure] 2 := ⟨rfl, rfl, rfl⟩
  rw [QueueOptions.plan]
  induction options.steps with
  | nil => exact requests
  | cons step steps inductionHypothesis => exact ⟨trivial, inductionHypothesis⟩

end SetupStage

end PacketDivert.Netlink
