import PacketDivert.Netlink.Kernel

/-! How the answer to a request is found in what the kernel delivers. Datagrams are read in order
and message by message. All messages are passed over up to the status of the request. -/

namespace PacketDivert.Netlink

namespace Message

variable {stream : Bytes}

/-- The length that the message at the front of a stream gives for itself. -/
def declared (stream : Bytes) : Nat := (Bytes.word32At stream 0).toNat

/-- A stream starts with a message that is at least a header long and does not reach beyond it. -/
def Stands (stream : Bytes) : Prop := 16 ≤ declared stream ∧ declared stream ≤ stream.length

instance (stream : Bytes) : Decidable (Stands stream) := inferInstanceAs (Decidable (_ ∧ _))

theorem Stands.header (stands : Stands stream) : ¬stream.length < 16 :=
  Nat.not_lt.mpr (Nat.le_trans stands.1 stands.2)

/-- The message at the front of a stream is a status, and it is about the request of a number. -/
def Answers (sequence : UInt32) (stream : Bytes) : Prop :=
  Bytes.word16At stream 4 = statusKind ∧ Bytes.word32At stream 8 = sequence

instance (sequence : UInt32) (stream : Bytes) : Decidable (Answers sequence stream) :=
  inferInstanceAs (Decidable (_ ∧ _))

def bodyOf (stream : Bytes) : Bytes := (stream.take (declared stream)).drop 16

/-- What stands behind the message at the front of a stream and its padding. -/
def behind (stream : Bytes) : Bytes := stream.drop (align (declared stream))

/-- A status that reports success: it has a code, and the code is 0. -/
def Succeeds (body : Bytes) : Prop := 4 ≤ body.length ∧ Bytes.word32At body 0 = 0

instance (body : Bytes) : Decidable (Succeeds body) := inferInstanceAs (Decidable (_ ∧ _))

theorem framesAt_of_spent (offset : Nat) (spent : stream.length < 16) :
    framesAt offset stream = [] := by
  rw [framesAt, if_pos (by rw [List.length_take]; omega)]

theorem framesAt_of_stands (offset : Nat) (stands : Stands stream) :
    framesAt offset stream =
      .ok {
        kind := Bytes.word16At stream 4
        sequence := Bytes.word32At stream 8
        body := bodyOf stream } ::
      framesAt (offset + align (declared stream)) (behind stream) := by
  obtain ⟨least, fits⟩ := stands
  have header : ¬(stream.take 16).length < 16 := by
    rw [List.length_take]
    omega
  have whole : ¬(declared stream < 16 ∨
      (stream.take (declared stream)).length < declared stream) := by
    rw [List.length_take]
    omega
  rw [framesAt, if_neg header]
  exact if_neg whole

theorem framesAt_of_broken (offset : Nat) (header : 16 ≤ stream.length) (broken : ¬Stands stream) :
    framesAt offset stream = [.error (badLength offset (declared stream))] := by
  have headed : ¬(stream.take 16).length < 16 := by
    rw [List.length_take]
    omega
  have cut : declared stream < 16 ∨ (stream.take (declared stream)).length < declared stream := by
    rw [List.length_take]
    unfold Stands at broken
    omega
  rw [framesAt, if_neg headed]
  exact if_pos cut

theorem status_eq_ok_iff {body : Bytes} : status body = .ok () ↔ Succeeds body := by
  have zero : (Bytes.word32At body 0).toInt32 = 0 ↔ Bytes.word32At body 0 = 0 := by
    generalize Bytes.word32At body 0 = code
    constructor
    · intro none
      injection none
    · rintro rfl
      rfl
  by_cases short : body.length < 4
  · have cut : (body.take 4).length < 4 := by
      rw [List.length_take]
      omega
    have failed : ¬Succeeds body := fun succeeds => absurd succeeds.1 (by omega)
    rw [status, if_pos cut]
    exact iff_of_false nofun failed
  · have whole : ¬(body.take 4).length < 4 := by
      rw [List.length_take]
      omega
    rw [status, if_neg whole]
    dsimp only
    by_cases succeeded : Bytes.word32At body 0 = 0
    · rw [if_pos (zero.mpr succeeded)]
      exact iff_of_true rfl ⟨by omega, succeeded⟩
    · rw [if_neg (mt zero.mp succeeded)]
      exact iff_of_false nofun fun succeeds => succeeded succeeds.2

/-- The status that is looked for decides. -/
theorem statusOf_of_answers {sequence : UInt32} (stands : Stands stream)
    (answers : Answers sequence stream) (offset : Nat) :
    statusOf sequence (framesAt offset stream) = some (status (bodyOf stream)) := by
  rw [framesAt_of_stands offset stands, statusOf]
  exact if_pos answers

/-- Any other message is passed over. -/
theorem statusOf_of_not_answers {sequence : UInt32} (stands : Stands stream)
    (foreign : ¬Answers sequence stream) (offset : Nat) :
    statusOf sequence (framesAt offset stream) =
      statusOf sequence (framesAt (offset + align (declared stream)) (behind stream)) := by
  rw [framesAt_of_stands offset stands, statusOf]
  exact if_neg foreign

theorem length_behind_lt (stands : Stands stream) : (behind stream).length < stream.length := by
  obtain ⟨least, fits⟩ := stands
  have padded := le_align (declared stream)
  rw [behind, List.length_drop]
  omega

end Message

open Message (Answers Stands Succeeds behind bodyOf declared)

/-- How far datagrams were read: what is left of the one that is being read, and the others. -/
structure Unread where
  stream : Bytes
  datagrams : List Bytes
  deriving DecidableEq, Repr

/-- A request is acknowledged: its status is found before any message that does not fit its
datagram, and reports success. The rest of the datagram with the status is left unread. -/
inductive Acknowledged (sequence : UInt32) : Unread → List Bytes → Prop where
  | here {stream : Bytes} {datagrams : List Bytes} (stands : Stands stream)
      (answers : Answers sequence stream) (succeeds : Succeeds (bodyOf stream)) :
      Acknowledged sequence ⟨stream, datagrams⟩ datagrams
  | passed {stream : Bytes} {datagrams unread : List Bytes} (stands : Stands stream)
      (foreign : ¬Answers sequence stream)
      (later : Acknowledged sequence ⟨behind stream, datagrams⟩ unread) :
      Acknowledged sequence ⟨stream, datagrams⟩ unread
  | next {stream datagram : Bytes} {datagrams unread : List Bytes} (spent : stream.length < 16)
      (later : Acknowledged sequence ⟨datagram.take Kernel.readLength, datagrams⟩ unread) :
      Acknowledged sequence ⟨stream, datagram :: datagrams⟩ unread

/-- What comes of looking for a status from some place on. -/
def Unread.status (sequence : UInt32) (offset : Nat) (unread : Unread) :
    Except SystemError Unit × List Bytes :=
  match Message.statusOf sequence (Message.framesAt offset unread.stream) with
  | some result => (result, unread.datagrams)
  | none => Kernel.statusAmong sequence unread.datagrams

theorem Unread.status_start (sequence : UInt32) (datagrams : List Bytes) :
    Unread.status sequence 0 ⟨[], datagrams⟩ = Kernel.statusAmong sequence datagrams := by
  have spent : ([] : Bytes).length < 16 := by decide
  rw [Unread.status, Message.framesAt_of_spent 0 spent, Message.statusOf]

theorem Unread.status_next {sequence : UInt32} {stream : Bytes} (spent : stream.length < 16)
    (offset : Nat) (datagram : Bytes) (datagrams : List Bytes) :
    Unread.status sequence offset ⟨stream, datagram :: datagrams⟩ =
      Unread.status sequence 0 ⟨datagram.take Kernel.readLength, datagrams⟩ := by
  rw [Unread.status, Message.framesAt_of_spent offset spent, Message.statusOf, Kernel.statusAmong]
  rfl

variable {sequence : UInt32} {unread : List Bytes}

theorem Acknowledged.status {place : Unread} (acknowledged : Acknowledged sequence place unread)
    (offset : Nat) : place.status sequence offset = (.ok (), unread) := by
  induction acknowledged generalizing offset with
  | here stands answers succeeds =>
    rw [Unread.status, Message.statusOf_of_answers stands answers,
      Message.status_eq_ok_iff.mpr succeeds]
  | passed stands foreign later inductionHypothesis =>
    rw [Unread.status, Message.statusOf_of_not_answers stands foreign]
    exact inductionHypothesis _
  | next spent later inductionHypothesis =>
    rw [Unread.status_next spent]
    exact inductionHypothesis 0

theorem Acknowledged.of_status {stream : Bytes} {datagrams : List Bytes} {offset : Nat}
    (found : (Unread.mk stream datagrams).status sequence offset = (.ok (), unread)) :
    Acknowledged sequence ⟨stream, datagrams⟩ unread := by
  by_cases spent : stream.length < 16
  · cases listed : datagrams with
    | nil =>
      rw [listed, Unread.status, Message.framesAt_of_spent offset spent, Message.statusOf] at found
      exact nomatch congrArg Prod.fst found
    | cons datagram rest =>
      rw [listed, Unread.status_next spent] at found
      exact .next spent (of_status found)
  · by_cases stands : Stands stream
    · by_cases answers : Answers sequence stream
      · rw [Unread.status, Message.statusOf_of_answers stands answers] at found
        obtain ⟨succeeded, rfl⟩ := Prod.mk.inj found
        exact .here stands answers (Message.status_eq_ok_iff.mp succeeded)
      · rw [Unread.status, Message.statusOf_of_not_answers stands answers] at found
        exact .passed stands answers (of_status found)
    · rw [Unread.status, Message.framesAt_of_broken offset (by omega) stands,
        Message.statusOf] at found
      exact nomatch congrArg Prod.fst found
  termination_by (datagrams.length, stream.length)
  decreasing_by
    · exact Prod.Lex.left _ _ (listed ▸ Nat.lt_succ_self _)
    · exact Prod.Lex.right _ (Message.length_behind_lt stands)

/-- Waiting for a status succeeds just when the request is acknowledged. -/
theorem statusAmong_eq_ok_iff {datagrams : List Bytes} :
    Kernel.statusAmong sequence datagrams = (.ok (), unread) ↔
      Acknowledged sequence ⟨[], datagrams⟩ unread := by
  rw [← Unread.status_start]
  constructor
  · exact Acknowledged.of_status
  · intro acknowledged
    exact acknowledged.status 0

/-- A message that is no status of the request is passed over by all who look for one. -/
theorem Acknowledged.later {stream : Bytes} {datagrams : List Bytes} (stands : Stands stream)
    (foreign : ¬Answers sequence stream)
    (acknowledged : Acknowledged sequence ⟨stream, datagrams⟩ unread) :
    Acknowledged sequence ⟨behind stream, datagrams⟩ unread := by
  cases acknowledged with
  | here _ answers _ => exact absurd answers foreign
  | passed _ _ later => exact later
  | next spent _ => exact absurd spent stands.header

theorem Acknowledged.answered {place : Unread} (stands : Stands place.stream)
    (answers : Answers sequence place.stream) (acknowledged : Acknowledged sequence place unread) :
    Succeeds (bodyOf place.stream) ∧ unread = place.datagrams := by
  cases acknowledged with
  | here _ _ succeeds => exact ⟨succeeds, rfl⟩
  | passed _ foreign _ => exact absurd answers foreign
  | next spent _ => exact absurd spent stands.header

end PacketDivert.Netlink
