import PacketDivert.Proofs.Netlink.Acknowledgements
import PacketDivert.Proofs.Netlink.Datagrams

namespace PacketDivert.Netlink

namespace Message

/-- Messages one after the other, each complete and with all of its padding. Their lengths have to
have 32 bits. -/
inductive Sequence : Bytes → Prop where
  | nothing : Sequence []
  | message (kind flags : UInt16) (sequence sender : UInt32) {body padding rest : Bytes}
      (short : 16 + body.length < 0x100000000)
      (padded : 16 + body.length + padding.length = align (16 + body.length))
      (more : Sequence rest) :
      Sequence (write kind flags sequence sender body ++ padding ++ rest)

theorem Sequence.framesAt_append {front : Bytes} (complete : Sequence front) (offset : Nat)
    (behind : Bytes) :
    framesAt offset (front ++ behind) =
      framesAt offset front ++ framesAt (offset + front.length) behind := by
  induction complete generalizing offset with
  | nothing => rw [List.nil_append, framesAt_nil, List.nil_append, List.length_nil, Nat.add_zero]
  | @message kind flags sequence sender body padding rest short padded more inductionHypothesis =>
    have full : padding.length = align (16 + body.length) - (16 + body.length) := by omega
    have length : (write kind flags sequence sender body ++ padding ++ rest).length =
        align (16 + body.length) + rest.length := by
      rw [List.length_append, List.length_append, length_write, padded]
    rw [List.append_assoc, List.append_assoc, framesAt_write _ _ _ _ _ short,
      List.drop_left' full, inductionHypothesis, List.append_assoc,
      framesAt_write _ _ _ _ _ short, List.drop_left' full, List.cons_append,
      ← List.append_assoc, length, Nat.add_assoc]

end Message

namespace PacketReport

theorem ofFrames_append (before after : List (Except SystemError Message)) :
    ofFrames (before ++ after) =
      match ofFrames before with
      | .error fault => .error fault
      | .ok reports => (ofFrames after).map (reports ++ ·) := by
  induction before with
  | nil => cases read : ofFrames after <;> simp [ofFrames, read, Except.map]
  | cons frame before inductionHypothesis =>
    rw [List.cons_append, ofFrames_cons, ofFrames_cons, inductionHypothesis]
    cases ofFrame frame with
    | error fault => rfl
    | ok report? =>
      cases ofFrames before with
      | error fault => rfl
      | ok reports => cases ofFrames after <;> simp [Except.map]

/-- Where complete messages are read, what stands behind them decides. -/
theorem ofDatagram_append {front : Bytes} (complete : Message.Sequence front) (behind : Bytes) :
    ofDatagram (front ++ behind) =
      match ofDatagram front with
      | .error fault => .error fault
      | .ok reports => (ofFrames (Message.framesAt front.length behind)).map (reports ++ ·) := by
  rw [ofDatagram, Message.frames, complete.framesAt_append, Nat.zero_add, ofFrames_append]
  rfl

/-- Where a stream begins matters only for its faults. -/
theorem ofFrames_framesAt {stream : Bytes} {offset : Nat} {reports : List PacketReport}
    (read : ofFrames (Message.framesAt offset stream) = .ok reports) (other : Nat) :
    ofFrames (Message.framesAt other stream) = .ok reports := by
  by_cases spent : stream.length < 16
  · rw [Message.framesAt_of_spent other spent]
    rwa [Message.framesAt_of_spent offset spent] at read
  by_cases stands : Message.Stands stream
  · rw [Message.framesAt_of_stands offset stands, ofFrames_cons] at read
    rw [Message.framesAt_of_stands other stands, ofFrames_cons]
    cases first : ofFrame (.ok {
        kind := Bytes.word16At stream 4
        sequence := Bytes.word32At stream 8
        body := Message.bodyOf stream }) with
    | error fault =>
      rw [first] at read
      exact nomatch read
    | ok report? =>
      rw [first] at read
      dsimp only at read ⊢
      cases later : ofFrames (Message.framesAt (offset + align (Message.declared stream))
          (Message.behind stream)) with
      | error fault =>
        rw [later] at read
        exact nomatch read
      | ok others =>
        rw [ofFrames_framesAt later (other + align (Message.declared stream)), ← later]
        exact read
  · rw [Message.framesAt_of_broken offset (by omega) stands] at read
    exact nomatch read
  termination_by stream.length
  decreasing_by exact Message.length_behind_lt stands

end PacketReport

end PacketDivert.Netlink
