import PacketDivert.Proofs.Rules.IptablesReading
import PacketDivert.Proofs.Rules.NftablesReading
import PacketDivert.Session.Lifecycle

namespace PacketDivert

/-- What the mark of a connection calls for: its packets are let through, dropped, or queued. -/
structure Fate.Fits (policy : Policy) (params : DivertParams) (traffic : Traffic) (fate : Fate) :
    Prop where
  accepted : fate = .accept ↔ traffic.mark = params.acceptMark
  dropped : fate = .drop ∨ fate = .reset ↔ traffic.mark = params.dropMark
  reset : fate = .reset → policy.reset = true ∧ traffic.isTcp = true
  queued : traffic.mark ≠ params.acceptMark → traffic.mark ≠ params.dropMark →
    fate = .queue params.queue.toNat true

theorem Policy.fate_fits (policy : Policy) (params : DivertParams) {resettable : Traffic → Bool}
    (tcpOnly : ∀ traffic, resettable traffic = true → traffic.isTcp = true) (traffic : Traffic) :
    (policy.fate params resettable traffic).Fits policy params traffic := by
  have marks := params.marks_ne.symm
  unfold Policy.fate
  split
  · rename_i accepted
    constructor <;> simp [accepted, params.marks_ne]
  · rename_i notAccepted
    split
    · rename_i dropped
      split
      · rename_i resets
        obtain ⟨wanted, possible⟩ := Bool.and_eq_true_iff.mp resets
        constructor <;> simp [dropped, marks, wanted, tcpOnly traffic possible]
      · constructor <;> simp [dropped, marks]
    · rename_i notDropped
      constructor <;> simp [notAccepted, notDropped]

namespace RuleBackend

/-- What the rules that a backend puts in place do to a packet at a hook, if they are understood. -/
def fate? (policy : Policy) (hook : Hook) (traffic : Traffic) : RuleBackend → Option (Option Fate)
  | .nft backend =>
    match Nftables.divertRuleset policy backend.params with
    | .ok ruleset => ruleset.listing.fate? hook traffic
    | .error _ => none
  | .legacy backend =>
    match Iptables.divertRules policy backend.params with
    | .ok rules => Iptables.fate? rules hook traffic
    | .error _ => none

/-- The rules of a backend are understood at every hook that is diverted, and leave no packet
undecided. -/
theorem fate?_fits {policy : Policy} (coherent : policy.Coherent) {hook : Hook}
    (hooked : hook ∈ policy.hooks) (backend : RuleBackend) (traffic : Traffic) :
    ∃ fate, backend.fate? policy hook traffic = some (some fate) ∧
      fate.Fits policy backend.params traffic := by
  cases backend with
  | nft backend =>
    cases listed : Nftables.divertRuleset policy backend.params with
    | error fault => simp [Nftables.divertRuleset, coherent] at listed
    | ok ruleset =>
      have tcpOnly : ∀ traffic : Traffic,
          (traffic.family == .ipv4 && traffic.isTcp) = true → traffic.isTcp = true :=
        fun _ possible => (Bool.and_eq_true_iff.mp possible).2
      refine ⟨_, ?_, policy.fate_fits backend.params tcpOnly traffic⟩
      simp only [fate?, listed]
      exact Nftables.fate?_divertRuleset listed hooked traffic
  | legacy backend =>
    have listed : Iptables.divertRules policy backend.params = .ok _ :=
      Iptables.divertRules_eq_ok_iff.mpr ⟨coherent, rfl⟩
    refine ⟨_, ?_, policy.fate_fits backend.params (fun _ tcp => tcp) traffic⟩
    simp only [fate?, listed]
    exact Iptables.fate?_divertRules listed hooked traffic

end RuleBackend

/-- The marks of stream verdicts and the rules agree. A verdict that accepts a stream writes the
mark whose connections are let through, one that drops it writes the mark whose connections are
dropped or reset, and a connection with neither mark is queued. -/
theorem stream_verdicts_fit_rules {ω : Type} [Transport ω] {policy : Policy}
    (coherent : policy.Coherent) (backend : RuleBackend) (packet : Packet)
    (replacement : Option Bytes) :
    (∀ hook ∈ policy.hooks, ∀ traffic, ∃ fate,
      backend.fate? policy hook traffic = some (some fate) ∧
        fate.Fits policy backend.params traffic) ∧
    let handle := (Session.openWith packet.session backend policy : Session ω).handle
    ∃ acceptMark dropMark,
      (handle.setVerdict packet .acceptStream replacement : Attempt Error ω Unit) =
        (Transport.send ⟨packet.id, .accept, .mark acceptMark⟩).mapError .transport ∧
      (handle.setVerdict packet .dropStream replacement : Attempt Error ω Unit) =
        (Transport.send ⟨packet.id, .drop, .mark dropMark⟩).mapError .transport ∧
      acceptMark ≠ 0 ∧ dropMark ≠ 0 ∧
      ∀ hook ∈ policy.hooks, ∀ traffic,
        (traffic.mark = acceptMark → backend.fate? policy hook traffic = some (some .accept)) ∧
        (traffic.mark = dropMark →
          backend.fate? policy hook traffic = some (some .drop) ∨
          backend.fate? policy hook traffic = some (some .reset) ∧
            policy.reset = true ∧ traffic.isTcp = true) ∧
        (traffic.mark ≠ acceptMark → traffic.mark ≠ dropMark →
          backend.fate? policy hook traffic =
            some (some (.queue backend.params.queue.toNat true))) := by
  have fits := fun hook (hooked : hook ∈ policy.hooks) =>
    RuleBackend.fate?_fits coherent hooked backend
  refine ⟨fits, backend.params.acceptMark, backend.params.dropMark, ?_, ?_,
    backend.params.acceptMark_ne_zero, backend.params.dropMark_ne_zero, ?_⟩
  · simp [VerdictHandle.setVerdict, VerdictHandle.request, Session.openWith]
  · simp [VerdictHandle.setVerdict, VerdictHandle.request, Session.openWith]
  · intro hook hooked traffic
    obtain ⟨fate, judged, fit⟩ := fits hook hooked traffic
    rw [judged]
    refine ⟨fun accepted => ?_, fun dropped => ?_, fun unaccepted undropped => ?_⟩
    · rw [fit.accepted.mpr accepted]
    · rcases fit.dropped.mpr dropped with rfl | rfl
      · exact .inl rfl
      · exact .inr ⟨rfl, fit.reset rfl⟩
    · rw [fit.queued unaccepted undropped]

/-- A TCP segment over IPv6 with the drop mark, at the forward hook of a reset policy. -/
theorem stream_verdicts_fit_rules_forward :
    (⟨false, true⟩ : Policy).Coherent ∧ ∃ fate,
      (RuleBackend.nft { program := "nft", params := .usual }).fate? ⟨false, true⟩ .forward
          ⟨.ipv6, 6, 1002⟩ =
        some (some fate) ∧
      fate.Fits ⟨false, true⟩ .usual ⟨.ipv6, 6, 1002⟩ :=
  have coherent : (⟨false, true⟩ : Policy).Coherent := by decide
  ⟨coherent, (stream_verdicts_fit_rules (ω := Netlink.BoundQueue) coherent
    (.nft { program := "nft", params := .usual }) ⟨1, 7, [], 3⟩ none).1 .forward (by decide)
      ⟨.ipv6, 6, 1002⟩⟩

end PacketDivert
