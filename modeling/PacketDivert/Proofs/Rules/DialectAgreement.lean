import PacketDivert.Proofs.Rules.IptablesReading
import PacketDivert.Proofs.Rules.NftablesReading

/-! Whether the rules of a policy do the same in both dialects. One table of nftables stands for
both address families, where iptables has the same list of rules in a table for each. -/

namespace PacketDivert

/-- What tables of iptables do to a packet: the one of its address family decides. -/
def Iptables.familyFate? (tables : AddressFamily → List Rule) (hook : Hook) (traffic : Traffic) :
    Option (Option Fate) :=
  fate? (tables traffic.family) hook traffic

namespace Policy

variable (policy : Policy) (params : DivertParams)

/-- A packet of a dropped TCP connection over IPv6, at a hook where such connections are to be
reset. -/
structure ResetsOverIpv6 (hook : Hook) (traffic : Traffic) : Prop where
  hooked : hook ∈ policy.hooks
  reset : policy.reset = true
  family : traffic.family = .ipv6
  tcp : traffic.isTcp = true
  dropped : traffic.mark = params.dropMark

/-- A dialect that resets fewer packets differs on those that are dropped instead. -/
theorem fate_eq_iff (resettable fewer : Traffic → Bool) (traffic : Traffic) :
    policy.fate params fewer traffic = policy.fate params resettable traffic ↔
      ¬(policy.reset = true ∧ traffic.mark = params.dropMark ∧
        fewer traffic ≠ resettable traffic) := by
  have marks := params.marks_ne.symm
  unfold fate
  by_cases dropped : traffic.mark = params.dropMark
  · cases policy.reset <;> cases fewer traffic <;> cases resettable traffic <;>
      simp [dropped, marks]
  · simp [dropped]

/-- What is TCP without being TCP over IPv4. -/
theorem tcpOverIpv4_ne_iff (traffic : Traffic) :
    (traffic.family == .ipv4 && traffic.isTcp) ≠ traffic.isTcp ↔
      traffic.family = .ipv6 ∧ traffic.isTcp = true := by
  cases traffic.family <;> cases traffic.isTcp <;> decide

theorem resetsOverIpv6_iff {hook : Hook} (hooked : hook ∈ policy.hooks) (traffic : Traffic) :
    policy.ResetsOverIpv6 params hook traffic ↔
      policy.reset = true ∧ traffic.mark = params.dropMark ∧
        (traffic.family == .ipv4 && traffic.isTcp) ≠ traffic.isTcp := by
  rw [tcpOverIpv4_ne_iff]
  constructor
  · rintro ⟨_, reset, family, tcp, dropped⟩
    exact ⟨reset, dropped, family, tcp⟩
  · rintro ⟨reset, dropped, family, tcp⟩
    exact ⟨hooked, reset, family, tcp, dropped⟩

variable {policy params} in
theorem ResetsOverIpv6.fates {hook : Hook} {traffic : Traffic}
    (resets : policy.ResetsOverIpv6 params hook traffic) :
    policy.fate params (fun traffic => traffic.family == .ipv4 && traffic.isTcp) traffic = .drop ∧
      policy.fate params Traffic.isTcp traffic = .reset := by
  obtain ⟨_, reset, family, tcp, dropped⟩ := resets
  have marks := params.marks_ne.symm
  simp [fate, dropped, marks, reset, family, tcp]

end Policy

/-- The rules of a policy in both dialects are understood, take packets at the same hooks, and do
the same to every packet but those that only iptables resets: in a table for both address families
the test for TCP is one for TCP over IPv4, so over IPv6 a dropped connection is dropped silently. -/
theorem dialects_agree_iff {policy : Policy} (coherent : policy.Coherent) (params : DivertParams) :
    ∃ ruleset rules, Nftables.divertRuleset policy params = .ok ruleset ∧
      Iptables.divertRules policy params = .ok rules ∧
      ∀ hook traffic, ∃ inOneTable inEach,
        ruleset.listing.fate? hook traffic = some inOneTable ∧
        Iptables.familyFate? (fun _ => rules) hook traffic = some inEach ∧
        (inOneTable = none ↔ hook ∉ policy.hooks) ∧
        (inEach = none ↔ hook ∉ policy.hooks) ∧
        (inOneTable = inEach ↔ ¬policy.ResetsOverIpv6 params hook traffic) ∧
        (policy.ResetsOverIpv6 params hook traffic →
          inOneTable = some .drop ∧ inEach = some .reset) := by
  have written : Iptables.divertRules policy params = .ok _ :=
    Iptables.divertRules_eq_ok_iff.mpr ⟨coherent, rfl⟩
  cases listed : Nftables.divertRuleset policy params with
  | error fault => simp [Nftables.divertRuleset, coherent] at listed
  | ok ruleset =>
    refine ⟨ruleset, _, rfl, written, fun hook traffic => ?_⟩
    by_cases hooked : hook ∈ policy.hooks
    · refine ⟨_, _, Nftables.fate?_divertRuleset listed hooked traffic,
        Iptables.fate?_divertRules written hooked traffic, by simp [hooked], by simp [hooked],
        ?_, ?_⟩
      · rw [Option.some.injEq, policy.fate_eq_iff, policy.resetsOverIpv6_iff params hooked]
      · intro resets
        obtain ⟨drops, resets⟩ := resets.fates
        exact ⟨congrArg some drops, congrArg some resets⟩
    · have spared : ¬policy.ResetsOverIpv6 params hook traffic := fun resets => hooked resets.hooked
      refine ⟨none, none, Nftables.fate?_divertRuleset_of_not_mem listed hooked traffic,
        Iptables.fate?_divertRules_of_not_mem written hooked traffic, by simp [hooked],
        by simp [hooked], by simp [spared], fun resets => absurd resets spared⟩

theorem dialects_agree_iff_forward :
    (⟨false, true⟩ : Policy).Coherent ∧ ∃ ruleset rules,
      Nftables.divertRuleset ⟨false, true⟩ .usual = .ok ruleset ∧
      Iptables.divertRules ⟨false, true⟩ .usual = .ok rules ∧
      ruleset.listing.fate? .forward ⟨.ipv4, 6, 1002⟩ =
        Iptables.familyFate? (fun _ => rules) .forward ⟨.ipv4, 6, 1002⟩ := by
  have coherent : (⟨false, true⟩ : Policy).Coherent := by decide
  obtain ⟨ruleset, rules, listed, written, agree⟩ := dialects_agree_iff coherent .usual
  obtain ⟨inOneTable, inEach, one, each, _, _, same, _⟩ := agree .forward ⟨.ipv4, 6, 1002⟩
  refine ⟨coherent, ruleset, rules, listed, written, ?_⟩
  rw [one, each, same.mpr fun resets => nomatch resets.family]

/-- A segment of a dropped TCP connection over IPv6 is dropped silently by the one dialect, and
reset by the other, though the policy is to reset dropped connections. -/
theorem dialects_differ_over_ipv6 :
    (⟨false, true⟩ : Policy).Coherent ∧ ∃ ruleset rules,
      Nftables.divertRuleset ⟨false, true⟩ .usual = .ok ruleset ∧
      Iptables.divertRules ⟨false, true⟩ .usual = .ok rules ∧
      ruleset.listing.fate? .forward ⟨.ipv6, 6, 1002⟩ = some (some .drop) ∧
      Iptables.familyFate? (fun _ => rules) .forward ⟨.ipv6, 6, 1002⟩ = some (some .reset) := by
  have coherent : (⟨false, true⟩ : Policy).Coherent := by decide
  have written : Iptables.divertRules ⟨false, true⟩ .usual = .ok _ :=
    Iptables.divertRules_eq_ok_iff.mpr ⟨coherent, rfl⟩
  have resets : (⟨false, true⟩ : Policy).ResetsOverIpv6 .usual .forward ⟨.ipv6, 6, 1002⟩ :=
    ⟨by decide, rfl, rfl, rfl, rfl⟩
  cases listed : Nftables.divertRuleset ⟨false, true⟩ .usual with
  | error fault => simp [Nftables.divertRuleset, coherent] at listed
  | ok ruleset =>
    refine ⟨coherent, ruleset, _, rfl, written, ?_, ?_⟩
    · rw [Nftables.fate?_divertRuleset listed resets.hooked, resets.fates.1]
    · rw [Iptables.familyFate?, Iptables.fate?_divertRules written resets.hooked, resets.fates.2]

end PacketDivert
