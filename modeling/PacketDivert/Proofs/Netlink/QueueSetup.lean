import PacketDivert.Proofs.Netlink.SetupStages

namespace PacketDivert.Netlink

/-- A setup stops at the first stage that the kernel does not let pass. -/
structure StopsAt (kernel : Kernel) (plan before : List SetupStage) (stage : SetupStage) :
    Prop where
  planned : before ++ [stage] <+: plan
  cleared : ∀ earlier ∈ before, earlier.Clears kernel
  stopped : ¬stage.Clears kernel

section

variable {kernel : Kernel} {plan before beforeToo : List SetupStage} {stage stageToo : SetupStage}

theorem StopsAt.length_le (stops : StopsAt kernel plan before stage)
    (too : StopsAt kernel plan beforeToo stageToo) : beforeToo.length ≤ before.length := by
  refine Nat.le_of_not_lt fun longer => ?_
  have shorter : (before ++ [stage]).length ≤ beforeToo.length := by
    rw [List.length_append, List.length_singleton]
    omega
  have inside : before ++ [stage] <+: beforeToo :=
    List.prefix_of_prefix_length_le stops.planned
      ((List.prefix_append beforeToo [stageToo]).trans too.planned) shorter
  exact stops.stopped (too.cleared stage (inside.subset (by simp)))

theorem StopsAt.unique (stops : StopsAt kernel plan before stage)
    (too : StopsAt kernel plan beforeToo stageToo) : before = beforeToo ∧ stage = stageToo := by
  have length : (before ++ [stage]).length = (beforeToo ++ [stageToo]).length := by
    have one := stops.length_le too
    have other := too.length_le stops
    simp only [List.length_append, List.length_singleton]
    omega
  have inside : before ++ [stage] <+: beforeToo ++ [stageToo] :=
    List.prefix_of_prefix_length_le stops.planned too.planned (Nat.le_of_eq length)
  obtain ⟨same, last⟩ := List.append_inj' (inside.eq_of_length length) rfl
  exact ⟨same, List.singleton_inj.mp last⟩

end

namespace SetupStage

variable {options : QueueOptions} {kernel : Kernel} {sent total : Nat} {bound : BoundQueue}

/-- Either all stages are gone through, or those up to the first that the kernel does not let
pass. -/
theorem runAll_cases {stages : List SetupStage} (underway : Underway options kernel sent bound)
    (ordered : Ordered sent stages total) :
    ∃ after,
      (∀ stage ∈ stages, stage.Clears kernel) ∧
          runAll options stages bound = (.ok (), after) ∧
          Underway options kernel total after ∧
          after.kernel.calls = bound.kernel.calls ++ stages.map (call options kernel) ∨
        ∃ before stage cause, StopsAt kernel stages before stage ∧
          runAll options stages bound = (.error (stage.fault options cause), after) ∧
          after.kernel.calls =
            bound.kernel.calls ++ (before ++ [stage]).map (call options kernel) := by
  induction stages generalizing sent bound with
  | nil =>
    cases ordered
    exact ⟨bound, .inl ⟨nofun, rfl, underway, (List.append_nil _).symm⟩⟩
  | cons stage stages inductionHypothesis =>
    obtain ⟨due, orderedRest⟩ := ordered
    obtain ⟨reached, calls, ⟨clears, acted, underwayThen⟩ | ⟨stops, cause, acted⟩⟩ :=
      act_cases underway due
    · have ran : runAll options (stage :: stages) bound = runAll options stages reached := by
        rw [runAll, Attempt.bind_run, acted]
      rw [ran]
      obtain ⟨after, ⟨cleared, done, finished, callsThen⟩ |
        ⟨before, last, cause, stops, failed, callsThen⟩⟩ :=
          inductionHypothesis underwayThen orderedRest
      · have clearedAll := List.forall_mem_cons.mpr ⟨clears, cleared⟩
        refine ⟨after, .inl ⟨clearedAll, done, finished, ?_⟩⟩
        rw [callsThen, calls, List.append_assoc]
        rfl
      · refine ⟨after, .inr ⟨stage :: before, last, cause, ?_, failed, ?_⟩⟩
        · exact ⟨List.prefix_cons_inj stage |>.mpr stops.planned,
            List.forall_mem_cons.mpr ⟨clears, stops.cleared⟩, stops.stopped⟩
        · rw [callsThen, calls, List.append_assoc]
          rfl
    · refine ⟨reached, .inr ⟨[], stage, cause, ⟨⟨stages, rfl⟩, nofun, stops⟩, ?_, calls⟩⟩
      rw [runAll, Attempt.bind_run, acted]

end SetupStage

/-- A kernel call without what the kernel answers to it. -/
def KernelCall.asked : KernelCall → KernelCall
  | .send message _ => .send message none
  | call => call

/-- The calls since a queue began to be opened. -/
def BoundQueue.issued (options : QueueOptions) (kernel : Kernel) : List KernelCall :=
  ((openQueue options kernel).2.calls.drop kernel.calls.length).map KernelCall.asked

end PacketDivert.Netlink
