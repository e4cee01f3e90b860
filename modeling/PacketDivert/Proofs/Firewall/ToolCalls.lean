import PacketDivert.Firewall.Table
import Mathlib.Data.List.Basic

namespace PacketDivert

/-- What stands behind the leading arguments of a call to a program. -/
def Invocation.argumentsFor (program : String) (leading : List String) (invocation : Invocation) :
    Option (List String) :=
  if invocation.program = program then invocation.arguments.dropPrefix? leading else none

theorem Invocation.argumentsFor_append (program : String) (leading rest : List String)
    (input : Option String) :
    argumentsFor program leading ⟨program, leading ++ rest, input⟩ = some rest := by
  rw [argumentsFor, if_pos rfl, List.dropPrefix?_append_of_beq rest (beq_iff_eq.mpr rfl)]

theorem Invocation.argumentsFor_eq_some {program : String} {leading rest : List String}
    {invocation : Invocation} (found : invocation.argumentsFor program leading = some rest) :
    invocation.program = program ∧ invocation.arguments = leading ++ rest := by
  unfold argumentsFor at found
  split at found
  · rename_i same
    obtain ⟨front, split, equal⟩ := List.dropPrefix?_eq_some_iff.mp found
    rw [beq_iff_eq.mp equal] at split
    exact ⟨same, split⟩
  · exact nomatch found

/-- A machine on which a tool was called. -/
def Machine.called (invocation : Invocation) (machine : Machine) : Machine :=
  { machine with tools := (machine.tools.run invocation).2 }

theorem Machine.run_eq (invocation : Invocation) (machine : Machine) :
    Machine.run invocation machine =
      (machine.tools.answer machine.tools.calls invocation, machine.called invocation) := rfl

@[simp] theorem Machine.called_answer (invocation : Invocation) (machine : Machine) :
    (machine.called invocation).tools.answer = machine.tools.answer := rfl

@[simp] theorem Machine.called_calls (invocation : Invocation) (machine : Machine) :
    (machine.called invocation).tools.calls = machine.tools.calls ++
      [⟨invocation, machine.tools.answer machine.tools.calls invocation⟩] := rfl

end PacketDivert
