import TypedClient.Command.Program
import TypedClient.Proofs.Command.Effects

/-!
Endings of commands that look the same to whoever started the program.
-/

namespace TypedClient

namespace Command

/-- What is left of a run in the end. -/
def ending (o : Outcome CommandFault Unit) : Ending :=
  match o.result with
  | .ok () => ⟨o.disk, o.deeds, 0⟩
  | .error e => ⟨o.disk, o.deeds ++ [.showed (faultLine e.message)], 1⟩

theorem run_eq_ending (c : Command) (s : Surroundings) (d : Disk) :
    c.run s d = ending ((c.body s).on d) := rfl

theorem ending_after (o : Outcome CommandFault Unit) (deeds : List Deed) :
    ending (o.after deeds) = { ending o with deeds := deeds ++ (ending o).deeds } := by
  unfold ending Outcome.after
  cases o.result with
  | ok _ => rfl
  | error e => exact congrArg (Ending.mk _ · _) (List.append_assoc ..)

end Command

end TypedClient
