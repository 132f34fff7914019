import CloudGate.Program
import CloudGate.Proofs.Invocation.Session

/-!
A check tells beforehand what an invocation comes to.

* `check_traceless`: the command that checks a call shows a result and leaves no other trace.
* `check_predicts_invoke`: the result is a success exactly if the call would be sent, and otherwise
  the one that its invocation has.
-/

namespace CloudGate.Registry

theorem check_of_unknown {r : Registry} {call : ToolCall} (h : r.find? call.tool = none) :
    r.check call = .failed call.tool (ToolError.unknownTool call.tool) := by
  simp only [check, h]

theorem check_of_rejected {r : Registry} {call : ToolCall} {t : Tool} {e : ToolError}
    (h : r.find? call.tool = some t) (he : Invocation.screen t call = .error e) :
    r.check call = .failed t.name e := by
  simp only [check, h, he]

theorem check_of_admitted {r : Registry} {call : ToolCall} {t : Tool}
    (h : r.find? call.tool = some t) (hok : Invocation.screen t call = .ok ()) :
    r.check call = .checked t.name := by
  simp only [check, h, hok]

/-- A command that checks a call sends nothing, writes to no file and shows no progress. What it
does beyond its result is to complain of arguments that are no call. -/
theorem check_traceless (s : Program.Surroundings) (settings : Settings) (line : CommandLine)
    (request : CommandLine.CallRequest) (run : Program.Run) :
    let after := Program.command s settings { line with command := some (.check request) } run
    (∃ fault, request.toCall = .error fault ∧ after = run.fail (.args fault)) ∨
      ∃ out log exitCode, after = { run with out, log, exitCode } := by
  intro after
  cases h : request.toCall with
  | error fault =>
    refine Or.inl ⟨fault, rfl, ?_⟩
    simp only [after, Program.command, h]
  | ok asked =>
    refine Or.inr ⟨after.out, after.log, after.exitCode, ?_⟩
    simp only [after, Program.command, h]
    rfl

/-- A check is a success exactly if the call would be sent, and it would be sent once then. In all
other cases nothing would be sent, and the check has the very result of the invocation. The check
itself sends nothing and leaves no trace. -/
theorem check_predicts_invoke (r : Registry) (limitMs : Option Nat) (gateway : Gateway)
    (call : ToolCall) :
    let i := r.invoke limitMs gateway call
    ((r.check call).success = true ∧ i.dispatched.length = 1 ∨
        (r.check call).success = false ∧ i.dispatched = [] ∧ i.result = r.check call) ∧
      ∀ s settings (line : CommandLine) request run,
        let after := Program.command s settings { line with command := some (.check request) } run
        (∃ fault, request.toCall = .error fault ∧ after = run.fail (.args fault)) ∨
          ∃ out log exitCode, after = { run with out, log, exitCode } := by
  intro i
  refine ⟨?_, check_traceless⟩
  rcases r.invoke_cases call with hnone | ⟨t, e, ht, he⟩ | ⟨t, ht, hok⟩
  · have hi : i = .unknown call := invoke_of_unknown hnone limitMs gateway
    rw [hi, check_of_unknown hnone]
    exact Or.inr ⟨rfl, rfl, rfl⟩
  · have hi : i = .rejected t call e := invoke_of_rejected ht he limitMs gateway
    rw [hi, check_of_rejected ht he]
    exact Or.inr ⟨rfl, rfl, rfl⟩
  · have hi : i = .sent t call limitMs (gateway t.name (Invocation.request t call)) :=
      invoke_of_admitted ht hok limitMs gateway
    rw [hi, check_of_admitted ht hok]
    exact Or.inl ⟨rfl, rfl⟩

end CloudGate.Registry
