import CloudGate.Program
import CloudGate.Proofs.Invocation.Session

/-!
Calls as they come from a command line: whatever the text says, their arguments are a map.

* `readValue_sorted`: an object that is read has each name once, and its names in order.
* `toCall_sorted`: so have the arguments of a call, with or without consent beside them.
* `requested_safe`: so no session of such calls sends what it must not send.
* `call_safe`: nor does the program, which sends for a command no more than one call comes to.
-/

namespace CloudGate

namespace Json

/-- A reader whose values are no objects reads no object. -/
theorem obj_not_read {β : Type} {x : Except Fault β} {value : β → Json} {left : β → List Char}
    {members : Fields Json} {rest : List Char} (hvalue : ∀ b, value b ≠ .obj members) :
    (x >>= fun b => .ok (value b, left b)) ≠ .ok (.obj members, rest) := by
  intro h
  obtain ⟨b, -, hok⟩ := bind_eq_ok.mp h
  exact hvalue b (Prod.mk.inj (Except.ok.inj hok)).1

/-- Only a brace opens an object, and its members are put in one after the other. -/
theorem readValue_sorted {depth : Nat} {cs rest : List Char} {members : Fields Json}
    (h : readValue depth cs = .ok (.obj members, rest)) : members.Sorted := by
  unfold readValue at h
  simp only at h
  split at h
  case h_1 => contradiction
  case h_2 => exact absurd h (obj_not_read fun _ => Json.noConfusion)
  case h_3 => exact absurd h (obj_not_read fun _ => Json.noConfusion)
  case h_4 => exact absurd h (obj_not_read fun _ => Json.noConfusion)
  case h_5 => exact absurd h (obj_not_read fun _ => Json.noConfusion)
  case h_6 =>
    cases depth with
    | zero => contradiction
    | succ inner => exact absurd h (obj_not_read fun _ => Json.noConfusion)
  case h_7 =>
    cases depth with
    | zero => contradiction
    | succ inner =>
      obtain ⟨⟨read, left⟩, -, hok⟩ := bind_eq_ok.mp h
      obtain ⟨hmembers, -⟩ := Prod.mk.inj (Except.ok.inj hok)
      obtain rfl := Json.obj.inj hmembers
      exact Fields.sorted_ofList read
  case h_8 => exact absurd h (obj_not_read fun _ => Json.noConfusion)
  case h_9 =>
    split at h
    · exact absurd h (obj_not_read fun _ => Json.noConfusion)
    · contradiction

theorem parse_sorted {s : String} {members : Fields Json} (h : parse s = .ok (.obj members)) :
    members.Sorted := by
  obtain ⟨⟨v, rest⟩, hread, hend⟩ := bind_eq_ok.mp h
  simp only at hend
  split at hend
  · obtain rfl := Except.ok.inj hend
    exact readValue_sorted hread
  · contradiction

end Json

namespace CommandLine

theorem readArgs_sorted {text : String} {arguments : Fields Json}
    (h : readArgs text = .ok arguments) : arguments.Sorted := by
  unfold readArgs at h
  split at h
  · obtain rfl := Except.ok.inj h
    exact List.Pairwise.nil
  · split at h
    · rename_i members hparse
      obtain rfl := Except.ok.inj h
      exact Json.parse_sorted hparse
    · contradiction
    · contradiction

/-- Consent beside the arguments takes its place among them. -/
theorem toCall_sorted {r : CallRequest} {call : ToolCall} (h : r.toCall = .ok call) :
    call.arguments.Sorted := by
  unfold CallRequest.toCall at h
  cases hargs : readArgs (r.args.getD "") with
  | error fault =>
    rw [hargs] at h
    contradiction
  | ok arguments =>
    rw [hargs] at h
    obtain rfl := Except.ok.inj h
    have hsorted := readArgs_sorted hargs
    show (if r.confirm then _ else arguments).Sorted
    split
    · exact hsorted.insert Gate.confirmName (.bool true)
    · exact hsorted

/-- Calls that command lines ask for are safe in every session. -/
theorem requested_safe (registry : Registry) (limitMs : Option Nat)
    (behaviour : Gateway.Behaviour) {calls : List ToolCall}
    (h : ∀ call ∈ calls, ∃ request : CallRequest, request.toCall = .ok call) :
    List.Forall₂ (Invocation.Safe registry) calls
      (registry.session limitMs behaviour [] calls) := by
  refine registry.session_forall limitMs behaviour calls (fun call hcall gateway => ?_) []
  obtain ⟨request, hrequest⟩ := h call hcall
  exact registry.invoke_safe limitMs gateway (toCall_sorted hrequest)

/-- A command that is to run a call complains of arguments that are no call, or it sends what a safe
invocation of the call sends. A dry run sends nothing. -/
theorem call_safe (s : Program.Surroundings) (settings : Settings) (line : CommandLine)
    (request : CallRequest) (dryRun : Bool) (run : Program.Run) :
    let after :=
      Program.command s settings { line with command := some (.call request dryRun) } run
    let provider :=
      Gateway.Provider.ofSettings settings.provider.apiUrl (settings.provider.resolveToken s.env)
    (∃ fault, request.toCall = .error fault ∧ after = run.fail (.args fault)) ∨
      ∃ call i, request.toCall = .ok call ∧ Invocation.Safe Catalog.registry call i ∧
        after.requests =
          if dryRun then []
          else i.dispatched.flatMap fun (operation, sent) =>
            (provider.dispatch s.transport 0 operation sent).requests := by
  intro after provider
  cases h : request.toCall with
  | error fault =>
    refine Or.inl ⟨fault, rfl, ?_⟩
    simp only [after, Program.command, h]
  | ok call =>
    refine Or.inr ⟨call, _, rfl, Catalog.registry.invoke_safe
      (Invocation.limitOfSeconds (some settings.provider.timeoutSeconds))
      (if dryRun then Gateway.dryRun else provider.gateway s.transport) (toCall_sorted h), ?_⟩
    simp only [after, Program.command, h]
    rfl

end CommandLine

end CloudGate
