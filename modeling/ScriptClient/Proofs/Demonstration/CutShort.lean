import ScriptClient.Proofs.Demonstration.Whole
import ScriptClient.Proofs.Session.Limited

set_option autoImplicit false

/-! # Demonstrations that are cut short

The typed calls and the raw probe go on after a failed call, and ask the same questions whatever
they are answered. So all that can end them early is a transcript that takes no more text. -/

namespace ScriptClient.Demonstration

open Call Rpc

/-- **Demonstrations that are cut short.** Whatever the calls come to, the four typed calls and the
raw probe are ended early by a sink that is full, and by nothing else; that is so exactly if the
transcript of the same run without a limit is longer than the sink has room for. The sink takes the
first bytes of that transcript, as many as it has room for, the calls are made in their order, and
no call is made after the text that did not fit. -/
theorem demonstrations_cut_short {State State' : Type} (world : World Api Api.Outcome State)
    (state : State) (peer : World Ask Ask.Answer State') (state' : State')
    (bindings flushFails : Bool) (room : Nat) :
    let sink : Sink := { room := some room, flushFails := flushFails }
    Run.LimitedTo room Outcomes.questions (fourCalls.run world {} state)
        (fourCalls.run world sink state) ∧
      Run.LimitedTo room [.unary probeRequest] ((probe bindings).run peer {} state')
        ((probe bindings).run peer sink state') := by
  intro sink
  refine ⟨?_, ?_⟩
  · exact Session.run_limitedTo world (.inr flushFree_fourCalls) room state
      (fourCalls_eq world state).2.2
  · exact Session.run_limitedTo peer (.inr (flushFree_probe bindings)) room state'
      (probe_story peer state' bindings).2

end ScriptClient.Demonstration
