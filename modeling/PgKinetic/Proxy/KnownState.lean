import PgKinetic.Proxy.SessionRule

/-!
# The session never loses track of the protocol

`VirtualSession` has a flag for a protocol state the proxy does not understand, and
`cleanup_action` gives up a backend whose session has it set. No function of the default session
loop sets it: every way the session is updated, from the request plans of a cycle to the last
frame of its answer, keeps it `Known`.
-/

namespace PgKinetic

namespace VirtualSession

/-- The proxy knows the protocol state of the session's backend. -/
def Known (s : VirtualSession) : Prop := s.unknownProtocolState = false

theorem ignoresTransaction_known : IgnoresTransaction Known := fun _ _ _ _ h => h

variable {s : VirtualSession}

theorem Known.applySet (h : s.Known) (scope : SetScope) (key value : Text) :
    (s.applySet scope key value).Known := by
  unfold VirtualSession.applySet
  split
  · exact h
  · split <;> exact h

theorem Known.applySql (h : s.Known) (command : SqlCommand) : (s.applySql command).Known := by
  cases command with
  | setTransaction accessMode =>
    exact ignoresTransaction_known.setTransactionAccessMode h accessMode
  | set scope key value => exact h.applySet scope key value
  | discardAll => rfl
  | _ => exact h

end VirtualSession

/-! ### Forwarding a cycle -/

theorem known_updateTransactionStateFromRequestPlans {track committed committed' : Bool}
    {s t : VirtualSession} {plans : List RequestPlan} (h : s.Known)
    (ht : updateTransactionStateFromRequestPlans track s committed plans = some (t, committed')) :
    t.Known :=
  VirtualSession.ignoresTransaction_known.updateTransactionStateFromRequestPlans h ht

theorem known_updateVirtualSessionFromFrame {s : VirtualSession} (h : s.Known)
    (command : SqlCommand) : (updateVirtualSessionFromFrame s command).Known := by
  unfold updateVirtualSessionFromFrame
  split
  all_goals first | exact h | exact h.applySql command

theorem known_forwardMessageCycle {maxBuffer : Nat} {s : VirtualSession}
    {prepared : PreparedCatalog} {b : Backend} {backendRead : List Byte}
    {frames : List FrontendMessage} {commands : List SqlCommand} {env : ForwardEnv} (h : s.Known) :
    (forwardMessageCycle maxBuffer s prepared b backendRead frames commands env).session.Known :=
  rule_forwardMessageCycle VirtualSession.ignoresTransaction_known
    (fun command _ _ hs => known_updateVirtualSessionFromFrame hs command) h

end PgKinetic
