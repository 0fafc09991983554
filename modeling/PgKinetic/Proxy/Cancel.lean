import PgKinetic.Lib.Machine
import PgKinetic.Lib.Text
import Mathlib.Logic.Function.Basic

/-!
# Cancel requests

A client that wants its query cancelled sends the key the proxy gave it on another connection.
`CancelRegistry` has a binding for each key: the **target** that a cancel is forwarded to, which
the session sets when it has a backend (`bind`), and a flag that a request is **forwarding**.
`acquire_forwarding` sets the flag and then reads the target; `unbind` clears the target and then
waits for the flag to be clear. So a session that unbinds before it gives its backend back leaves
no request behind that could still reach the backend.

Not every path of a session does: an error that leaves `handle_frame_cycle` early drops the
backend with its binding as it is.

Sessions and cancel requests are interleaved at the atomic accesses of bindings, registry and
pool.
-/

namespace PgKinetic

open EventMachine

namespace Cancel

/-- The process id and the secret key that a client was given. -/
abbrev ClientKey := Int × Int

/-- `CancelTarget`. -/
structure CancelTarget where
  backendAddr : Text
  processId : Int
  secretKey : Int
  deriving DecidableEq, Repr

/-- `CancelBinding`. -/
structure CancelBinding where
  target : Option CancelTarget := none
  forwarding : Bool := false
  deriving DecidableEq, Repr

/-- Where a session is, as far as its backend and its binding go. -/
inductive SessionPlace where
  | idle
  /-- It has checked out a backend, which is not bound yet. -/
  | leased
  | bound
  /-- In `unbind`, with the target cleared. -/
  | unbinding
  /-- `unbind` has returned. -/
  | unbound
  | ended
  deriving DecidableEq, Repr

variable {β : Type}

/-- A session: its key, the binding that was registered for it, and the backend it has. -/
structure Session (β : Type) where
  key : ClientKey
  binding : CancelBinding := {}
  lease : Option β := none
  place : SessionPlace := .idle
  deriving DecidableEq, Repr

/-- Where a cancel request is; a binding is named by its session. -/
inductive RequestPlace where
  | arriving
  | found (session : Nat)
  /-- The flag is set, the target is not read. -/
  | acquired (session : Nat)
  /-- There was no target; the flag is still set. -/
  | missed (session : Nat)
  /-- It has a `CancelForwardingLease`, and connects. -/
  | forwarding (session : Nat) (target : CancelTarget)
  /-- The packet is sent; the lease is not dropped. -/
  | sent (session : Nat)
  | done
  deriving DecidableEq, Repr

/-- A cancel request. -/
structure Request where
  key : ClientKey
  place : RequestPlace := .arriving
  deriving DecidableEq, Repr

/-- Where a backend is. -/
inductive BackendPlace where
  | idle
  | leased
  | closed
  deriving DecidableEq, Repr

/-- The registry with its bindings, the pool, the sessions and the cancel requests. -/
structure CancelState (β : Type) where
  entries : ClientKey → Option Nat := fun _ => none
  pool : β → BackendPlace := fun _ => .idle
  sessions : Nat → Option (Session β) := fun _ => none
  requests : Nat → Option Request := fun _ => none

/-- What a session does. -/
inductive SessionAction (β : Type) where
  | checkout (backend : β)
  /-- `bind_cancel_target`. -/
  | bind
  /-- `unbind`, up to its loop. -/
  | unbind
  /-- The load of `forwarding`. -/
  | load
  | release
  | discard
  /-- The lease is dropped on the way out of an error. -/
  | drop
  /-- `CancelSessionGuard` is dropped. -/
  | finish
  deriving DecidableEq, Repr

inductive Input (β : Type) where
  /-- `issue_client_key`. -/
  | start (session : Nat) (key : ClientKey)
  | session (i : Nat) (action : SessionAction β)
  /-- A cancel request arrives. -/
  | request (r : Nat) (key : ClientKey)
  /-- The next access of a request. -/
  | proceed (r : Nat)
  /-- The forwarding lease is dropped, whether the packet is sent or not. -/
  | dropLease (r : Nat)
  deriving DecidableEq, Repr

/-- A request with a key sends its packet to a target; the session of the binding is then as
given. -/
inductive Event (β : Type) where
  | sent (key : ClientKey) (session : Session β) (target : CancelTarget)
  deriving DecidableEq, Repr

namespace CancelState

variable (st : CancelState β)

def setSession (i : Nat) (s : Session β) : CancelState β :=
  { st with sessions := Function.update st.sessions i (some s) }

def setRequest (r : Nat) (q : Request) : CancelState β :=
  { st with requests := Function.update st.requests r (some q) }

def setPool [DecidableEq β] (b : β) (place : BackendPlace) : CancelState β :=
  { st with pool := Function.update st.pool b place }

/-- The binding of a session is changed. -/
def modifyBinding (i : Nat) (f : CancelBinding → CancelBinding) : CancelState β :=
  match st.sessions i with
  | some s => st.setSession i { s with binding := f s.binding }
  | none => st

/-- The session goes on to another place. -/
def setPlace (i : Nat) (place : SessionPlace) : CancelState β :=
  match st.sessions i with
  | some s => st.setSession i { s with place }
  | none => st

/-- The binding that the registry has for a key is changed, if it has one. -/
def modifyEntry (key : ClientKey) (f : CancelBinding → CancelBinding) : CancelState β :=
  match st.entries key with
  | some i => st.modifyBinding i f
  | none => st

/-- The backend of a session goes where it is sent to. -/
def giveUp [DecidableEq β] (i : Nat) (s : Session β) (place : BackendPlace) :
    Option (CancelState β) :=
  match s.lease with
  | some b => some ((st.setPool b place).setSession i { s with lease := none, place := .idle })
  | none => none

variable [DecidableEq β] (cancelTarget : β → Option CancelTarget)

/-- One action of session `i`. -/
def stepSession (i : Nat) (s : Session β) : SessionAction β → Option (CancelState β)
  | .checkout b =>
    if s.place = .idle ∧ st.pool b = .idle then
      some ((st.setPool b .leased).setSession i { s with lease := some b, place := .leased })
    else none
  | .bind =>
    match s.lease with
    | some b =>
      if s.place = .leased ∨ s.place = .bound ∨ s.place = .unbound then
        -- without key data there is nothing to bind
        match cancelTarget b with
        | some target =>
          some ((st.modifyEntry s.key fun binding => { binding with target }).setPlace i .bound)
        | none => some (st.setPlace i .bound)
      else none
    | none => none
  | .unbind =>
    if s.place = .leased ∨ s.place = .bound ∨ s.place = .unbound then
      some ((st.modifyEntry s.key fun binding => { binding with target := none }).setPlace i
        .unbinding)
    else none
  | .load =>
    if s.place = .unbinding ∧ s.binding.forwarding = false then some (st.setPlace i .unbound)
    else none
  | .release => if s.place = .leased ∨ s.place = .unbound then st.giveUp i s .idle else none
  | .discard => if s.place = .leased ∨ s.place = .unbound then st.giveUp i s .closed else none
  | .drop => st.giveUp i s .closed
  | .finish =>
    if s.place = .idle then
      some { st.setPlace i .ended with entries := Function.update st.entries s.key none }
    else none

/-- The next access of a cancel request: `forward_cancel`. -/
def stepRequest (r : Nat) (q : Request) : Option (CancelState β × List (Event β)) :=
  match q.place with
  | .arriving =>
    match st.entries q.key with
    | some i => some (st.setRequest r { q with place := .found i }, [])
    | none => some (st.setRequest r { q with place := .done }, [])
  | .found i =>
    match st.sessions i with
    | some s =>
      if s.binding.forwarding then some (st.setRequest r { q with place := .done }, [])
      else some ((st.modifyBinding i fun binding => { binding with forwarding := true }).setRequest
        r { q with place := .acquired i }, [])
    | none => none
  | .acquired i =>
    match st.sessions i with
    | some s =>
      match s.binding.target with
      | some target => some (st.setRequest r { q with place := .forwarding i target }, [])
      | none => some (st.setRequest r { q with place := .missed i }, [])
    | none => none
  | .missed i =>
    some ((st.modifyBinding i fun binding => { binding with forwarding := false }).setRequest r
      { q with place := .done }, [])
  | .forwarding i target =>
    match st.sessions i with
    | some s => some (st.setRequest r { q with place := .sent i }, [.sent q.key s target])
    | none => none
  | .sent _ | .done => none

/-- One step. -/
def step : Input β → Option (CancelState β × List (Event β))
  | .start i key =>
    match st.sessions i, st.entries key with
    | none, none =>
      some ({ st.setSession i { key } with entries := Function.update st.entries key (some i) }, [])
    | _, _ => none
  | .session i action =>
    match st.sessions i with
    | some s =>
      match st.stepSession cancelTarget i s action with
      | some st => some (st, [])
      | none => none
    | none => none
  | .request r key =>
    match st.requests r with
    | none => some (st.setRequest r { key }, [])
    | some _ => none
  | .proceed r =>
    match st.requests r with
    | some q => st.stepRequest r q
    | none => none
  | .dropLease r =>
    match st.requests r with
    | some q =>
      match q.place with
      | .forwarding i _ | .sent i =>
        some ((st.modifyBinding i fun binding => { binding with forwarding := false }).setRequest r
          { q with place := .done }, [])
      | _ => none
    | none => none

end CancelState

/-- The registry, its sessions and its requests as a machine. -/
def cancelMachine [DecidableEq β] (cancelTarget : β → Option CancelTarget) :
    Machine (CancelState β) (Input β) (Event β) where
  step st := st.step cancelTarget

end Cancel

end PgKinetic
