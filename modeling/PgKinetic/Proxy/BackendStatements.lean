import PgKinetic.Lib.Machine
import PgKinetic.Protocol.Materialized
import PgKinetic.Proxy.Forwarding
import Mathlib.Logic.Function.Basic

/-!
# Prepared statements on shared backends

The catalog of a session says where its statements are materialized; what a backend holds is
decided by the frames it runs. This module puts the two side by side: **clients** with their
catalogs, and the **prepared statements of every backend**, fed with the frames that
`prepareFrameForBackend` plans.

A backend behaves as PostgreSQL does. A Parse stores a statement under its name, unless it is
rejected or a named statement of that name exists; the unnamed statement is replaced, is lost
when its Parse is rejected, and does not survive a simple query. A Bind or Describe of a name
the backend does not hold is an error, and after an error every frame up to the next Sync is
skipped. Everything else the backend decides (which frames it rejects, what a query
deallocates) is in the inputs.

A backend is leased to one session at a time, so a cycle runs on it undisturbed, and the
catalog of the session is not touched meanwhile except by the planning of the cycle itself.
That is why a cycle may be taken frame by frame, each planned and then run.
-/

namespace PgKinetic

namespace Statements

/-! ### The statements of a backend -/

/-- The text and the parameter types of a prepared statement. -/
structure Body where
  query : Text
  parameterTypeOids : List Int
  deriving DecidableEq

/-- What a simple query removes from the backend. -/
inductive Deallocation where
  | named (names : List Text)
  | all
  deriving DecidableEq

/-- Whether the statement of that name is removed. -/
def Deallocation.removes : Deallocation → Text → Bool
  | .named names, name => names.contains name
  | .all, _ => true

/-- How the backend answers one frame. -/
structure Reply where
  ok : Bool := true
  deallocated : Deallocation := .named []
  deriving DecidableEq

/-- The prepared statements of a backend, the session whose Parse made the unnamed one, and
whether the backend is skipping frames after an error. -/
structure Server where
  statements : Std.ExtTreeMap Text Body := ∅
  unnamedBy : Option Nat := none
  skipping : Bool := false

namespace Server

/-- A simple query: the unnamed statement is gone, whatever the query does. -/
def runQuery (server : Server) (deallocated : Deallocation) : Server :=
  { server with
    statements := server.statements.filter fun name _ => !name.isEmpty && !deallocated.removes name
    unnamedBy := none }

/-- A Parse that is accepted. -/
def accept (server : Server) (session : Nat) (name : Text) (body : Body) : Server :=
  { server with
    statements := server.statements.insert name body
    unnamedBy := if name.isEmpty then some session else server.unnamedBy }

/-- Removes one statement. -/
def close (server : Server) (name : Text) : Server :=
  { server with
    statements := server.statements.erase name
    unnamedBy := if name.isEmpty then none else server.unnamedBy }

/-- A Parse that is rejected takes the unnamed statement along, if it is for that one. -/
def reject (server : Server) (name : Text) : Server :=
  { if name.isEmpty then server.close name else server with skipping := true }

/-- One frame of a session on the backend; the flag says that it was run without an error. -/
def execute (session : Nat) (server : Server) (message : FrontendMessage) (reply : Reply) :
    Server × Bool :=
  if message = .sync then ({ server with skipping := false }, true)
  else if server.skipping then (server, false)
  else
    match message with
    | .parse name query oids =>
      if reply.ok && (name.isEmpty || server.statements[name]?.isNone) then
        (server.accept session name ⟨query, oids⟩, true)
      else (server.reject name, false)
    | .bind name | .describe (.statement name) =>
      if reply.ok && server.statements[name]?.isSome then (server, true)
      else ({ server with skipping := true }, false)
    | .close (.statement name) =>
      if reply.ok then (server.close name, true)
      else ({ server with skipping := true }, false)
    -- the answer to a query ends with ReadyForQuery, so nothing is skipped after it
    | .query _ => (server.runQuery reply.deallocated, reply.ok)
    | _ => ({ server with skipping := !reply.ok }, reply.ok)

/-- The frames planned for one frame of the client, in order; the flag is that of the last. -/
def executeAll (session : Nat) : Server → List PlannedFrame → List Reply → Server × Bool
  | server, [], _ => (server, true)
  | server, [frame], replies => server.execute session frame.message (replies.headD {})
  | server, frame :: frames, replies =>
    executeAll session (server.execute session frame.message (replies.headD {})).1 frames
      replies.tail

end Server

/-! ### Clients -/

/-- A session with its catalog, what its client has last parsed with success under each name,
and the backend that took its last unnamed Parse. -/
structure Client where
  catalog : PreparedCatalog
  parsed : Std.ExtTreeMap Text Body := ∅
  unnamedAt : Option BackendId := none

/-- The client learns how its frame was answered. -/
def Client.answered (client : Client) (b : BackendId) (ok : Bool) : FrontendMessage → Client
  | .parse name query oids =>
    if ok then
      { client with
        parsed := client.parsed.insert name ⟨query, oids⟩
        unnamedAt := if name.isEmpty then some b else client.unnamedAt }
    else client
  | .close (.statement name) =>
    if ok then
      { client with
        parsed := client.parsed.erase name
        unnamedAt := if name.isEmpty then none else client.unnamedAt }
    else client
  | _ => client

/-- The statement a Bind or a Describe is about. -/
def usedStatement : FrontendMessage → Option Text
  | .bind name | .describe (.statement name) => some name
  | _ => none

/-- A Bind or Describe that reaches a backend without a Parse before it: whether the catalog knows
the name the client used, what the backend holds under the name the frame carries, and what the
client has last parsed with success under the name it used. -/
structure Use where
  known : Bool
  held : Option Body
  parsed : Option Body
  deriving DecidableEq

inductive Event where
  | sent (frame : PlannedFrame)
  | used (use : Use)
  deriving DecidableEq

/-- The use made by a frame of the client, if it is forwarded with no prelude. -/
def useOf (client : Client) (server : Server) (frame : FrontendMessage) :
    List PlannedFrame → List Event
  | [planned] =>
    match usedStatement frame, usedStatement planned.message with
    | some name, some carried =>
      [.used ⟨client.catalog.statements[name]?.isSome, server.statements[carried]?,
        client.parsed[name]?⟩]
    | _, _ => []
  | _ => []

/-! ### Sessions sharing backends -/

/-- The sessions, by number, with those that have ended as `none`, and all backends. -/
structure State where
  clients : List (Option Client) := []
  servers : BackendId → Server := fun _ => {}

namespace State

def client (st : State) (i : Nat) : Option Client := st.clients[i]?.join

/-- The client and the backend after a frame. -/
def put (st : State) (i : Nat) (client : Client) (b : BackendId) (server : Server) : State where
  clients := st.clients.set i (some client)
  servers := Function.update st.servers b server

/-- One frame of a client: planned, then run by the leased backend. -/
def forward (i : Nat) (b : BackendId) (st : State) (input : FrontendMessage × List Reply) :
    Option (State × List Event) :=
  match st.client i with
  | none => none
  | some client =>
    match prepareFrameForBackend b client.catalog input.1 with
    | none => none
    | some (catalog, planned) =>
      let executed := (st.servers b).executeAll i planned input.2
      some (st.put i (Client.answered { client with catalog } b executed.2 input.1) b executed.1,
        planned.map .sent ++ useOf client (st.servers b) input.1 planned)

/-- The frames of a cycle on the backend it is leased. -/
def forwarding (i : Nat) (b : BackendId) :
    EventMachine.Machine State (FrontendMessage × List Reply) Event := ⟨forward i b⟩

/-- The errors of a cycle invalidate what the catalog records. -/
def invalidate (st : State) (i : Nat) (b : BackendId) (errors : List SqlState) : State :=
  match st.client i with
  | none => st
  | some client =>
    let catalog := errors.foldl (fun c e => (c.invalidateForSqlstate e b).1) client.catalog
    { st with clients := st.clients.set i (some { client with catalog }) }

end State

namespace State

variable {st : State} {i : Nat} {c : Client}

theorem lt_length_of_client (h : st.client i = some c) : i < st.clients.length := by
  rw [client, Option.join_eq_some_iff] at h
  exact (List.getElem?_eq_some_iff.1 h).1

theorem client_set {clients : List (Option Client)} {servers : BackendId → Server}
    {new : Option Client} (j : Nat) (hi : i < clients.length) :
    (State.mk (clients.set i new) servers).client j =
      if j = i then new else (State.mk clients servers).client j := by
  simp only [client]
  by_cases hj : j = i
  · rw [hj, List.getElem?_set_self hi, if_pos rfl]
    rfl
  · rw [List.getElem?_set_ne (Ne.symm hj), if_neg hj]

theorem client_put (hc : st.client i = some c) (new : Client) (b : BackendId) (server : Server)
    (j : Nat) : (st.put i new b server).client j = if j = i then some new else st.client j :=
  client_set j (lt_length_of_client hc)

theorem servers_put (st : State) (i : Nat) (new : Client) (b : BackendId) (server : Server) :
    (st.put i new b server).servers = Function.update st.servers b server := rfl

/-- What one frame does, when it is planned. -/
theorem forward_eq_some {b : BackendId} {input : FrontendMessage × List Reply} {st' : State}
    {es : List Event} (h : forward i b st input = some (st', es)) :
    ∃ client catalog planned, st.client i = some client ∧
      prepareFrameForBackend b client.catalog input.1 = some (catalog, planned) ∧
      st' = st.put i (Client.answered { client with catalog } b
        ((st.servers b).executeAll i planned input.2).2 input.1) b
        ((st.servers b).executeAll i planned input.2).1 ∧
      es = planned.map .sent ++ useOf client (st.servers b) input.1 planned := by
  rw [forward] at h
  split at h
  · cases h
  · rename_i client hclient
    split at h
    · cases h
    · rename_i catalog planned hplanned
      cases h
      exact ⟨client, catalog, planned, hclient, hplanned, rfl, rfl⟩

end State

@[simp] theorem Client.answered_catalog (client : Client) (b : BackendId) (ok : Bool)
    (frame : FrontendMessage) : (client.answered b ok frame).catalog = client.catalog := by
  rw [Client.answered.eq_def]
  split
  · split <;> rfl
  · split <;> rfl
  · rfl

/-- What happens next, among all sessions and backends. -/
inductive Input where
  | arrive
  | leave (i : Nat)
  /-- A cycle of session `i` on backend `b`, with the answer to every planned frame; `errors` are
  the SQLSTATEs the relay acts on, none of them in the shared loop. -/
  | cycle (i : Nat) (b : BackendId) (frames : List (FrontendMessage × List Reply))
    (errors : List SqlState)
  /-- A query of the proxy itself, such as a rollback, a reset or a replayed setting. -/
  | query (b : BackendId) (deallocated : Deallocation)
  deriving DecidableEq

/-- One step of the whole system. -/
def step (st : State) : Input → Option (State × List Event)
  | .arrive =>
    some ({ st with
      clients := st.clients ++ [some { catalog := .new st.clients.length }] }, [])
  | .leave i => some ({ st with clients := st.clients.set i none }, [])
  | .cycle i b frames errors =>
    ((State.forwarding i b).run st frames).map fun r => (r.1.invalidate i b errors, r.2)
  | .query b deallocated =>
    let server := st.servers b
    some ({ st with
      servers := Function.update st.servers b
        (if server.skipping then server else server.runQuery deallocated) }, [])

/-- The sessions and backends as a machine. -/
def machine : EventMachine.Machine State Input Event := ⟨step⟩

end Statements

end PgKinetic
