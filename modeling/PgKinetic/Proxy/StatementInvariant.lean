import PgKinetic.Proxy.StatementMoves

/-!
# Marked statements are on their backends

The invariant of sessions that share backends is `State.Sound`: a marked statement is on the
backend it is marked for, under its backend name and with the text the catalog has for it, and
that is the text its client has last parsed. No step of the proxy guarantees it by itself, so a
run keeps it only as long as its steps **keep** the statements the catalogs rely on (`keeps`):

* the backend runs every Parse and Close of a client, and an injected Parse unless it holds that
  very statement already;
* the unnamed statement is used only on the backend that took the client's last unnamed Parse,
  and before anything else replaces it there;
* no query and no Close under a raw name removes a statement a catalog marks;
* a name the catalog does not know is not the name of a statement on the backend.

`State.Sound.put` is the rule for one frame: it lists what has to be shown of the client and the
backend the frame is about, and of all the others.
-/

namespace PgKinetic

open List

namespace Statements

/-! ### The condition on a step -/

namespace State

/-- The backend names the catalogs mark as materialized on the backend. -/
def markedNames (st : State) (b : BackendId) : List Text :=
  st.clients.flatMap fun client =>
    match client with
    | none => []
    | some client =>
      (client.catalog.statements.toList.filter fun entry =>
        !entry.1.isEmpty && client.catalog.marks b entry.2.cacheKey).map (·.2.backendName)

/-- No marked statement is removed. -/
def spares (st : State) (b : BackendId) (deallocated : Deallocation) : Bool :=
  (st.markedNames b).all fun name => !deallocated.removes name

/-- The backend runs the injected Parse, or holds that statement already. -/
def preludeKept (i : Nat) (server : Server) (replies : List Reply) : List PlannedFrame → Bool
  | [⟨.parse name query oids, true⟩, _] =>
    (server.execute i (.parse name query oids) (replies.headD {})).2 ||
      server.statements[name]? == some ⟨query, oids⟩
  | _ => true

/-- A use of the unnamed statement comes while it is the client's own on this backend; a name
the catalog does not know is not on the backend. -/
def usable (i : Nat) (b : BackendId) (client : Client) (server : Server) (name : Text) : Bool :=
  if name.isEmpty then client.unnamedAt == some b && server.unnamedBy == some i
  else client.catalog.statements[name]?.isSome || server.statements[name]?.isNone

/-- The frame keeps the statements the catalogs rely on. -/
def frameKept (i : Nat) (b : BackendId) (st : State) (input : FrontendMessage × List Reply) :
    Bool :=
  match st.client i with
  | none => true
  | some client =>
    match prepareFrameForBackend b client.catalog input.1 with
    | none => true
    | some (_, planned) =>
      let server := st.servers b
      let ok := (server.executeAll i planned input.2).2
      match input.1 with
      | .parse .. => ok
      | .bind name | .describe (.statement name) =>
        preludeKept i server input.2 planned && usable i b client server name
      | .close (.statement name) =>
        ok && (client.catalog.statements[name]?.isSome || !(st.markedNames b).contains name)
      | .query _ => server.skipping || st.spares b (input.2.headD {}).deallocated
      | _ => true

end State

/-- The condition on a step, on the state before it and its input. -/
def keeps (st : State) : Input → Prop
  | .arrive | .leave _ => True
  | .cycle i b frames _ =>
    (State.forwarding i b).Meets (fun st frame => st.frameKept i b frame = true) st frames
  | .query b deallocated => (st.servers b).skipping = true ∨ st.spares b deallocated = true

instance (st : State) : (input : Input) → Decidable (keeps st input)
  | .arrive | .leave _ => .isTrue trivial
  | .cycle i b frames _ =>
    inferInstanceAs (Decidable ((State.forwarding i b).Meets
      (fun st frame => State.frameKept i b st frame = true) st frames))
  | .query b deallocated =>
    inferInstanceAs (Decidable ((st.servers b).skipping = true ∨ st.spares b deallocated = true))

/-! ### The invariant -/

/-- The text and the parameter types of an entry. -/
def entryBody (s : PreparedStatement) : Body := ⟨s.query, s.parameterTypeOids⟩

/-- The catalog of a session agrees with what its client has parsed. -/
structure Client.Sound (i : Nat) (c : Client) : Prop where
  sessionId : c.catalog.sessionId = i
  wellFormed : c.catalog.WellFormed
  parsed : ∀ name : Text, c.parsed[name]? = c.catalog.statements[name]?.map entryBody

/-- The backend holds the named statements the catalog marks for it. -/
def Client.HeldBy (c : Client) (b : BackendId) (server : Server) : Prop :=
  ∀ (name : Text) (s : PreparedStatement), c.catalog.statements[name]? = some s → name ≠ [] →
    c.catalog.marks b s.cacheKey = true →
    server.statements[s.backendName]? = some (entryBody s)

/-- While the unnamed statement of a backend is the client's last one, it is what the client
parsed. -/
def Client.UnnamedBy (i : Nat) (c : Client) (b : BackendId) (server : Server) : Prop :=
  c.unnamedAt = some b → server.unnamedBy = some i →
    server.statements[([] : Text)]? = c.parsed[([] : Text)]?

/-- **The invariant** of all sessions and backends. -/
structure State.Sound (st : State) : Prop where
  client : ∀ i c, st.client i = some c → c.Sound i
  held : ∀ i c, st.client i = some c → ∀ b, c.HeldBy b (st.servers b)
  unnamed : ∀ i c, st.client i = some c → ∀ b, c.UnnamedBy i b (st.servers b)

namespace State

variable {st : State} {i : Nat} {c : Client} {b : BackendId}

variable {name : Text}

theorem backendName_mem_markedNames (hc : st.client i = some c) {s : PreparedStatement}
    (hs : c.catalog.statements[name]? = some s) (hname : name ≠ [])
    (hmarks : c.catalog.marks b s.cacheKey = true) : s.backendName ∈ st.markedNames b := by
  rw [client, Option.join_eq_some_iff] at hc
  refine mem_flatMap.2 ⟨some c, mem_of_getElem? hc, ?_⟩
  refine mem_map.2 ⟨(name, s), mem_filter.2 ⟨?_, ?_⟩, rfl⟩
  · exact Std.ExtTreeMap.mem_toList_iff_getElem?_eq_some.2 hs
  · have hempty : name.isEmpty = false := by rwa [isEmpty_eq_false_iff]
    rw [hempty, hmarks]
    rfl

theorem removes_of_spares {deallocated : Deallocation} (h : st.spares b deallocated = true)
    (hname : name ∈ st.markedNames b) : deallocated.removes name = false := by
  have h := all_eq_true.1 h name hname
  rwa [Bool.not_eq_true'] at h

end State

namespace Client

variable {c : Client} {i j : Nat} {b : BackendId} {server : Server}

variable {name : Text} {s : PreparedStatement} {server' : Server}

theorem Sound.backendName_eq (hc : c.Sound i) (hs : c.catalog.statements[name]? = some s)
    (hname : name ≠ []) : s.backendName = backendStatementName i s.cacheKey := by
  rw [← hc.sessionId]
  exact ((hc.wellFormed.entry name s hs).named hname).1

theorem Sound.backendName_ne_nil (hc : c.Sound i) (hs : c.catalog.statements[name]? = some s)
    (hname : name ≠ []) : s.backendName ≠ [] := by
  rw [hc.backendName_eq hs hname]
  exact backendStatementName_ne_nil i s.cacheKey

theorem HeldBy.congr (h : c.HeldBy b server)
    (hstatements : server'.statements = server.statements) : c.HeldBy b server' := by
  intro name s hs hname hmarks
  rw [hstatements]
  exact h name s hs hname hmarks

/-- An accepted Parse takes a free name, so nothing marked is overwritten. -/
theorem HeldBy.accept (h : c.HeldBy b server) (hc : c.Sound i)
    (hfree : name = [] ∨ server.statements[name]? = none) (body : Body) :
    c.HeldBy b (server.accept j name body) := by
  intro other s hs hother hmarks
  have hheld := h other s hs hother hmarks
  have hne : name ≠ s.backendName := by
    intro heq
    rcases hfree with hfree | hfree
    · exact hc.backendName_ne_nil hs hother (heq.symm.trans hfree)
    · rw [heq, hheld] at hfree
      cases hfree
  rw [Server.getElem?_accept, if_neg hne, hheld]

theorem HeldBy.close (h : c.HeldBy b server)
    (hname : ∀ (other : Text) (s : PreparedStatement), c.catalog.statements[other]? = some s →
      other ≠ [] → c.catalog.marks b s.cacheKey = true → name ≠ s.backendName) :
    c.HeldBy b (server.close name) := by
  intro other s hs hother hmarks
  rw [Server.getElem?_close, if_neg (hname other s hs hother hmarks)]
  exact h other s hs hother hmarks

theorem HeldBy.runQuery {st : State} (h : c.HeldBy b server) (hc : st.client i = some c)
    (hsound : c.Sound i) {deallocated : Deallocation} (hspares : st.spares b deallocated = true) :
    c.HeldBy b (server.runQuery deallocated) := by
  intro name s hs hname hmarks
  have hmem := State.backendName_mem_markedNames hc hs hname hmarks
  rw [Server.getElem?_runQuery (hsound.backendName_ne_nil hs hname)
    (State.removes_of_spares hspares hmem)]
  exact h name s hs hname hmarks

theorem UnnamedBy.congr (h : c.UnnamedBy i b server)
    (hstatements : server'.statements = server.statements)
    (hby : server'.unnamedBy = server.unnamedBy) : c.UnnamedBy i b server' := by
  rw [UnnamedBy, hstatements, hby]
  exact h

/-- The Parse of another session, or one under a name, leaves the client's unnamed statement or
takes it over. -/
theorem UnnamedBy.accept (h : c.UnnamedBy i b server) (hne : j ≠ i ∨ name ≠ []) (body : Body) :
    c.UnnamedBy i b (server.accept j name body) := by
  intro hat hby
  rw [Server.accept] at hby
  split at hby
  · rename_i hname
    rw [List.isEmpty_iff] at hname
    -- now the unnamed statement is that of session `j`
    rcases hne with hne | hne
    · exact absurd (Option.some.inj hby) hne
    · exact absurd hname hne
  · rename_i hname
    rw [List.isEmpty_iff] at hname
    rw [Server.getElem?_accept, if_neg hname]
    exact h hat hby

theorem UnnamedBy.close (h : c.UnnamedBy i b server) (name : Text) :
    c.UnnamedBy i b (server.close name) := by
  intro hat hby
  rw [Server.close] at hby
  split at hby
  · cases hby
  · rename_i hname
    rw [List.isEmpty_iff] at hname
    rw [Server.getElem?_close, if_neg hname]
    exact h hat hby

theorem UnnamedBy.runQuery (c : Client) (i : Nat) (b : BackendId) (server : Server)
    (deallocated : Deallocation) : c.UnnamedBy i b (server.runQuery deallocated) :=
  fun _ hby => by cases hby

/-- A change of client `i` while it is served by backend `b`: as far as the other backends are
concerned nothing new is relied on. -/
structure Moves (i : Nat) (b : BackendId) (c c' : Client) : Prop where
  sound : c'.Sound i
  held : ∀ b' server, b' ≠ b → c.HeldBy b' server → c'.HeldBy b' server
  unnamed : ∀ b', b' ≠ b → c'.unnamedAt = some b' →
    c.unnamedAt = some b' ∧ c'.parsed[([] : Text)]? = c.parsed[([] : Text)]?

theorem Moves.refl (hc : c.Sound i) (b : BackendId) : c.Moves i b c :=
  ⟨hc, fun _ _ _ h => h, fun _ _ h => ⟨h, rfl⟩⟩

end Client

namespace State

variable {st : State} {i : Nat} {c c' : Client} {b : BackendId} {server : Server}

/-- The other clients, with another server in the place of `b`. -/
def OthersSound (st : State) (i : Nat) (b : BackendId) (server : Server) : Prop :=
  ∀ j c, j ≠ i → st.client j = some c → c.HeldBy b server ∧ c.UnnamedBy j b server

/-- **Client and backend change together.** -/
theorem Sound.put (h : st.Sound) (hc : st.client i = some c) (hmoves : c.Moves i b c')
    (hheld : c'.HeldBy b server) (hunnamed : c'.UnnamedBy i b server)
    (hothers : st.OthersSound i b server) : (st.put i c' b server).Sound := by
  have hserver : ∀ b', b' ≠ b → (st.put i c' b server).servers b' = st.servers b' :=
    fun b' hb => by rw [servers_put, Function.update_of_ne hb]
  have hserverSelf : (st.put i c' b server).servers b = server := by
    rw [servers_put, Function.update_self]
  refine ⟨fun j d hj => ?_, fun j d hj b' => ?_, fun j d hj b' => ?_⟩
  all_goals
    rw [client_put hc] at hj
    split at hj
  · rename_i heq
    cases hj
    rw [heq]
    exact hmoves.sound
  · exact h.client j d hj
  -- client `i`: on `b` by hypothesis, elsewhere because it relies on nothing new
  · cases hj
    by_cases hb : b' = b
    · rw [hb, hserverSelf]
      exact hheld
    · rw [hserver b' hb]
      exact hmoves.held b' _ hb (h.held i c hc b')
  -- the others: only their statements on `b` can have changed
  · rename_i hne
    by_cases hb : b' = b
    · rw [hb, hserverSelf]
      exact (hothers j d hne hj).1
    · rw [hserver b' hb]
      exact h.held j d hj b'
  · rename_i heq
    cases hj
    rw [heq]
    by_cases hb : b' = b
    · rw [hb, hserverSelf]
      exact hunnamed
    · rw [hserver b' hb]
      intro hat hby
      obtain ⟨hat, hparsed⟩ := hmoves.unnamed b' hb hat
      rw [hparsed]
      exact h.unnamed i c hc b' hat hby
  · rename_i hne
    by_cases hb : b' = b
    · rw [hb, hserverSelf]
      exact (hothers j d hne hj).2
    · rw [hserver b' hb]
      exact h.unnamed j d hj b'

theorem Sound.others_congr (h : st.Sound) (hstatements : server.statements =
    (st.servers b).statements) (hby : server.unnamedBy = (st.servers b).unnamedBy) :
    st.OthersSound i b server :=
  fun j c _ hj => ⟨(h.held j c hj b).congr hstatements, (h.unnamed j c hj b).congr hstatements hby⟩

theorem Sound.others_accept (h : st.Sound) {name : Text}
    (hfree : name = [] ∨ (st.servers b).statements[name]? = none) (body : Body) :
    st.OthersSound i b ((st.servers b).accept i name body) :=
  fun j c hne hj => ⟨(h.held j c hj b).accept (h.client j c hj) hfree body,
    (h.unnamed j c hj b).accept (.inl (Ne.symm hne)) body⟩

theorem Sound.others_runQuery (h : st.Sound) {deallocated : Deallocation}
    (hspares : st.spares b deallocated = true) :
    st.OthersSound i b ((st.servers b).runQuery deallocated) :=
  fun j c _ hj => ⟨(h.held j c hj b).runQuery hj (h.client j c hj) hspares,
    .runQuery c j b (st.servers b) deallocated⟩

/-- Nothing of the client changes, and no statement of the backend. -/
theorem Sound.put_idle (h : st.Sound) (hc : st.client i = some c)
    (hstatements : server.statements = (st.servers b).statements)
    (hby : server.unnamedBy = (st.servers b).unnamedBy) : (st.put i c b server).Sound :=
  h.put hc (.refl (h.client i c hc) b) ((h.held i c hc b).congr hstatements)
    ((h.unnamed i c hc b).congr hstatements hby) (h.others_congr hstatements hby)

end State

end Statements

end PgKinetic
