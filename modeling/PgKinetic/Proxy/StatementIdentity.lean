import PgKinetic.Proxy.StatementFrames

/-!
# A statement means what its client parsed

When a Bind or Describe reaches a backend with no Parse in front of it, the backend resolves the
name the frame carries by itself. In every run whose steps keep the statements the catalogs rely
on, it resolves it to what the client has last parsed under the name it used.

The proxy enforces none of the conditions in `keeps`. It marks a statement as materialized while
it plans the Parse, before the backend has answered, and takes the unnamed statement to be
materialized everywhere. So a client's Bind can execute the text of another client, or find
nothing, and the last part of the module has a run for each.
-/

namespace PgKinetic

open List Option PreparedCatalog

namespace Statements

namespace State

variable {st : State} {i : Nat} {c : Client} {b : BackendId}

/-! ### One frame -/

variable {reply : Reply}

theorem Sound.put_parse (h : st.Sound) (hc : st.client i = some c) {name query : Text}
    {oids : List Int} (hok : ((st.servers b).execute i
      (.parse (c.catalog.newStatement name query oids).backendName query oids) reply).2 = true) :
    (st.put i (c.parse b name query oids) b ((st.servers b).execute i
      (.parse (c.catalog.newStatement name query oids).backendName query oids) reply).1).Sound := by
  have hmove := (st.servers b).move_execute i
    (.parse (c.catalog.newStatement name query oids).backendName query oids) reply
  generalize (st.servers b).execute i
    (.parse (c.catalog.newStatement name query oids).backendName query oids) reply = executed
    at hmove hok ⊢
  obtain ⟨server, ok⟩ := executed
  generalize hmessage : FrontendMessage.parse
    (c.catalog.newStatement name query oids).backendName query oids = message at hmove
  cases hmove with
  | idle _ _ hparse =>
    have hfalse : ok = false := hparse _ _ _ hmessage.symm
    rw [hfalse] at hok
    cases hok
  | accept hfree =>
    -- the new entry and the statement on the backend come into being together
    cases hmessage
    have hsound := h.client i c hc
    exact h.put hc (.parse hsound b name query oids) ((h.held i c hc b).parse hsound hfree)
      ((h.unnamed i c hc b).parse name query oids) (h.others_accept hfree _)
  | rejectUnnamed => cases hok
  | close | query => cases hmessage

theorem Sound.put_query (h : st.Sound) (hc : st.client i = some c) {sql : Text}
    (hspares : (st.servers b).skipping = true ∨ st.spares b reply.deallocated = true) :
    (st.put i c b ((st.servers b).execute i (.query sql) reply).1).Sound := by
  have hmove := (st.servers b).move_execute i (.query sql) reply
  generalize (st.servers b).execute i (.query sql) reply = executed at hmove ⊢
  obtain ⟨server, ok⟩ := executed
  cases hmove with
  | idle hstatements hby => exact h.put_idle hc hstatements hby
  | query hskipping =>
    have hspares := hspares.resolve_left (by rw [hskipping]; decide)
    have hsound := h.client i c hc
    exact h.put hc (.refl hsound b) ((h.held i c hc b).runQuery hc hsound hspares)
      (.runQuery c i b (st.servers b) reply.deallocated) (h.others_runQuery hspares)

/-- A frame that is none of the above is forwarded as it is and changes no statement. -/
theorem Sound.put_plain (h : st.Sound) (hc : st.client i = some c) {message : FrontendMessage}
    (hparse : ∀ name query oids, message ≠ .parse name query oids)
    (hclose : ∀ name, message ≠ .close (.statement name)) (hquery : ∀ sql, message ≠ .query sql) :
    (st.put i c b ((st.servers b).execute i message reply).1).Sound := by
  have hmove := (st.servers b).move_execute i message reply
  generalize (st.servers b).execute i message reply = executed at hmove ⊢
  obtain ⟨server, ok⟩ := executed
  cases hmove with
  | idle hstatements hby => exact h.put_idle hc hstatements hby
  | accept | rejectUnnamed => exact absurd rfl (hparse _ _ _)
  | close => exact absurd rfl (hclose _)
  | query => exact absurd rfl (hquery _)

end State

/-- A use finds what the client has last parsed, and a statement if the catalog has one. -/
def Use.Resolves (use : Use) : Prop :=
  use.held = use.parsed ∧ (use.known = true → use.held.isSome = true)

/-- The use an event reports, if any, resolves. -/
def Event.Resolves : Event → Prop
  | .sent _ => True
  | .used use => use.Resolves

namespace State

variable {st : State} {i : Nat} {c : Client} {b : BackendId}

variable {name : Text} {frame : FrontendMessage} {catalog : PreparedCatalog}
  {planned : List PlannedFrame}

/-- The backend and the client agree on a statement that is used without a prelude. -/
theorem Sound.held_eq_parsed (h : st.Sound) (hc : st.client i = some c) {carried : Text}
    (husable : usable i b c (st.servers b) name = true)
    (hcarried : (∃ s, c.catalog.statements[name]? = some s ∧
        c.catalog.isMaterialized b s = true ∧ carried = s.backendName) ∨
      c.catalog.statements[name]? = none ∧ carried = name) :
    (st.servers b).statements[carried]? = c.parsed[name]? := by
  have hsound := h.client i c hc
  by_cases hname : name = []
  · -- The unnamed statement is carried under the empty name, known or not.
    subst hname
    have hnil : carried = [] := by
      rcases hcarried with ⟨s, hs, -, rfl⟩ | ⟨-, rfl⟩
      · exact ((hsound.wellFormed.entry [] s hs).unnamed rfl).1
      · rfl
    simp only [usable, isEmpty_nil, if_true, Bool.and_eq_true, beq_iff_eq] at husable
    rw [hnil]
    exact h.unnamed i c hc b husable.1 husable.2
  · have hempty : name.isEmpty = false := by rwa [isEmpty_eq_false_iff]
    rw [hsound.parsed]
    rcases hcarried with ⟨s, hs, hmaterialized, rfl⟩ | ⟨hs, rfl⟩
    · have hkey : s.cacheKey ≠ 0 := by
        rw [ne_eq, hsound.wellFormed.keyed.cacheKey_eq_zero hs]
        exact hname
      have hmarks := marks_of_isMaterialized hmaterialized hkey
      rw [h.held i c hc b name s hs hname hmarks, hs]
      rfl
    · rw [usable, hempty, hs] at husable
      simp only [Bool.false_eq_true, if_false, isSome_none, Bool.false_or,
        isNone_iff_eq_none] at husable
      rw [husable, hs]
      rfl

theorem Sound.resolves (h : st.Sound) (hc : st.client i = some c) {held : Option Body}
    (hheld : held = c.parsed[name]?) :
    Use.Resolves ⟨c.catalog.statements[name]?.isSome, held, c.parsed[name]?⟩ := by
  refine ⟨hheld, fun hknown => ?_⟩
  rw [hheld, (h.client i c hc).parsed, isSome_map]
  exact hknown

theorem Sound.resolves_useOf (h : st.Sound) (hc : st.client i = some c)
    (hframe : usedStatement frame = some name)
    (hforwarded : Forwarded b c.catalog name catalog planned)
    (husable : usable i b c (st.servers b) name = true) :
    ∀ e ∈ useOf c (st.servers b) frame planned, e.Resolves := by
  intro e he
  cases hforwarded with
  | @known s message hs hmaterialized hmessage =>
    simp only [useOf, hframe, hmessage, mem_singleton] at he
    rw [he]
    exact h.resolves hc (h.held_eq_parsed hc husable (.inl ⟨s, hs, hmaterialized, rfl⟩))
  | prelude => cases he
  | unknown hs hmessage =>
    simp only [useOf, hframe, hmessage, mem_singleton] at he
    rw [he]
    exact h.resolves hc (h.held_eq_parsed hc husable (.inr ⟨hs, rfl⟩))

theorem execute_close {server : Server} {reply : Reply}
    (hok : (server.execute i (.close (.statement name)) reply).2 = true) :
    (server.execute i (.close (.statement name)) reply).1 = server.close name := by
  have hmove := server.move_execute i (.close (.statement name)) reply
  generalize server.execute i (.close (.statement name)) reply = executed at hmove hok ⊢
  obtain ⟨server', ok⟩ := executed
  cases hmove with
  | idle _ _ _ hclose =>
    have hfalse : ok = false := hclose name rfl
    rw [hfalse] at hok
    cases hok
  | close => rfl

variable {replies : List Reply} {es : List Event} {st' : State}

/-- A Close of the client, by whether the catalog knows the name. -/
theorem Sound.put_close_frame (h : st.Sound) (hc : st.client i = some c)
    (hplanned : prepareFrameForBackend b c.catalog (.close (.statement name)) =
      some (catalog, planned)) (hok : ((st.servers b).executeAll i planned replies).2 = true)
    (hname : (c.catalog.statements[name]?.isSome || !(st.markedNames b).contains name) = true) :
    (st.put i (c.close b catalog name) b
      ((st.servers b).executeAll i planned replies).1).Sound := by
  rw [prepareFrameForBackend] at hplanned
  split at hplanned
  · rename_i s catalog' hremove
    cases hplanned
    rw [Server.executeAll] at hok ⊢
    rw [execute_close hok]
    exact h.put_close_known hc hremove
  · rename_i hremove
    cases hplanned
    have hs : c.catalog.statements[name]? = none := by rwa [remove, map_eq_none_iff] at hremove
    rw [hs, isSome_none, Bool.false_or, Bool.not_eq_true', contains_eq_mem,
      decide_eq_false_iff_not] at hname
    rw [Server.executeAll] at hok ⊢
    rw [execute_close hok]
    exact h.put_close_unknown hc hs hname

theorem frame_of_usedStatement (h : usedStatement frame = some name) :
    frame = .bind name ∨ frame = .describe (.statement name) := by
  rw [usedStatement.eq_def] at h
  split at h
  · exact .inl (congrArg _ (some.inj h))
  · exact .inr (congrArg _ (congrArg _ (some.inj h)))
  · cases h

/-- A frame that uses no statement keeps the invariant. -/
theorem Sound.put_unused (h : st.Sound) (hc : st.client i = some c)
    (hframe : usedStatement frame = none)
    (hplanned : prepareFrameForBackend b c.catalog frame = some (catalog, planned))
    (hkept : st.frameKept i b (frame, replies) = true) :
    (st.put i (Client.answered { c with catalog } b
      ((st.servers b).executeAll i planned replies).2 frame) b
      ((st.servers b).executeAll i planned replies).1).Sound := by
  simp only [frameKept, hc, hplanned] at hkept
  cases frame with
  | parse name query oids =>
    cases hplanned
    dsimp only [Server.executeAll] at hkept ⊢
    rw [hkept]
    exact h.put_parse hc hkept
  | bind name => cases hframe
  | describe target =>
    cases target with
    | statement name => cases hframe
    | _ =>
      cases hplanned
      exact h.put_plain hc (fun _ _ _ => nofun) (fun _ => nofun) (fun _ => nofun)
  | close target =>
    cases target with
    | statement name =>
      rw [Bool.and_eq_true] at hkept
      rw [hkept.1]
      exact h.put_close_frame hc hplanned hkept.1 hkept.2
    | _ =>
      cases hplanned
      exact h.put_plain hc (fun _ _ _ => nofun) (fun _ => nofun) (fun _ => nofun)
  | query sql =>
    cases hplanned
    rw [Bool.or_eq_true] at hkept
    exact h.put_query hc hkept
  | malformed tag =>
    cases tag <;> cases hplanned <;>
      exact h.put_plain hc (fun _ _ _ => nofun) (fun _ => nofun) (fun _ => nofun)
  | _ =>
    cases hplanned
    exact h.put_plain hc (fun _ _ _ => nofun) (fun _ => nofun) (fun _ => nofun)

/-- **One frame keeps the invariant**, and what it uses resolves. -/
theorem Sound.forward {input : FrontendMessage × List Reply} (h : st.Sound)
    (hkept : st.frameKept i b input = true) (hstep : st.forward i b input = some (st', es)) :
    st'.Sound ∧ ∀ e ∈ es, e.Resolves := by
  obtain ⟨c, catalog, planned, hc, hplanned, rfl, rfl⟩ := forward_eq_some hstep
  obtain ⟨frame, replies⟩ := input
  have hevents : (∀ e ∈ useOf c (st.servers b) frame planned, e.Resolves) →
      ∀ e ∈ planned.map Event.sent ++ useOf c (st.servers b) frame planned, e.Resolves := by
    intro huses e he
    rcases mem_append.1 he with he | he
    · obtain ⟨frame, -, rfl⟩ := List.mem_map.1 he
      trivial
    · exact huses e he
  cases hframe : usedStatement frame with
  | none =>
    refine ⟨h.put_unused hc hframe hplanned hkept, hevents fun e he => ?_⟩
    rw [useOf.eq_def, hframe] at he
    split at he <;> cases he
  | some name =>
    have hforwarded := forwarded_of_use (h.client i c hc).wellFormed hframe hplanned
    have hkept : preludeKept i (st.servers b) replies planned = true ∧
        usable i b c (st.servers b) name = true := by
      rcases frame_of_usedStatement hframe with rfl | rfl
      all_goals
        simp only [frameKept, hc, hplanned, Bool.and_eq_true] at hkept
        exact hkept
    have hanswered : ∀ ok, Client.answered { c with catalog } b ok frame = { c with catalog } := by
      rcases frame_of_usedStatement hframe with rfl | rfl <;> exact fun _ => rfl
    rw [hanswered]
    exact ⟨h.put_forwarded hc hforwarded hkept.1,
      hevents (h.resolves_useOf hc hframe hforwarded hkept.2)⟩

/-! ### Whole runs -/

/-- Every frame of a cycle keeps the invariant. -/
theorem Sound.run {frames : List (FrontendMessage × List Reply)} (h : st.Sound)
    (hkept : (forwarding i b).Meets (fun st frame => st.frameKept i b frame = true) st frames)
    (hrun : (forwarding i b).run st frames = some (st', es)) : st'.Sound ∧ ∀ e ∈ es, e.Resolves :=
  (forwarding i b).invariant_of_step (fun _ _ _ _ h hkept hstep => h.forward hkept hstep) h hrun
    hkept

/-- Forgetting marks relies on less. -/
theorem Sound.set_forgets (h : st.Sound) (hc : st.client i = some c)
    (hforgets : c.catalog.Forgets catalog) :
    Sound { st with clients := st.clients.set i (some { c with catalog }) } := by
  have hlt := lt_length_of_client hc
  refine ⟨fun j d hj => ?_, fun j d hj b => ?_, fun j d hj b => ?_⟩
  all_goals
    rw [client_set j hlt] at hj
    split at hj
  · rename_i heq
    cases hj
    have hsound := h.client i c hc
    rw [heq]
    refine ⟨hforgets.sessionId.trans hsound.sessionId, hsound.wellFormed.forgets hforgets,
      fun name => ?_⟩
    rw [hforgets.statements]
    exact hsound.parsed name
  · exact h.client j d hj
  · cases hj
    intro name s hs hname hmarks
    rw [hforgets.statements] at hs
    exact h.held i c hc b name s hs hname (hforgets.marks b _ hmarks)
  · exact h.held j d hj b
  · rename_i heq
    cases hj
    rw [heq]
    exact h.unnamed i c hc b
  · exact h.unnamed j d hj b

theorem forgets_foldl_invalidate (catalog : PreparedCatalog) (b : BackendId)
    (errors : List SqlState) :
    catalog.Forgets (errors.foldl (fun c e => (c.invalidateForSqlstate e b).1) catalog) := by
  induction errors generalizing catalog with
  | nil => exact .refl catalog
  | cons e errors ih => exact (catalog.forgets_invalidateForSqlstate e b).trans (ih _)

theorem Sound.invalidate (h : st.Sound) (i : Nat) (b : BackendId) (errors : List SqlState) :
    (st.invalidate i b errors).Sound := by
  rw [State.invalidate]
  split
  · exact h
  · rename_i c hc
    exact h.set_forgets hc (forgets_foldl_invalidate c.catalog b errors)

/-- A new session has a number of its own and relies on nothing. -/
theorem Sound.arrive (h : st.Sound) :
    Sound { st with clients := st.clients ++ [some { catalog := .new st.clients.length }] } := by
  have hclient : ∀ j d, (State.mk (st.clients ++ [some { catalog := .new st.clients.length }])
      st.servers).client j = some d →
      st.client j = some d ∨ j = st.clients.length ∧ d = { catalog := .new st.clients.length } := by
    intro j d hj
    simp only [State.client, join_eq_some_iff, getElem?_append] at hj ⊢
    split at hj
    · exact .inl hj
    -- sessions are numbered in the order they arrive
    · right
      obtain ⟨hlt, heq⟩ := List.getElem?_eq_some_iff.1 hj
      rw [length_singleton] at hlt
      rw [getElem_singleton] at heq
      exact ⟨by omega, (some.inj heq).symm⟩
  refine ⟨fun j d hj => ?_, fun j d hj b => ?_, fun j d hj b => ?_⟩
  · rcases hclient j d hj with hj | ⟨rfl, rfl⟩
    · exact h.client j d hj
    · exact ⟨rfl, wellFormed_new _, fun name => by simp [new]⟩
  · rcases hclient j d hj with hj | ⟨rfl, rfl⟩
    · exact h.held j d hj b
    · intro name s hs
      simp [new] at hs
  · rcases hclient j d hj with hj | ⟨rfl, rfl⟩
    · exact h.unnamed j d hj b
    · intro hat
      cases hat

theorem Sound.leave (h : st.Sound) (i : Nat) :
    Sound { st with clients := st.clients.set i none } := by
  have hclient : ∀ j d, (State.mk (st.clients.set i none) st.servers).client j = some d →
      st.client j = some d := by
    intro j d hj
    by_cases hlt : i < st.clients.length
    · rw [client_set j hlt] at hj
      split at hj
      · cases hj
      · exact hj
    · rwa [set_eq_of_length_le (by omega)] at hj
  exact ⟨fun j d hj => h.client j d (hclient j d hj), fun j d hj => h.held j d (hclient j d hj),
    fun j d hj => h.unnamed j d (hclient j d hj)⟩

/-- A query of the proxy itself. -/
theorem Sound.query (h : st.Sound) {deallocated : Deallocation}
    (hspares : st.spares b deallocated = true) :
    Sound { st with
      servers := Function.update st.servers b ((st.servers b).runQuery deallocated) } := by
  refine ⟨h.client, fun j d hj b' => ?_, fun j d hj b' => ?_⟩
  all_goals
    dsimp only
    by_cases hb : b' = b
  · rw [hb, Function.update_self]
    exact (h.held j d hj b).runQuery hj (h.client j d hj) hspares
  · rw [Function.update_of_ne hb]
    exact h.held j d hj b'
  · rw [hb, Function.update_self]
    exact .runQuery d j b (st.servers b) deallocated
  · rw [Function.update_of_ne hb]
    exact h.unnamed j d hj b'

end State

/-- **The step lemma.** -/
theorem sound_step {st st' : State} {input : Input} {es : List Event} (h : st.Sound)
    (hkeeps : keeps st input) (hstep : step st input = some (st', es)) :
    st'.Sound ∧ ∀ e ∈ es, e.Resolves := by
  cases input with
  | arrive =>
    cases hstep
    exact ⟨h.arrive, fun _ he => by cases he⟩
  | leave i =>
    cases hstep
    exact ⟨h.leave i, fun _ he => by cases he⟩
  | cycle i b frames errors =>
    obtain ⟨⟨mid, es⟩, hrun, heq⟩ := map_eq_some_iff.1 hstep
    cases heq
    obtain ⟨hmid, hes⟩ := h.run hkeeps hrun
    exact ⟨hmid.invalidate i b errors, hes⟩
  | query b deallocated =>
    cases hstep
    refine ⟨?_, fun _ he => by cases he⟩
    split
    -- a backend that skips frames runs no query either
    · rw [Function.update_eq_self]
      exact h
    · rename_i hskipping
      exact h.query (hkeeps.resolve_left hskipping)

theorem sound_initial : State.Sound {} :=
  ⟨fun i c hi => by simp [State.client] at hi, fun i c hi => by simp [State.client] at hi,
    fun i c hi => by simp [State.client] at hi⟩

/-- **A statement means what its client parsed**, in every run of any sessions over any backends
whose steps keep the statements the catalogs rely on. -/
theorem resolves_of_keeps {inputs : List Input} {st : State} {es : List Event}
    (hrun : machine.run {} inputs = some (st, es)) (hkeeps : machine.Meets keeps {} inputs) :
    ∀ use, .used use ∈ es → use.Resolves := by
  have hes := (machine.invariant_of_step (fun _ _ _ _ h hkeeps hstep => sound_step h hkeeps hstep)
    sound_initial hrun hkeeps).2
  intro use huse
  exact hes (.used use) huse

/-- Two sessions on one backend, each with a named statement, one of them moving on to a second
backend, where its Parse is injected, and closing the statement there. -/
def namedAcrossBackends : List Input :=
  [.arrive, .arrive,
    .cycle 0 1 [(.parse "s" "SELECT 1" [23], []), (.bind "s", []), (.execute, []), (.sync, [])] [],
    .cycle 1 1 [(.parse "s" "SELECT 2" [], []), (.parse [] "SELECT 3" [], []), (.bind [], []),
      (.sync, [])] [],
    .query 1 (.named []),
    .cycle 0 2 [(.describe (.statement "s"), []), (.bind "s", []), (.sync, [])] [],
    .cycle 0 2 [(.close (.statement "s"), []), (.sync, [])] []]

/-- The hypotheses of the result can be met by a run with uses in it. -/
theorem resolves_namedAcrossBackends :
    ∃ st es, machine.run {} namedAcrossBackends = some (st, es) ∧
      .used ⟨true, some ⟨"SELECT 1", [23]⟩, some ⟨"SELECT 1", [23]⟩⟩ ∈ es ∧
      ∀ use, .used use ∈ es → use.Resolves := by
  have hsome : (machine.run {} namedAcrossBackends).isSome = true := by decide +kernel
  obtain ⟨⟨st, es⟩, hrun⟩ := isSome_iff_exists.1 hsome
  have hmem : ∀ r ∈ machine.run {} namedAcrossBackends,
      Event.used ⟨true, some ⟨"SELECT 1", [23]⟩, some ⟨"SELECT 1", [23]⟩⟩ ∈ r.2 := by decide +kernel
  exact ⟨st, es, hrun, hmem _ hrun, resolves_of_keeps hrun (by decide +kernel)⟩

/-- **A Bind finds another statement, or none.** Two sessions take turns on a backend, each with an
unnamed statement; the first binds its own in a later cycle, no Parse is injected, and the backend
resolves the name to the second one's. In the other run the backend rejects a Parse; the statement
counts as materialized all the same, and the Bind in the next cycle goes out alone under a name
the backend does not hold. -/
theorem bind_finds_another_statement :
    (machine.run {}
      [.arrive, .arrive,
        .cycle 0 1 [(.parse [] "SELECT 1" [], []), (.sync, [])] [],
        .cycle 1 1 [(.parse [] "SELECT 2" [], []), (.sync, [])] [],
        .cycle 0 1 [(.bind [], []), (.execute, []), (.sync, [])] []]).map
      (fun r => r.2.contains (.used ⟨true, some ⟨"SELECT 2", []⟩, some ⟨"SELECT 1", []⟩⟩)) =
      some true ∧
    (machine.run {}
      [.arrive,
        .cycle 0 1 [(.parse "s" "SELEC 1" [], [{ ok := false }]), (.sync, [])] [],
        .cycle 0 1 [(.bind "s", []), (.execute, []), (.sync, [])] []]).map
      (fun r => r.2.contains (.used ⟨true, none, none⟩)) = some true := by
  decide +kernel

end Statements

end PgKinetic
