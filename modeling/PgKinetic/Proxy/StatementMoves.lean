import PgKinetic.Proxy.BackendStatements

/-!
# What frames do to prepared statements

Two case analyses that the rest of the development reads everything off: `Server.Move`, the ways
a frame can change the statements of a backend, and `Forwarded`, the three ways a Bind or Describe
is forwarded. A statement the catalog knows goes out under its backend name, with its Parse in
front unless it is marked; a name the catalog does not know goes out as it is.
-/

namespace PgKinetic

namespace Statements

/-! ### What a backend does with a frame -/

namespace Server

variable {server : Server}

@[simp] theorem getElem?_accept (server : Server) (session : Nat) (name : Text) (body : Body)
    (other : Text) :
    (server.accept session name body).statements[other]? =
      if name = other then some body else server.statements[other]? := by
  rw [accept, Std.ExtTreeMap.getElem?_insert]
  simp only [Std.compare_eq_iff_eq]

@[simp] theorem getElem?_close (server : Server) (name other : Text) :
    (server.close name).statements[other]? =
      if name = other then none else server.statements[other]? := by
  rw [close, Std.ExtTreeMap.getElem?_erase]
  simp only [Std.compare_eq_iff_eq]

variable {name : Text}

/-- A query leaves a named statement it does not deallocate. -/
theorem getElem?_runQuery {deallocated : Deallocation} (hname : name ≠ [])
    (h : deallocated.removes name = false) :
    (server.runQuery deallocated).statements[name]? = server.statements[name]? := by
  have hempty : name.isEmpty = false := by rwa [List.isEmpty_eq_false_iff]
  rw [runQuery, Std.ExtTreeMap.getElem?_filter', hempty, h]
  cases server.statements[name]? <;> rfl

/-- The ways a frame can change the statements of a backend. -/
inductive Move (session : Nat) (server : Server) :
    FrontendMessage → Reply → Server → Bool → Prop
  /-- No statement changes; a Parse or a Close has not been run. -/
  | idle {message : FrontendMessage} {reply : Reply} {server' : Server} {ok : Bool}
    (hstatements : server'.statements = server.statements)
    (hby : server'.unnamedBy = server.unnamedBy)
    (hparse : ∀ name query oids, message = .parse name query oids → ok = false)
    (hclose : ∀ name, message = .close (.statement name) → ok = false) :
    Move session server message reply server' ok
  | accept {name query : Text} {oids : List Int} {reply : Reply}
    (hfree : name = [] ∨ server.statements[name]? = none) :
    Move session server (.parse name query oids) reply
      (server.accept session name ⟨query, oids⟩) true
  | rejectUnnamed {query : Text} {oids : List Int} {reply : Reply} :
    Move session server (.parse [] query oids) reply
      { server.close [] with skipping := true } false
  | close {name : Text} {reply : Reply} :
    Move session server (.close (.statement name)) reply (server.close name) true
  | query {sql : Text} {reply : Reply} (hskipping : server.skipping = false) :
    Move session server (.query sql) reply (server.runQuery reply.deallocated) reply.ok

theorem move_execute (session : Nat) (server : Server) (message : FrontendMessage)
    (reply : Reply) :
    Move session server message reply (server.execute session message reply).1
      (server.execute session message reply).2 := by
  have hidle : ∀ {message : FrontendMessage} (skipping ok : Bool),
      (∀ name query oids, message ≠ .parse name query oids) →
      (∀ name, message ≠ .close (.statement name)) →
      Move session server message reply { server with skipping } ok :=
    fun _ _ hparse hclose => .idle rfl rfl (fun _ _ _ h => absurd h (hparse _ _ _))
      (fun _ h => absurd h (hclose _))
  by_cases hsync : message = .sync
  · subst hsync
    exact hidle false true (fun _ _ _ => nofun) (fun _ => nofun)
  rw [execute.eq_def, if_neg hsync]
  by_cases hskipping : server.skipping = true
  · rw [if_pos hskipping]
    exact .idle rfl rfl (fun _ _ _ _ => rfl) (fun _ _ => rfl)
  rw [if_neg hskipping]
  cases message with
  | parse name query oids =>
    dsimp only
    split
    · rename_i hok
      -- a backend refuses to parse over a named statement, so the name was free
      rw [Bool.and_eq_true, Bool.or_eq_true, List.isEmpty_iff, Option.isNone_iff_eq_none] at hok
      exact .accept hok.2
    · rw [reject]
      split
      · rename_i hname
        rw [List.isEmpty_iff] at hname
        rw [hname]
        exact .rejectUnnamed
      · exact .idle rfl rfl (fun _ _ _ _ => rfl) (fun _ _ => rfl)
  | bind name =>
    dsimp only
    split
    · exact hidle server.skipping true (fun _ _ _ => nofun) (fun _ => nofun)
    · exact hidle true false (fun _ _ _ => nofun) (fun _ => nofun)
  | describe target =>
    cases target with
    | statement name =>
      dsimp only
      split
      · exact hidle server.skipping true (fun _ _ _ => nofun) (fun _ => nofun)
      · exact hidle true false (fun _ _ _ => nofun) (fun _ => nofun)
    | _ => exact hidle (!reply.ok) reply.ok (fun _ _ _ => nofun) (fun _ => nofun)
  | close target =>
    cases target with
    | statement name =>
      dsimp only
      split
      · exact .close
      · exact .idle rfl rfl (fun _ _ _ => nofun) (fun _ _ => rfl)
    | _ => exact hidle (!reply.ok) reply.ok (fun _ _ _ => nofun) (fun _ => nofun)
  | query sql => exact .query (by rwa [Bool.not_eq_true] at hskipping)
  | sync => exact absurd rfl hsync
  | _ => exact hidle (!reply.ok) reply.ok (fun _ _ _ => nofun) (fun _ => nofun)

/-- A Bind or Describe changes no statement. -/
theorem execute_use (session : Nat) (server : Server) {message : FrontendMessage} (reply : Reply)
    (h : usedStatement message = some name) :
    (server.execute session message reply).1.statements = server.statements ∧
      (server.execute session message reply).1.unnamedBy = server.unnamedBy := by
  have hmove := server.move_execute session message reply
  generalize server.execute session message reply = executed at hmove ⊢
  obtain ⟨server', ok⟩ := executed
  cases hmove with
  | idle hstatements hby => exact ⟨hstatements, hby⟩
  | accept | rejectUnnamed | close | query => cases h

end Server

/-! ### How a Bind or Describe is forwarded -/

/-- What `prepareFrameForBackend` makes of a Bind or Describe of `name`. -/
inductive Forwarded (b : BackendId) (catalog : PreparedCatalog) (name : Text) :
    PreparedCatalog → List PlannedFrame → Prop
  | known {s : PreparedStatement} {message : FrontendMessage}
    (hs : catalog.statements[name]? = some s) (hmaterialized : catalog.isMaterialized b s = true)
    (hmessage : usedStatement message = some s.backendName) :
    Forwarded b catalog name catalog [⟨message, false⟩]
  | prelude {s : PreparedStatement} {message : FrontendMessage}
    (hs : catalog.statements[name]? = some s) (hmaterialized : catalog.isMaterialized b s = false)
    (hmessage : usedStatement message = some s.backendName) :
    Forwarded b catalog name (catalog.markMaterialized b s)
      [⟨.parse s.backendName s.query s.parameterTypeOids, true⟩, ⟨message, false⟩]
  | unknown {message : FrontendMessage} (hs : catalog.statements[name]? = none)
    (hmessage : usedStatement message = some name) :
    Forwarded b catalog name catalog [⟨message, false⟩]

variable {catalog catalog' : PreparedCatalog} {b : BackendId} {name : Text}
  {planned : List PlannedFrame}

/-- In a well-formed catalog every entry is one of the current route map. -/
theorem getForCurrentRouteMap_eq (hc : catalog.WellFormed) (name : Text) :
    catalog.getForCurrentRouteMap name = catalog.statements[name]? := by
  rw [PreparedCatalog.getForCurrentRouteMap]
  cases hs : catalog.statements[name]? with
  | none => rfl
  | some s =>
    have hcurrent : catalog.isCurrentRouteMap s = true := by
      rw [PreparedCatalog.isCurrentRouteMap, (hc.entry name s hs).current, beq_self_eq_true]
    rw [Option.filter_some, if_pos hcurrent]

theorem forwarded_prepareStatementUse {s : PreparedStatement} {message : FrontendMessage}
    (hs : catalog.statements[name]? = some s)
    (hmessage : usedStatement message = some s.backendName)
    (h : prepareStatementUse b catalog s message = (catalog', planned)) :
    Forwarded b catalog name catalog' planned := by
  rw [prepareStatementUse] at h
  split at h
  · rename_i hmaterialized
    cases h
    exact .known hs hmaterialized hmessage
  · rename_i hmaterialized
    rw [Bool.not_eq_true] at hmaterialized
    cases h
    exact .prelude hs hmaterialized hmessage

theorem forwarded_of_use {frame : FrontendMessage} (hc : catalog.WellFormed)
    (hframe : usedStatement frame = some name)
    (h : prepareFrameForBackend b catalog frame = some (catalog', planned)) :
    Forwarded b catalog name catalog' planned := by
  rw [usedStatement.eq_def] at hframe
  split at hframe
  all_goals cases hframe
  -- a Bind and a Describe take the same branches
  all_goals
    simp only [prepareFrameForBackend, getForCurrentRouteMap_eq hc] at h
    split at h
    · rename_i s hs
      exact forwarded_prepareStatementUse hs rfl (Option.some.inj h)
    · rename_i hs
      cases h
      exact .unknown hs rfl

end Statements

end PgKinetic
