import PgKinetic.Proxy.StatementInvariant

/-!
# Frames that change the catalog

A Bind or Describe with an injected Parse, a Parse and a Close change the catalog of a session and
the statements of its backend together. Each of them keeps `State.Sound`: an accepted Parse takes a
free name, and the name of a statement is that of no other statement of any session.
-/

namespace PgKinetic

open PreparedCatalog

namespace Statements

/-! ### An injected Parse -/

namespace Client

variable {c : Client} {i : Nat} {b : BackendId} {server : Server}

/-- The client with its statement marked. -/
def mark (c : Client) (b : BackendId) (s : PreparedStatement) : Client :=
  { c with catalog := c.catalog.markMaterialized b s }

variable {s : PreparedStatement} {name : Text}

theorem Moves.mark (hc : c.Sound i) (hs : c.catalog.statements[name]? = some s) :
    c.Moves i b (c.mark b s) := by
  refine ⟨⟨?_, hc.wellFormed.markMaterialized b hs, fun other => ?_⟩,
    fun b' server hb h other s' hs' hother hmarks => ?_, fun _ _ h => ⟨h, rfl⟩⟩
  · obtain ⟨table, heq⟩ := c.catalog.markMaterialized_eq b s
    rw [Client.mark, heq]
    exact hc.sessionId
  · rw [Client.mark, statements_markMaterialized]
    exact hc.parsed other
  · rw [Client.mark, statements_markMaterialized] at hs'
    rcases marks_markMaterialized hmarks with hmarks | ⟨heq, -⟩
    · exact h other s' hs' hother hmarks
    · exact absurd heq hb

theorem HeldBy.mark (h : c.HeldBy b server) (hc : c.Sound i)
    (hs : c.catalog.statements[name]? = some s)
    (hserver : server.statements[s.backendName]? = some (entryBody s)) :
    (c.mark b s).HeldBy b server := by
  intro other s' hs' hother hmarks
  rw [Client.mark, statements_markMaterialized] at hs'
  rcases marks_markMaterialized hmarks with hmarks | ⟨-, hkey⟩
  · exact h other s' hs' hother hmarks
  -- the new mark: keys are distinct, so it is that of `s`
  · have hname := hc.wellFormed.distinct other name s' s hs' hs hkey
    rw [hname, hs] at hs'
    cases hs'
    exact hserver

/-- The unnamed statement is taken to be materialized everywhere. -/
theorem Sound.ne_nil_of_not_isMaterialized (hc : c.Sound i)
    (hs : c.catalog.statements[name]? = some s) (h : c.catalog.isMaterialized b s = false) :
    name ≠ [] := by
  intro hname
  have he := hc.wellFormed.entry name s hs
  rw [isMaterialized, isCurrentRouteMap, he.current,
    (he.unnamed hname).2, beq_self_eq_true, beq_self_eq_true] at h
  cases h

end Client

namespace State

variable {st : State} {i : Nat} {c : Client} {b : BackendId} {server : Server}

variable {name : Text}

/-- What the injected Parse leaves: the statement is on the backend, the others are untouched. -/
theorem Sound.prelude (h : st.Sound) (hc : st.client i = some c) {s : PreparedStatement}
    (hs : c.catalog.statements[name]? = some s)
    (hmaterialized : c.catalog.isMaterialized b s = false) {reply : Reply} {ok : Bool}
    (hmove : Server.Move i (st.servers b) (.parse s.backendName s.query s.parameterTypeOids) reply
      server ok)
    (hkept : ok = true ∨ (st.servers b).statements[s.backendName]? = some (entryBody s)) :
    server.statements[s.backendName]? = some (entryBody s) ∧ c.HeldBy b server ∧
      c.UnnamedBy i b server ∧ st.OthersSound i b server := by
  have hsound := h.client i c hc
  have hname := hsound.ne_nil_of_not_isMaterialized hs hmaterialized
  have hbackend := hsound.backendName_ne_nil hs hname
  generalize hmessage : FrontendMessage.parse s.backendName s.query s.parameterTypeOids = message
    at hmove
  cases hmove with
  | idle hstatements hby hparse =>
    -- the Parse was not run, so the backend must have had the statement before
    have hok : ok = false := hparse _ _ _ hmessage.symm
    rw [hok] at hkept
    rw [hstatements]
    exact ⟨hkept.resolve_left (by decide), (h.held i c hc b).congr hstatements,
      (h.unnamed i c hc b).congr hstatements hby, h.others_congr hstatements hby⟩
  | accept hfree =>
    cases hmessage
    refine ⟨?_, (h.held i c hc b).accept hsound hfree _,
      (h.unnamed i c hc b).accept (.inr hbackend) _, h.others_accept hfree _⟩
    rw [Server.getElem?_accept, if_pos rfl, entryBody]
  | rejectUnnamed =>
    -- the unnamed statement needs no prelude
    injection hmessage with hnil
    exact absurd hnil hbackend
  | close | query => cases hmessage

/-- **A Bind or Describe keeps the invariant**, its injected Parse included. -/
theorem Sound.put_forwarded (h : st.Sound) (hc : st.client i = some c) {catalog : PreparedCatalog}
    {planned : List PlannedFrame} {replies : List Reply}
    (hforwarded : Forwarded b c.catalog name catalog planned)
    (hkept : preludeKept i (st.servers b) replies planned = true) :
    (st.put i { c with catalog } b ((st.servers b).executeAll i planned replies).1).Sound := by
  cases hforwarded with
  | known hs _ hmessage | unknown hs hmessage =>
    obtain ⟨hstatements, hby⟩ := (st.servers b).execute_use i (replies.headD {}) hmessage
    exact h.put_idle hc hstatements hby
  | @prelude s message hs hmaterialized hmessage =>
    have hmove := (st.servers b).move_execute i
      (.parse s.backendName s.query s.parameterTypeOids) (replies.headD {})
    rw [preludeKept, Bool.or_eq_true, beq_iff_eq] at hkept
    obtain ⟨hserver, hheld, hunnamed, hothers⟩ := h.prelude hc hs hmaterialized hmove hkept
    generalize hparsed : ((st.servers b).execute i
      (.parse s.backendName s.query s.parameterTypeOids) (replies.headD {})).1 = parsed
      at hserver hheld hunnamed hothers
    obtain ⟨hstatements, hby⟩ := parsed.execute_use i (replies.tail.headD {}) hmessage
    have hsound := h.client i c hc
    simp only [Server.executeAll, hparsed]
    refine h.put hc (.mark hsound hs) ((hheld.mark hsound hs hserver).congr hstatements)
      (hunnamed.congr hstatements hby) fun j d hne hj => ?_
    obtain ⟨hheld, hunnamed⟩ := hothers j d hne hj
    exact ⟨hheld.congr hstatements, hunnamed.congr hstatements hby⟩

end State

/-! ### A Parse of the client -/

namespace Client

variable {c : Client} {i : Nat} {b : BackendId} {server : Server}

/-- The client after a Parse that was run. -/
def parse (c : Client) (b : BackendId) (name query : Text) (oids : List Int) : Client :=
  Client.answered
    { c with
      catalog := (c.catalog.upsert name query oids).markMaterialized b
        (c.catalog.newStatement name query oids) } b true (.parse name query oids)

theorem getElem?_statements_parse (c : Client) (b : BackendId) (name query : Text)
    (oids : List Int) (other : Text) :
    (c.parse b name query oids).catalog.statements[other]? =
      if name = other then some (c.catalog.newStatement name query oids)
      else c.catalog.statements[other]? := by
  rw [parse, answered_catalog, statements_markMaterialized, getElem?_statements_upsert]

theorem getElem?_parsed_parse (c : Client) (b : BackendId) (name query : Text)
    (oids : List Int) (other : Text) :
    (c.parse b name query oids).parsed[other]? =
      if name = other then some ⟨query, oids⟩ else c.parsed[other]? := by
  simp only [parse, answered, if_true, Std.ExtTreeMap.getElem?_insert, Std.compare_eq_iff_eq]

variable {b' : BackendId} {name query : Text} {oids : List Int}

/-- The marks of the entries that stay are the old ones. -/
theorem marks_parse (hc : c.Sound i) {other : Text} {s : PreparedStatement}
    (hs : c.catalog.statements[other]? = some s) (hne : name ≠ other)
    (h : (c.parse b name query oids).catalog.marks b' s.cacheKey = true) :
    c.catalog.marks b' s.cacheKey = true := by
  rcases marks_markMaterialized h with h | ⟨-, hkey⟩
  · exact marks_upsert h
  · exact absurd hkey.symm (hc.wellFormed.keyed.newStatement_cacheKey_ne hs hne)

/-- A new named statement is marked for no other backend. -/
theorem not_marks_newStatement (hc : c.Sound i) (hb : b' ≠ b) (hname : name ≠ []) :
    (c.parse b name query oids).catalog.marks b'
      (c.catalog.newStatement name query oids).cacheKey = false := by
  rw [← Bool.not_eq_true, parse, answered_catalog]
  intro h
  rcases marks_markMaterialized h with h | ⟨heq, -⟩
  -- the key is the next one to be given out, and only keys given out are marked
  · have hgiven := hc.wellFormed.given b' _ (marks_upsert h)
    have hempty : name.isEmpty = false := by rwa [List.isEmpty_eq_false_iff]
    simp only [newStatement, hempty, Bool.false_eq_true, if_false] at hgiven
    exact lt_irrefl _ hgiven
  · exact hb heq

theorem Sound.parse (hc : c.Sound i) (b : BackendId) (name query : Text) (oids : List Int) :
    (c.parse b name query oids).Sound i := by
  have hstatements := c.getElem?_statements_parse b name query oids
  refine ⟨?_, ?_, fun other => ?_⟩
  · rw [Client.parse, answered_catalog]
    obtain ⟨table, hmark⟩ := (c.catalog.upsert name query oids).markMaterialized_eq b
      (c.catalog.newStatement name query oids)
    obtain ⟨c', hc', hupsert⟩ := c.catalog.upsert_eq name query oids
    rw [hmark, hupsert]
    exact hc'.sessionId.trans hc.sessionId
  · have hs := c.catalog.getElem?_statements_upsert name query oids name
    rw [if_pos rfl] at hs
    exact (hc.wellFormed.upsert name query oids).markMaterialized b hs
  · rw [getElem?_parsed_parse, hstatements]
    split
    · rfl
    · exact hc.parsed other

theorem Moves.parse (hc : c.Sound i) (b : BackendId) (name query : Text) (oids : List Int) :
    c.Moves i b (c.parse b name query oids) := by
  refine ⟨hc.parse b name query oids, fun b' server hb h other s hs hother hmarks => ?_,
    fun b' hb hat => ?_⟩
  · rw [getElem?_statements_parse] at hs
    split at hs
    · rename_i heq
      cases hs
      rw [not_marks_newStatement hc hb (heq ▸ hother)] at hmarks
      cases hmarks
    · rename_i hne
      exact h other s hs hother (marks_parse hc hs hne hmarks)
  · rw [getElem?_parsed_parse]
    simp only [Client.parse, answered, if_true] at hat
    split at hat
    · exact absurd (Option.some.inj hat).symm hb
    · rename_i hname
      rw [List.isEmpty_iff] at hname
      rw [if_neg hname]
      exact ⟨hat, rfl⟩

/-- The name and the text the backend gets are those of the new entry. -/
theorem HeldBy.parse (h : c.HeldBy b server) (hc : c.Sound i)
    (hfree : (c.catalog.newStatement name query oids).backendName = [] ∨
      server.statements[(c.catalog.newStatement name query oids).backendName]? = none) :
    (c.parse b name query oids).HeldBy b
      (server.accept i (c.catalog.newStatement name query oids).backendName ⟨query, oids⟩) := by
  intro other s hs hother hmarks
  rw [getElem?_statements_parse] at hs
  split at hs
  · cases hs
    rw [Server.getElem?_accept, if_pos rfl]
    rfl
  · rename_i hne
    exact h.accept hc hfree ⟨query, oids⟩ other s hs hother (marks_parse hc hs hne hmarks)

theorem UnnamedBy.parse (h : c.UnnamedBy i b server) (name query : Text) (oids : List Int) :
    (c.parse b name query oids).UnnamedBy i b
      (server.accept i (c.catalog.newStatement name query oids).backendName ⟨query, oids⟩) := by
  by_cases hname : name = []
  · subst hname
    intro _ _
    rw [getElem?_parsed_parse, if_pos rfl, Server.getElem?_accept]
    rfl
  · have hempty : name.isEmpty = false := by rwa [List.isEmpty_eq_false_iff]
    have hbackend : (c.catalog.newStatement name query oids).backendName ≠ [] := by
      simp only [newStatement, hempty, Bool.false_eq_true, if_false]
      exact backendStatementName_ne_nil _ _
    intro hat hby
    simp only [Client.parse, answered, if_true, hempty, Bool.false_eq_true, if_false] at hat
    rw [getElem?_parsed_parse, if_neg hname]
    exact h.accept (.inr hbackend) ⟨query, oids⟩ hat hby

end Client

/-! ### A Close of the client -/

/-- `catalog'` is `catalog` without the entry of that name. -/
structure Without (name : Text) (catalog catalog' : PreparedCatalog) : Prop where
  sessionId : catalog'.sessionId = catalog.sessionId
  wellFormed : catalog'.WellFormed
  statements : ∀ other : Text, catalog'.statements[other]? =
    if name = other then none else catalog.statements[other]?
  marks : ∀ b key, catalog'.marks b key = true → catalog.marks b key = true

variable {name : Text} {catalog : PreparedCatalog}

theorem without_of_remove {catalog' : PreparedCatalog} {s : PreparedStatement}
    (hc : catalog.WellFormed) (h : catalog.remove name = some (s, catalog')) :
    Without name catalog catalog' :=
  ⟨(remove_eq_some h).2.sessionId, hc.remove h,
    getElem?_statements_remove h, (remove_eq_some h).2.marks⟩

theorem without_of_none (hc : catalog.WellFormed) (h : catalog.statements[name]? = none) :
    Without name catalog catalog := by
  refine ⟨rfl, hc, fun other => ?_, fun _ _ hm => hm⟩
  split
  · rename_i heq
    rw [← heq, h]
  · rfl

namespace Client

variable {c : Client} {i : Nat} {b : BackendId} {server : Server} {catalog : PreparedCatalog}
  {name : Text}

/-- The client after a Close that was run. -/
def close (c : Client) (b : BackendId) (catalog : PreparedCatalog) (name : Text) : Client :=
  Client.answered { c with catalog } b true (.close (.statement name))

theorem getElem?_parsed_close (c : Client) (b : BackendId) (catalog : PreparedCatalog)
    (name other : Text) :
    (c.close b catalog name).parsed[other]? = if name = other then none else c.parsed[other]? := by
  simp only [close, answered, if_true, Std.ExtTreeMap.getElem?_erase, Std.compare_eq_iff_eq]

variable {b' : BackendId}

/-- Whatever is left of the client's unnamed statement was there before. -/
theorem unnamed_close (hat : (c.close b catalog name).unnamedAt = some b') :
    name ≠ [] ∧ c.unnamedAt = some b' ∧
      (c.close b catalog name).parsed[([] : Text)]? = c.parsed[([] : Text)]? := by
  rw [getElem?_parsed_close]
  simp only [close, answered, if_true] at hat
  split at hat
  · cases hat
  · rename_i hname
    rw [List.isEmpty_iff] at hname
    rw [if_neg hname]
    exact ⟨hname, hat, rfl⟩

theorem HeldBy.without (h : c.HeldBy b' server) (hwithout : Without name c.catalog catalog) :
    (c.close b catalog name).HeldBy b' server := by
  intro other s hs hother hmarks
  rw [Client.close, answered_catalog] at hs hmarks
  rw [hwithout.statements] at hs
  split at hs
  · cases hs
  · exact h other s hs hother (hwithout.marks b' _ hmarks)

theorem Moves.close (hc : c.Sound i) (b : BackendId)
    (hwithout : Without name c.catalog catalog) : c.Moves i b (c.close b catalog name) := by
  refine ⟨⟨?_, ?_, fun other => ?_⟩, fun b' server _ h => h.without hwithout,
    fun b' _ hat => (unnamed_close hat).2⟩
  · exact hwithout.sessionId.trans hc.sessionId
  · exact hwithout.wellFormed
  · rw [getElem?_parsed_close, Client.close, answered_catalog, hwithout.statements]
    split
    · rfl
    · exact hc.parsed other

theorem UnnamedBy.without (h : c.UnnamedBy i b server) :
    (c.close b catalog name).UnnamedBy i b server := by
  intro hat hby
  obtain ⟨-, hat, hparsed⟩ := unnamed_close hat
  rw [hparsed]
  exact h hat hby

end Client

namespace State

variable {st : State} {i : Nat} {c : Client} {b : BackendId} {catalog : PreparedCatalog}

variable {name : Text}

/-- **A Close keeps the invariant**, if the name it carries is that of no marked statement but
the one that is closed. -/
theorem Sound.put_close (h : st.Sound) (hc : st.client i = some c) {carried : Text}
    (hwithout : Without name c.catalog catalog)
    (hself : ∀ (other : Text) (s : PreparedStatement), c.catalog.statements[other]? = some s →
      other ≠ name → other ≠ [] → c.catalog.marks b s.cacheKey = true → carried ≠ s.backendName)
    (hothers : ∀ j d, j ≠ i → st.client j = some d → ∀ (other : Text) (s : PreparedStatement),
      d.catalog.statements[other]? = some s → other ≠ [] →
      d.catalog.marks b s.cacheKey = true → carried ≠ s.backendName) :
    (st.put i (c.close b catalog name) b ((st.servers b).close carried)).Sound := by
  refine h.put hc (.close (h.client i c hc) b hwithout) ?_
    ((h.unnamed i c hc b).without.close carried) fun j d hne hj =>
      ⟨(h.held j d hj b).close (hothers j d hne hj), (h.unnamed j d hj b).close carried⟩
  refine ((h.held i c hc b).without hwithout).close fun other s hs hother hmarks => ?_
  rw [Client.close, Client.answered_catalog] at hs hmarks
  rw [hwithout.statements] at hs
  split at hs
  · cases hs
  · rename_i hne
    exact hself other s hs (Ne.symm hne) hother (hwithout.marks b _ hmarks)

/-- The name a client's own Close carries is that of no other statement of any session. -/
theorem Sound.put_close_known (h : st.Sound) (hc : st.client i = some c) {s : PreparedStatement}
    (hremove : c.catalog.remove name = some (s, catalog)) :
    (st.put i (c.close b catalog name) b ((st.servers b).close s.backendName)).Sound := by
  have hsound := h.client i c hc
  have hs := (remove_eq_some hremove).1
  have hne : ∀ j d, st.client j = some d → ∀ (other : Text) (t : PreparedStatement),
      d.catalog.statements[other]? = some t → other ≠ [] → s.backendName = t.backendName →
      i = j ∧ s.cacheKey = t.cacheKey := by
    intro j d hj other t ht hother heq
    have hd := h.client j d hj
    by_cases hname : name = []
    -- the unnamed statement goes by the empty name, which no named one has
    · rw [((hsound.wellFormed.entry name s hs).unnamed hname).1] at heq
      exact absurd heq.symm (hd.backendName_ne_nil ht hother)
    · rw [hsound.backendName_eq hs hname, hd.backendName_eq ht hother] at heq
      exact backendStatementName_injective heq
  refine h.put_close hc (without_of_remove hsound.wellFormed hremove)
    (fun other t ht hother hnil _ heq => ?_) (fun j d hji hj other t ht hnil _ heq => ?_)
  · have hkey := (hne i c hc other t ht hnil heq).2
    exact hother (hsound.wellFormed.distinct other name t s ht hs hkey.symm)
  · exact hji (hne j d hj other t ht hnil heq).1.symm

/-- A raw name is closed only where no catalog marks it. -/
theorem Sound.put_close_unknown (h : st.Sound) (hc : st.client i = some c)
    (hs : c.catalog.statements[name]? = none) (hname : name ∉ st.markedNames b) :
    (st.put i (c.close b c.catalog name) b ((st.servers b).close name)).Sound := by
  refine h.put_close hc (without_of_none (h.client i c hc).wellFormed hs)
    (fun other s hs _ hnil hmarks heq => ?_) (fun j d _ hj other s hs hnil hmarks heq => ?_)
  · exact hname (heq ▸ backendName_mem_markedNames hc hs hnil hmarks)
  · exact hname (heq ▸ backendName_mem_markedNames hj hs hnil hmarks)

end State

end Statements

end PgKinetic
