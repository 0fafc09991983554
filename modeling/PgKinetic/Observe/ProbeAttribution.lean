import PgKinetic.Observe.HealthProbe

/-!
# Whose answer a probe reads

What a call of `execute_probe_query` returns is determined by what stands in its buffer and what
the endpoint has still to be read of. So the invariant of a probe says what the scan of just that
will end with: with nothing for the first question, whose call ends at the ReadyForQuery of the
startup and leaves the answer to `SELECT 1`, and with the first row of the answer for the others,
provided that nothing of the answer to `SELECT 1` was left unread. So the call for `SELECT 1` never
returns its own row, and the others do where they are asked in time (`probe_attributes_iff`).

A read that ends the startup and nothing more is no exotic one: PostgreSQL sends the two
separately. `SELECT 1` then answers `pg_is_in_recovery()`, and any endpoint is a replica.
-/

namespace PgKinetic

open Framing EventMachine List Option ProbeEndpoint ProbeState

/-! ### What a call will end with -/

/-- How the scan of a call ends once all that has been sent is read. -/
def ProbeCall.scanAll (call : ProbeCall) (pending : List Byte) :
    Scanned Byte (Option ProbeRow) (Except Text (Option ProbeRow)) WireError :=
  backendCutter.scan probeFrame call.row (call.buffer ++ pending)

/-- The call for the first question ends with the startup, in which there is no row. -/
def ProbeCall.EndsWithStartup (E : ProbeEndpoint) (call : ProbeCall) (pending : List Byte) : Prop :=
  call.scanAll pending = .done (.ok none) (E.answer .one).bytes

/-- The call will read the answer to its own question, and nothing else. -/
def ProbeCall.EndsWithAnswer (E : ProbeEndpoint) (call : ProbeCall) (pending : List Byte) : Prop :=
  if (E.answer call.query).refuses then
    ∃ e behind, call.scanAll pending = .done (.error e) behind
  else call.scanAll pending = .done (.ok (E.firstRow call.query)) []

variable {E : ProbeEndpoint} {maxReplicaLagMs : Nat} {call : ProbeCall}

theorem endsWithStartup_start (E : ProbeEndpoint) :
    ProbeCall.EndsWithStartup E { query := .one } (start E).pending := by
  have hstartup := E.startup.scan_of_accepts E.startup_accepts
  rw [E.startup_rows] at hstartup
  unfold ProbeCall.EndsWithStartup ProbeCall.scanAll
  rw [nil_append, start, Cutter.scan_append, hstartup]
  rfl

/-- A question that is asked when nothing is unread gets its own answer. -/
theorem endsWithAnswer_ask (E : ProbeEndpoint) (query : ProbeQuery) :
    ProbeCall.EndsWithAnswer E { query } (E.answer query).bytes := by
  unfold ProbeCall.EndsWithAnswer ProbeCall.scanAll
  rw [nil_append]
  cases hrefuses : (E.answer query).refuses with
  | true => exact (E.answer query).scan_of_refuses hrefuses
  | false =>
    rw [if_neg Bool.false_ne_true, (E.answer query).scan_of_accepts hrefuses, firstRow, hrefuses]
    rfl

/-! ### Reads -/

variable {st : ProbeState} {count : Nat} {input : ProbeInput} {events : List ProbeEvent}

variable {now : SystemTime} {t : ProbeState}

/-- **A read in a call whose end is known**: it waits with the same end ahead, or ends so. -/
theorem receive_of_scanAll {result : Except Text (Option ProbeRow)} {behind : List Byte}
    (h : call.scanAll st.pending = .done result behind) :
    (∃ row buffer,
      (backendCutter.scan probeFrame call.row
        (call.buffer ++ st.pending.take count)).isDone = false ∧
      st.receive E maxReplicaLagMs call count now =
        ({ st with
            pending := st.pending.drop count
            call := some { call with row, buffer } }, []) ∧
      ({ call with row, buffer } : ProbeCall).scanAll (st.pending.drop count) =
        .done result behind) ∨
    (∃ rest, behind = rest ++ st.pending.drop count ∧
      (backendCutter.scan probeFrame call.row
        (call.buffer ++ st.pending.take count)).isDone = true ∧
      st.receive E maxReplicaLagMs call count now =
        match result with
        | .error e => ({ st with pending := st.pending.drop count } : ProbeState).finish (.failed e)
        | .ok row =>
          let next := ({ st with pending := st.pending.drop count } : ProbeState).continueWith E
            maxReplicaLagMs now call.query row
          (next.1, .returned call.query row :: next.2)) := by
  have hsplit : backendCutter.scan probeFrame call.row
      (call.buffer ++ st.pending.take count ++ st.pending.drop count) = .done result behind := by
    rw [append_assoc, take_append_drop]
    exact h
  rcases backendCutter.scan_split probeFrame hsplit with
    ⟨row, buffer, hscan, hlater⟩ | ⟨rest, hscan, hbehind⟩
  · refine .inl ⟨row, buffer, by rw [hscan]; rfl, ?_, hlater⟩
    unfold receive
    rw [hscan]
  · refine .inr ⟨rest, hbehind, by rw [hscan]; rfl, ?_⟩
    unfold receive
    rw [hscan]
    cases result <;> rfl

/-- A read in the call for the first question: the call waits, or it returns nothing and the
second question is asked, with what the read has left still unread. -/
theorem receive_one (hone : call.query = .one) (h : call.EndsWithStartup E st.pending) :
    (∃ row buffer,
      (backendCutter.scan probeFrame call.row
        (call.buffer ++ st.pending.take count)).isDone = false ∧
      st.receive E maxReplicaLagMs call count now =
        ({ st with
            pending := st.pending.drop count
            call := some { call with row, buffer } }, []) ∧
      ({ call with row, buffer } : ProbeCall).EndsWithStartup E (st.pending.drop count)) ∨
    ((backendCutter.scan probeFrame call.row
        (call.buffer ++ st.pending.take count)).isDone = true ∧
      st.receive E maxReplicaLagMs call count now =
        ({ st with
            pending := st.pending.drop count ++ (E.answer .role).bytes
            call := some { query := .role } },
          [.returned .one none, .asked .role (st.pending.drop count)])) := by
  rcases receive_of_scanAll h with ⟨row, buffer, hdone, hreceive, hlater⟩ | ⟨-, -, hdone, hreceive⟩
  · exact .inl ⟨row, buffer, hdone, hreceive, hlater⟩
  · refine .inr ⟨hdone, hreceive.trans ?_⟩
    rw [hone]
    rfl

/-- A read in a call that has only its own answer to read: the call waits, or is refused, or
returns the first row of the answer, and then nothing is left unread. -/
theorem receive_answer (h : call.EndsWithAnswer E st.pending) :
    (∃ row buffer, st.receive E maxReplicaLagMs call count now =
        ({ st with
            pending := st.pending.drop count
            call := some { call with row, buffer } }, []) ∧
      ({ call with row, buffer } : ProbeCall).EndsWithAnswer E (st.pending.drop count)) ∨
    (∃ e, st.receive E maxReplicaLagMs call count now =
      ({ st with pending := st.pending.drop count } : ProbeState).finish (.failed e)) ∨
    ((E.answer call.query).refuses = false ∧
      st.receive E maxReplicaLagMs call count now =
        let next := ({ st with pending := [] } : ProbeState).continueWith E maxReplicaLagMs now
          call.query (E.firstRow call.query)
        (next.1, .returned call.query (E.firstRow call.query) :: next.2)) := by
  unfold ProbeCall.EndsWithAnswer at h ⊢
  cases hrefuses : (E.answer call.query).refuses with
  | true =>
    rw [hrefuses, if_pos rfl] at h
    obtain ⟨e, behind, h⟩ := h
    rcases receive_of_scanAll h with ⟨row, buffer, -, hreceive, hlater⟩ | ⟨-, -, -, hreceive⟩
    · exact .inl ⟨row, buffer, hreceive, (if_pos hrefuses).mpr ⟨e, behind, hlater⟩⟩
    · exact .inr (.inl ⟨e, hreceive⟩)
  | false =>
    rw [hrefuses, if_neg Bool.false_ne_true] at h
    rcases receive_of_scanAll h with ⟨row, buffer, -, hreceive, hlater⟩ | ⟨rest, hnil, -, hreceive⟩
    · exact .inl ⟨row, buffer, hreceive, (if_neg (Bool.eq_false_iff.1 hrefuses)).mpr hlater⟩
    · have hdrop : st.pending.drop count = [] := (append_eq_nil_iff.1 hnil.symm).2
      refine .inr (.inr ⟨rfl, ?_⟩)
      rw [hreceive, hdrop]

/-- What one step of the probe can do. -/
theorem probe_step_cases (h : (probeMachine E maxReplicaLagMs).step st input = some (t, events)) :
    (∃ call count now, st.call = some call ∧ input = .read count now ∧
      count ≤ st.pending.length ∧
      st.receive E maxReplicaLagMs call count now = (t, events)) ∨
    ∃ outcome, (∀ count now, input ≠ .read count now) ∧ (∀ o, outcome ≠ .observed o) ∧
      t.call = none ∧ events = [.ended outcome] := by
  have hend : ∀ {outcome : ProbeOutcome}, (∀ count now, input ≠ .read count now) →
      (∀ o, outcome ≠ .observed o) →
      (st.call.map fun _ => st.finish outcome) = some (t, events) →
      ∃ outcome, (∀ count now, input ≠ .read count now) ∧ (∀ o, outcome ≠ .observed o) ∧
        t.call = none ∧ events = [.ended outcome] := by
    intro outcome hinput hfailed hmap
    obtain ⟨-, -, hfinish⟩ := map_eq_some_iff.1 hmap
    obtain ⟨rfl, rfl⟩ := Prod.mk.inj hfinish
    exact ⟨outcome, hinput, hfailed, rfl, rfl⟩
  cases input with
  | read count now =>
    replace h : step E maxReplicaLagMs st (.read count now) = some (t, events) := h
    unfold step at h
    dsimp only at h
    split at h
    · cases h
    · rename_i call hcall
      split at h
      · rename_i hcount
        exact .inl ⟨call, count, now, hcall, rfl, hcount.2, some.inj h⟩
      · cases h
  | closed | connectionError e | timedOut => exact .inr (hend nofun (fun _ ho => by cases ho) h)

/-! ### Runs -/

/-- The read ends the call for the first question. -/
def ProbeCall.EndsFirst (call : ProbeCall) (pending : List Byte) (count : Nat) : Prop :=
  call.query = .one ∧
    (backendCutter.scan probeFrame call.row (call.buffer ++ pending.take count)).isDone = true

instance (call : ProbeCall) (pending : List Byte) (count : Nat) :
    Decidable (call.EndsFirst pending count) :=
  inferInstanceAs (Decidable (_ ∧ _))

/-- A condition on the call that reads, on what it may read and on the count. -/
def AtRead (C : ProbeCall → List Byte → Nat → Prop) : ProbeState → ProbeInput → Prop
  | ⟨pending, some call, _⟩, .read count _ => C call pending count
  | _, _ => True

instance (C : ProbeCall → List Byte → Nat → Prop) [∀ call pending count,
    Decidable (C call pending count)] :
    (st : ProbeState) → (input : ProbeInput) → Decidable (AtRead C st input)
  | ⟨pending, some call, _⟩, .read count _ => inferInstanceAs (Decidable (C call pending count))
  | ⟨_, none, _⟩, .read _ _ => .isTrue trivial
  | ⟨_, none, _⟩, .closed | ⟨_, some _, _⟩, .closed => .isTrue trivial
  | ⟨_, none, _⟩, .connectionError _ | ⟨_, some _, _⟩, .connectionError _ => .isTrue trivial
  | ⟨_, none, _⟩, .timedOut | ⟨_, some _, _⟩, .timedOut => .isTrue trivial

/-- No read ends the call for the first question. -/
abbrev LeavesFirst : ProbeState → ProbeInput → Prop :=
  AtRead fun call pending count => ¬call.EndsFirst pending count

/-- A read that ends the call for the first question takes all that the endpoint has sent, and so
the whole answer to that question. -/
abbrev TakesAnswer : ProbeState → ProbeInput → Prop :=
  AtRead fun call pending count => call.EndsFirst pending count → count = pending.length

/-- The call for the question has returned the first row of the response to it. -/
def ProbeEndpoint.Owns (E : ProbeEndpoint) (query : ProbeQuery) (row : Option ProbeRow) : Prop :=
  (E.answer query).refuses = false ∧ row = E.firstRow query

/-- The question is asked when nothing of an earlier response is unread. -/
def ProbeEvent.AsksInTime : ProbeEvent → Prop
  | .asked _ unread => unread = []
  | _ => True

/-- The observation is one of the endpoint: its role, and a position and a lag of a replica only,
from the answer to the replay query. -/
structure ProbeObservation.Of (E : ProbeEndpoint) (o : ProbeObservation) : Prop where
  role : o.observedRole = E.role
  replayLsn : ∀ lsn, o.replayLsn = some lsn →
    E.inRecovery = true ∧ ∃ value, E.replayLsn = some value ∧ parseReplayLsn value = .ok lsn
  replayTimestamp : ∀ time, o.replayTimestamp = some time →
    E.inRecovery = true ∧
      ∃ value, E.replayTimestamp = some value ∧ parseReplayTimestamp value = .ok time
  lag : ∀ duration, o.lagDuration = some duration → ∃ time, o.replayTimestamp = some time ∧
    durationSince o.lastSuccessfulProbeAt time = some duration

/-- The event is as the endpoint's answers have it. -/
def ProbeEvent.Right (E : ProbeEndpoint) : ProbeEvent → Prop
  | .returned .one _ => True
  | .returned query row => E.Owns query row
  | .ended (.observed o) => o.Of E
  | _ => True

/-- What a probe in which no answer was left unread keeps. -/
def ProbeState.Inv (E : ProbeEndpoint) (st : ProbeState) : Prop :=
  ∀ call, st.call = some call →
    (call.query = .one → call.EndsWithStartup E st.pending) ∧
    (call.query ≠ .one → call.EndsWithAnswer E st.pending) ∧
    (call.query = .replay → E.inRecovery = true)

theorem atRead_read {C : ProbeCall → List Byte → Nat → Prop} (hcall : st.call = some call)
    (count : Nat) (now : SystemTime) :
    AtRead C st (.read count now) ↔ C call st.pending count := by
  obtain ⟨pending, _, probeTime⟩ := st
  subst hcall
  exact Iff.rfl

theorem atRead_of_ne {C : ProbeCall → List Byte → Nat → Prop}
    (hinput : ∀ count now, input ≠ .read count now) : AtRead C st input := by
  unfold AtRead
  split
  · rename_i count now
    exact absurd rfl (hinput count now)
  · trivial

/-- What is parsed of a column is the column's value. -/
theorem parseColumn_some {α : Type} {parse : Text → Except Text α} {column : Option Text}
    {value : α} (h : parseColumn parse column = .ok (some value)) :
    ∃ text, column = some text ∧ parse text = .ok value := by
  cases column with
  | none => cases h
  | some text =>
    refine ⟨text, rfl, ?_⟩
    replace h : (parse text).map some = .ok (some value) := h
    cases hparse : parse text with
    | error e =>
      rw [hparse] at h
      cases h
    | ok parsed =>
      rw [hparse] at h
      cases h
      rfl

/-- The row of the replay query makes an observation of the endpoint. -/
theorem replayObservation_of {probeTime : SystemTime} {o : ProbeObservation}
    (hrecovery : E.inRecovery = true)
    (h : replayObservation maxReplicaLagMs probeTime (some [E.replayLsn, E.replayTimestamp]) =
      .ok o) : o.Of E := by
  unfold replayObservation at h
  cases hlsn : parseColumn parseReplayLsn E.replayLsn with
  | error e => simp [hlsn, bind, Except.bind] at h
  | ok lsn =>
    cases htime : parseColumn parseReplayTimestamp E.replayTimestamp with
    | error e => simp [hlsn, htime, bind, Except.bind] at h
    | ok time =>
      simp only [bind_some, head?_cons, join_some, hlsn, htime, bind,
        Except.bind, pure, Except.pure, getElem?_cons_succ, getElem?_cons_zero] at h
      obtain rfl := Except.ok.inj h
      refine ⟨?_, ?_, ?_, ?_⟩
      · rw [role, hrecovery]
        rfl
      · rintro value rfl
        exact ⟨hrecovery, parseColumn_some hlsn⟩
      · rintro value rfl
        exact ⟨hrecovery, parseColumn_some htime⟩
      · intro duration hduration
        obtain ⟨value, hvalue, hsince⟩ := bind_eq_some_iff.1 hduration
        exact ⟨value, hvalue, hsince⟩

/-- The row of the second question tells the endpoint's role. -/
theorem observedRole_firstRow (h : (E.answer .role).refuses = false) :
    observedRole (E.firstRow .role) = .ok E.role := by
  rw [firstRow, h, if_neg Bool.false_ne_true, E.role_rows h, role]
  cases E.inRecovery <;> rfl

/-- **A call has returned the first row of its own answer**, and nothing is unread: the probe goes
on with the next question or ends with an observation of the endpoint. -/
theorem continueWith_firstRow (now : SystemTime) {query : ProbeQuery} (hquery : query ≠ .one)
    (hrefuses : (E.answer query).refuses = false)
    (hrecovery : query = .replay → E.inRecovery = true) :
    let next := ({ st with pending := [] } : ProbeState).continueWith E maxReplicaLagMs now query
      (E.firstRow query)
    next.1.Inv E ∧ ∀ e ∈ next.2, e.AsksInTime ∧ e.Right E := by
  have hfinish : ∀ outcome, (∀ o, outcome = .observed o → o.Of E) →
      let next := ({ st with pending := [] } : ProbeState).finish outcome
      next.1.Inv E ∧ ∀ e ∈ next.2, e.AsksInTime ∧ e.Right E := by
    intro outcome hof
    have hnone : ({ st with pending := [], call := none } : ProbeState).Inv E := nofun
    refine ⟨hnone, fun e he => ?_⟩
    obtain rfl := mem_singleton.1 he
    refine ⟨trivial, ?_⟩
    cases outcome with
    | observed o => exact hof o rfl
    | failed e => trivial
    | timedOut => trivial
  cases query with
  | one => exact absurd rfl hquery
  | role =>
    dsimp only [continueWith]
    rw [observedRole_firstRow hrefuses, ProbeEndpoint.role]
    cases hinRecovery : E.inRecovery with
    | true =>
      refine ⟨?_, ?_⟩
      · intro call hcall
        obtain rfl := some.inj hcall
        exact ⟨nofun, fun _ => endsWithAnswer_ask E .replay, fun _ => hinRecovery⟩
      · intro e he
        obtain rfl := mem_singleton.1 he
        exact ⟨rfl, trivial⟩
    | false =>
      refine hfinish _ ?_
      rintro o ho
      obtain rfl := ProbeOutcome.observed.inj ho
      refine ⟨?_, nofun, nofun, nofun⟩
      rw [ProbeEndpoint.role, hinRecovery]
      rfl
  | replay =>
    have hrow : E.firstRow .replay = some [E.replayLsn, E.replayTimestamp] := by
      rw [firstRow, hrefuses, if_neg Bool.false_ne_true, E.replay_rows hrefuses]
      rfl
    dsimp only [continueWith]
    cases hobserved : replayObservation maxReplicaLagMs st.probeTime (E.firstRow .replay) with
    | error e => exact hfinish _ fun o ho => by cases ho
    | ok o =>
      refine hfinish _ fun o' ho' => ?_
      obtain rfl := ProbeOutcome.observed.inj ho'
      exact replayObservation_of (hrecovery rfl) (hrow ▸ hobserved)

/-- **One step of the probe.** A step that ends the call for the first question asks the second
one in time exactly if its read takes the whole answer, and then the invariant is kept and all
that happens is right. -/
theorem probe_step (hinv : st.Inv E)
    (hstep : (probeMachine E maxReplicaLagMs).step st input = some (t, events)) :
    (TakesAnswer st input ↔ ∀ e ∈ events, e.AsksInTime) ∧
      (TakesAnswer st input → t.Inv E ∧ ∀ e ∈ events, e.Right E) := by
  rcases probe_step_cases hstep with
    ⟨call, count, now, hcall, rfl, hcount, hreceive⟩ | ⟨outcome, hinput, hfailed, hnone, rfl⟩
  · obtain ⟨hstartup, hanswer, hrecovery⟩ := hinv call hcall
    rw [TakesAnswer, atRead_read hcall]
    by_cases hquery : call.query = .one
    · rcases receive_one hquery (hstartup hquery) with
        ⟨row, buffer, hdone, hnext, hlater⟩ | ⟨hdone, hnext⟩
      · -- the call waits: nothing is asked, and nothing has to be taken
        obtain ⟨rfl, rfl⟩ := Prod.mk.inj (hnext.symm.trans hreceive)
        have htakes : call.EndsFirst st.pending count → count = st.pending.length := by
          rintro ⟨-, hdone'⟩
          exact absurd (hdone.symm.trans hdone') Bool.false_ne_true
        refine ⟨⟨fun _ => nofun, fun _ => htakes⟩, fun _ => ⟨?_, nofun⟩⟩
        intro call' hcall'
        obtain rfl := some.inj hcall'
        refine ⟨fun _ => hlater, fun hne => absurd hquery hne, fun hreplay => ?_⟩
        exact absurd (hquery.symm.trans hreplay) nofun
      · obtain ⟨rfl, rfl⟩ := Prod.mk.inj (hnext.symm.trans hreceive)
        have hiff : (call.EndsFirst st.pending count → count = st.pending.length) ↔
            st.pending.drop count = [] := by
          refine ⟨fun h => ?_, fun h _ => ?_⟩
          · rw [h ⟨hquery, hdone⟩, drop_length]
          · have hlength := drop_eq_nil_iff.1 h
            omega
        refine ⟨?_, fun h => ?_⟩
        · simp only [forall_mem_cons, ProbeEvent.AsksInTime, true_and]
          exact hiff.trans ⟨fun h => ⟨h, nofun⟩, fun h => h.1⟩
        · refine ⟨?_, ?_⟩
          · intro call' hcall'
            obtain rfl := some.inj hcall'
            rw [hiff.1 h, nil_append]
            exact ⟨nofun, fun _ => endsWithAnswer_ask E .role, nofun⟩
          · simp only [forall_mem_cons, ProbeEvent.Right, true_and]
            exact nofun
    · have htakes : call.EndsFirst st.pending count → count = st.pending.length :=
        fun hends => absurd hends.1 hquery
      rcases receive_answer (hanswer hquery) with
        ⟨row, buffer, hnext, hlater⟩ | ⟨e, hnext⟩ | ⟨hrefuses, hnext⟩
      · obtain ⟨rfl, rfl⟩ := Prod.mk.inj (hnext.symm.trans hreceive)
        refine ⟨⟨fun _ => nofun, fun _ => htakes⟩, fun _ => ⟨?_, nofun⟩⟩
        intro call' hcall'
        obtain rfl := some.inj hcall'
        exact ⟨fun hone => absurd hone hquery, fun _ => hlater, hrecovery⟩
      · obtain ⟨rfl, rfl⟩ := Prod.mk.inj (hnext.symm.trans hreceive)
        refine ⟨⟨fun _ => ?_, fun _ => htakes⟩, fun _ => ⟨nofun, ?_⟩⟩
        · exact forall_mem_singleton.2 trivial
        · exact forall_mem_singleton.2 trivial
      · obtain ⟨hkept, hevents⟩ := continueWith_firstRow now hquery hrefuses hrecovery
        obtain ⟨rfl, rfl⟩ := Prod.mk.inj (hnext.symm.trans hreceive)
        have hreturned : ProbeEvent.Right E (.returned call.query (E.firstRow call.query)) := by
          cases hq : call.query with
          | one => exact absurd hq hquery
          | role | replay => exact ⟨hq ▸ hrefuses, rfl⟩
        refine ⟨⟨fun _ => ?_, fun _ => htakes⟩, fun _ => ⟨hkept, ?_⟩⟩
        · exact forall_mem_cons.2 ⟨trivial, fun e he => (hevents e he).1⟩
        · exact forall_mem_cons.2 ⟨hreturned, fun e he => (hevents e he).2⟩
  · have htakes : TakesAnswer st input := atRead_of_ne hinput
    refine ⟨⟨fun _ => ?_, fun _ => htakes⟩, fun _ => ⟨?_, ?_⟩⟩
    · exact forall_mem_singleton.2 trivial
    · intro call hcall
      exact absurd (hnone.symm.trans hcall) nofun
    · refine forall_mem_singleton.2 ?_
      cases outcome with
      | observed o => exact absurd rfl (hfailed o)
      | failed e => trivial
      | timedOut => trivial

/-! ### The first question -/

/-- What a probe keeps while the call for the first question is not ended. -/
def ProbeState.InFirst (E : ProbeEndpoint) (st : ProbeState) : Prop :=
  ∀ call, st.call = some call → call.query = .one ∧ call.EndsWithStartup E st.pending

/-- What the calls for these questions return is their own. -/
def ProbeEvent.OwnRow (E : ProbeEndpoint) (queries : List ProbeQuery) : ProbeEvent → Prop
  | .returned query row => query ∈ queries → E.Owns query row
  | _ => True

/-- A call for the first question that returns nothing has not returned its own row. -/
theorem not_owns_one (E : ProbeEndpoint) : ¬E.Owns .one none := by
  rintro ⟨hrefuses, hrow⟩
  rw [firstRow, hrefuses, E.one_rows hrefuses] at hrow
  cases hrow

/-- **The call for the first question returns its own row only by not returning.** -/
theorem probe_step_first {queries : List ProbeQuery} (hone : .one ∈ queries) (hinv : st.InFirst E)
    (hstep : (probeMachine E maxReplicaLagMs).step st input = some (t, events)) :
    (LeavesFirst st input ↔ ∀ e ∈ events, e.OwnRow E queries) ∧
      (LeavesFirst st input → t.InFirst E) := by
  rcases probe_step_cases hstep with
    ⟨call, count, now, hcall, rfl, -, hreceive⟩ | ⟨outcome, hinput, -, hnone, rfl⟩
  · obtain ⟨hquery, hstartup⟩ := hinv call hcall
    rw [LeavesFirst, atRead_read hcall]
    rcases receive_one hquery hstartup with ⟨row, buffer, hdone, hnext, hlater⟩ | ⟨hdone, hnext⟩
    · obtain ⟨rfl, rfl⟩ := Prod.mk.inj (hnext.symm.trans hreceive)
      refine ⟨iff_of_true (fun hends => ?_) nofun, fun _ call' hcall' => ?_⟩
      · exact absurd (hdone.symm.trans hends.2) Bool.false_ne_true
      · obtain rfl := some.inj hcall'
        exact ⟨hquery, hlater⟩
    · obtain ⟨rfl, rfl⟩ := Prod.mk.inj (hnext.symm.trans hreceive)
      have hends : call.EndsFirst st.pending count := ⟨hquery, hdone⟩
      refine ⟨iff_of_false (not_not.2 hends) fun h => ?_, fun h => absurd hends h⟩
      exact not_owns_one E (h _ mem_cons_self hone)
  · refine ⟨iff_of_true (atRead_of_ne hinput) (forall_mem_singleton.2 trivial), ?_⟩
    intro _ call hcall
    exact absurd (hnone.symm.trans hcall) nofun

/-- In a whole run. -/
theorem probe_run_first {queries : List ProbeQuery} (hone : .one ∈ queries)
    {inputs : List ProbeInput}
    (hrun : (probeMachine E maxReplicaLagMs).run (.start E) inputs = some (st, events)) :
    (∀ query ∈ queries, ∀ row, .returned query row ∈ events → E.Owns query row) ↔
      (probeMachine E maxReplicaLagMs).Meets LeavesFirst (.start E) inputs := by
  have hstart : (start E).InFirst E := by
    intro call hcall
    obtain rfl := some.inj hcall
    exact ⟨rfl, endsWithStartup_start E⟩
  rw [(probeMachine E maxReplicaLagMs).meets_iff_of_step
    (fun s i t es hs hstep => probe_step_first hone hs hstep) hstart hrun]
  refine ⟨fun h e he => ?_, fun h query hquery row hrow => h _ hrow hquery⟩
  cases e with
  | returned query row => exact fun hquery => h query hquery row he
  | asked query unread => trivial
  | ended outcome => trivial

/-! ### Whole probes -/

theorem inv_start (E : ProbeEndpoint) : (ProbeState.start E).Inv E := by
  intro call hcall
  obtain rfl := some.inj hcall
  exact ⟨fun _ => endsWithStartup_start E, fun hne => absurd rfl hne, nofun⟩

/-- **Whose answers a probe reads.** In every run of a probe against a conforming endpoint all calls
return the first row of the response to their own question exactly if none returns, since the call
for the first question, which is the first to return, never does. The questions behind it are asked
when nothing is left unread, and so read their own answers, exactly if the read that ends the
startup takes the whole answer to the first question as well. Then their calls return the first
rows of their own answers, and a successful probe observes, and publishes, the role the endpoint
has. -/
theorem probe_attributes_iff (E : ProbeEndpoint) (maxReplicaLagMs : Nat)
    {inputs : List ProbeInput} {st : ProbeState} {events : List ProbeEvent}
    (hrun : (probeMachine E maxReplicaLagMs).run (.start E) inputs = some (st, events)) :
    ((∀ query row, .returned query row ∈ events → E.Owns query row) ↔
      (probeMachine E maxReplicaLagMs).Meets LeavesFirst (.start E) inputs) ∧
    ((∀ row, .returned .one row ∈ events → E.Owns .one row) ↔
      (probeMachine E maxReplicaLagMs).Meets LeavesFirst (.start E) inputs) ∧
    ((probeMachine E maxReplicaLagMs).Meets TakesAnswer (.start E) inputs ↔
      ∀ query unread, .asked query unread ∈ events → unread = []) ∧
    ((probeMachine E maxReplicaLagMs).Meets TakesAnswer (.start E) inputs →
      (∀ query row, .returned query row ∈ events → query ≠ .one → E.Owns query row) ∧
      ∀ o, .ended (.observed o) ∈ events → o.Of E ∧
        ∀ expectedRole previous, (probeOnce expectedRole previous (.observed o)).role =
          roleOutcome expectedRole E.role) := by
  refine ⟨?_, ?_, ?_, fun hmeets => ?_⟩
  · have hall : ∀ query : ProbeQuery, query ∈ [ProbeQuery.one, .role, .replay] := by
      intro query
      cases query <;> simp
    rw [← probe_run_first (hall .one) hrun]
    exact ⟨fun h query _ => h query, fun h query => h query (hall query)⟩
  · rw [← probe_run_first (mem_singleton_self ProbeQuery.one) hrun, forall_mem_singleton]
  · have hiff := (probeMachine E maxReplicaLagMs).meets_iff_of_step
      (fun s i t es hs hstep =>
        ⟨(probe_step hs hstep).1, fun hC => ((probe_step hs hstep).2 hC).1⟩) (inv_start E) hrun
    rw [hiff]
    refine ⟨fun h query unread hasked => h _ hasked, fun h e he => ?_⟩
    cases e with
    | asked query unread => exact h query unread he
    | returned query row => trivial
    | ended outcome => trivial
  · obtain ⟨-, hright⟩ := (probeMachine E maxReplicaLagMs).invariant_of_step
      (fun s i t es hs hC hstep => (probe_step hs hstep).2 hC) (inv_start E) hrun hmeets
    refine ⟨fun query row hreturned hquery => ?_, fun o ho => ?_⟩
    · have hevent := hright _ hreturned
      cases query with
      | one => exact absurd rfl hquery
      | role => exact hevent
      | replay => exact hevent
    · have hof : o.Of E := hright _ ho
      exact ⟨hof, fun expectedRole previous => congrArg (roleOutcome expectedRole) hof.role⟩

/-! ### A replica and a primary -/

/-- A response of one DataRow frame and a ReadyForQuery. -/
def rowResponse (length : Byte) (payload : List Byte)
    (hparses : parseBackendFrames ([68, 0, 0, 0, length] ++ payload ++ readyForQuery .idle) =
      .ok ([⟨68, payload⟩, ⟨90, [73]⟩], []))
    (hrow : (BackendFrame.mk 68 payload).row.isSome = true) : ProbeResponse where
  bytes := [68, 0, 0, 0, length] ++ payload ++ readyForQuery .idle
  frames := [⟨68, payload⟩]
  ready := ⟨90, [73]⟩
  parses := hparses
  ready_tag := by decide
  not_ready := List.forall_mem_singleton.2 rfl
  row_isSome := List.forall_mem_singleton.2 fun _ => hrow

/-- The response to the startup packet: AuthenticationOk and ReadyForQuery. -/
def startupResponse : ProbeResponse where
  bytes := [82, 0, 0, 0, 8, 0, 0, 0, 0] ++ readyForQuery .idle
  frames := [⟨82, [0, 0, 0, 0]⟩]
  ready := ⟨90, [73]⟩
  parses := by decide +kernel
  ready_tag := by decide
  not_ready := List.forall_mem_singleton.2 rfl
  row_isSome := List.forall_mem_singleton.2 fun h => absurd h (by decide)

theorem startupResponse_accepts : startupResponse.refuses = false := by decide

theorem startupResponse_rows : startupResponse.rows = [] := by decide

/-- The response to `SELECT 1`. -/
def oneResponse : ProbeResponse :=
  rowResponse 11 [0, 1, 0, 0, 0, 1, 49] (by decide +kernel) (by decide +kernel)

/-- The responses to the three questions. -/
def responses (one role replay : ProbeResponse) : ProbeQuery → ProbeResponse
  | .one => one
  | .role => role
  | .replay => replay

/-- A replica at position `2/10`. -/
def plainReplica : ProbeEndpoint where
  startup := startupResponse
  answer := responses oneResponse
    (rowResponse 11 [0, 1, 0, 0, 0, 1, 116] (by decide +kernel) (by decide +kernel))
    (rowResponse 18 [0, 2, 0, 0, 0, 4, 50, 47, 49, 48, 255, 255, 255, 255] (by decide +kernel)
      (by decide +kernel))
  inRecovery := true
  replayLsn := some "2/10"
  replayTimestamp := none
  startup_accepts := startupResponse_accepts
  startup_rows := startupResponse_rows
  one_rows _ := by decide +kernel
  role_rows _ := by decide +kernel
  replay_rows _ := by decide +kernel

/-- A primary. -/
def plainPrimary : ProbeEndpoint where
  startup := startupResponse
  answer := responses oneResponse
    (rowResponse 11 [0, 1, 0, 0, 0, 1, 102] (by decide +kernel) (by decide +kernel))
    (rowResponse 14 [0, 2, 255, 255, 255, 255, 255, 255, 255, 255] (by decide +kernel)
      (by decide +kernel))
  inRecovery := false
  replayLsn := none
  replayTimestamp := none
  startup_accepts := startupResponse_accepts
  startup_rows := startupResponse_rows
  one_rows _ := by decide +kernel
  role_rows _ := by decide +kernel
  replay_rows _ := by decide +kernel

/-- The replica's startup and its answer to `SELECT 1` in one read, the answer to the second
question in two. -/
def readTogether : List ProbeInput := [.read 33 0, .read 7 0, .read 11 5, .read 25 6]

/-- The probe of the replica reports it as one. -/
theorem probe_attributes_readTogether :
    ∃ events, ((probeMachine plainReplica 1000).run (.start plainReplica) readTogether).map
        Prod.snd = some events ∧
      .ended (.observed ⟨.replica, some (PgLsn.fromParts 2 16), none, none, .unknown, 5⟩) ∈ events ∧
      ∀ o, .ended (.observed o) ∈ events → o.Of plainReplica := by
  have hrun : ((probeMachine plainReplica 1000).run (.start plainReplica) readTogether).map
      Prod.snd = some [.returned .one none, .asked .role [],
        .returned .role (some [some ("t" : Text)]), .asked .replay [],
        .returned .replay (some [some ("2/10" : Text), none]),
        .ended (.observed ⟨.replica, some (PgLsn.fromParts 2 16), none, none, .unknown, 5⟩)] := by
    decide +kernel
  obtain ⟨⟨st, events⟩, hresult, heq⟩ := map_eq_some_iff.1 hrun
  refine ⟨_, hrun, by simp, ?_⟩
  rw [← heq]
  obtain ⟨-, -, -, hright⟩ := probe_attributes_iff plainReplica 1000 hresult
  exact fun o ho => ((hright (by decide +kernel)).2 o ho).1

/-- **A primary that looks like a replica.** The startup is read on its own. The row of `SELECT 1`
then answers `pg_is_in_recovery()`, and a successful probe of a primary reports a replica, so that
a split-brain warning is published. -/
theorem primary_observed_as_replica :
    ((probeMachine plainPrimary 1000).run (.start plainPrimary)
        [.read 15 0, .read 36 5, .read 21 6]).map Prod.snd =
      some [.returned .one none, .asked .role oneResponse.bytes,
        .returned .role (some [some ("1" : Text)]), .asked .replay [],
        .returned .replay (some [none, none]),
        .ended (.observed ⟨.replica, none, none, none, .unknown, 5⟩)] ∧
    plainPrimary.inRecovery = false ∧
    plainPrimary.firstRow .role = some [some ("f" : Text)] ∧
    (probeOnce .primary {} (.observed ⟨.replica, none, none, none, .unknown, 5⟩)).role =
      ⟨.warning, some (.primary, .replica)⟩ := by
  refine ⟨by decide +kernel, rfl, by decide +kernel, by decide⟩

end PgKinetic
