import PgKinetic.Pool.Moves
import PgKinetic.Proxy.Startup

/-!
# Pass-through authentication

With `auth_mode = pass_through` the proxy knows no passwords: a client authenticates itself to
PostgreSQL, over the backend that its startup is relayed to. So a client may be told that it is
authenticated only by a backend, in an exchange with its own messages, and for that its startup
needs a backend that has not been started yet.

The machine of this module is a pool on which clients arrive. A startup checkout prefers to
connect on the default path, and on the shared path takes what `AllowConnect` gives it; the lease
then decides what the client sees. As long as **every startup checkout connects its own backend**
(`connectsOwn`), every transcript is genuine. When the pool is full, or the connection fails, a
startup checkout is content with an idle backend, and the client is admitted unseen.
-/

namespace PgKinetic

open EventMachine

namespace PassThrough

/-- What a checkout is for: the startup of a client, or a cycle of its session. -/
inductive Errand where
  | startup (client : Nat)
  | cycle (client : Nat)
  deriving DecidableEq, Repr

/-- Whether the checkout is one for the startup of a client. -/
def Errand.isStartup : Errand → Bool
  | .startup _ => true
  | .cycle _ => false

/-- The pool, and what its clients have sent to open their connections. -/
structure Config where
  pool : Pool.Config
  startupPacket : Nat → List Byte
  maxClientBufferBytes : Nat := 1048576
  maxBackendBufferBytes : Nat := 1048576

/-- The arguments of `proxy_startup_streams` in pass-through mode, which has no credentials. -/
def Config.request (cfg : Config) (client : Nat) : StartupRequest where
  startupPacket := cfg.startupPacket client
  maxClientBufferBytes := cfg.maxClientBufferBytes
  maxBackendBufferBytes := cfg.maxBackendBufferBytes
  forwardAuthRequests := true
  emitAuthOk := true

/-- The mode of a startup checkout: `complete_client_startup` prefers to connect,
`checkout_shared` does not. -/
def startupMode (shared : Bool) : Pool.CheckoutMode :=
  if shared then .allowConnect else .preferConnect

/-- An input: a client, the exchange of its startup on the backend it has leased, or anything
else that happens in the pool. -/
inductive Input where
  | arrive (client : Nat) (shared : Bool)
  | exchange (i : Nat) (parameterStatus : List BackendFrame)
    (clientReads backendReads : List StartupRead)
  | pool (input : Pool.Input Errand)

/-- What happens: in the pool, or between a client and its backend. -/
inductive Event where
  | pool (event : Pool.Event Errand)
  | exchanged (client : Nat) (wire : List StartupWire)
  deriving DecidableEq, Repr

abbrev State := Pool.PoolState Errand

/-- The inputs of the pool that are left to `arrive` and `exchange`. -/
def reservedInput (st : State) : Pool.Input Errand → Bool
  | .checkout errand _ _ => errand.isStartup
  | .task i (.startup _) => st.tasks[i]?.any fun t => t.owner.isStartup
  | _ => false

/-- The startup of a client on the backend that task `i` has leased for it. -/
def exchange (cfg : Config) (st : State) (i : Nat) (parameterStatus : List BackendFrame)
    (clientReads backendReads : List StartupRead) : Option (State × List Event) :=
  match st.tasks[i]? with
  | some ⟨.startup client, _, _, .leased _ requiresStartup⟩ =>
    let (wire, ok) := proxyStartupStreams (cfg.request client) requiresStartup parameterStatus
      clientReads backendReads
    (Pool.step cfg.pool st (.task i (.startup ok))).map fun (st, es) =>
      (st, .exchanged client wire :: es.map .pool)
  | _ => none

/-- One step. -/
def step (cfg : Config) (st : State) : Input → Option (State × List Event)
  | .arrive client shared =>
    (Pool.step cfg.pool st (.checkout (.startup client) (startupMode shared) shared)).map
      fun (st, es) => (st, es.map .pool)
  | .exchange i parameterStatus clientReads backendReads =>
    exchange cfg st i parameterStatus clientReads backendReads
  | .pool input =>
    if reservedInput st input then none
    else (Pool.step cfg.pool st input).map fun (st, es) => (st, es.map .pool)

/-- Clients on a pool, as a machine. -/
def machine (cfg : Config) : Machine State Input Event where
  step := step cfg

/-! ### Startups on a backend of their own -/

/-- **A startup checkout connects its own backend**: it takes none from the queue, and does not
connect where the lease will not say that it has. -/
def connectsOwn (st : State) : Input → Bool
  | .pool (.task i (.look locked _)) =>
    st.tasks[i]?.all fun t => !t.owner.isStartup || locked || st.store.idle.isEmpty
  | .pool (.task i .connected) =>
    st.tasks[i]?.all fun t => !t.owner.isStartup ||
      match t.place with
      | .connecting site _ => site.requiresStartup
      | _ => true
  | _ => true

/-- The backend of a startup that has its lease requires a startup. -/
def Fresh (t : Pool.Task Errand) : Prop :=
  t.owner.isStartup = true → ∀ conn requiresStartup, t.place = .leased conn requiresStartup →
    requiresStartup = true

variable {es : List (Pool.Event Errand)} {cfg : Config} {i : Nat} {st st' : State}

theorem fresh_of_move {action : Pool.Action} {t : Pool.Task Errand} {store : Pool.Store Errand}
    {place : Pool.Place Errand} (hown : connectsOwn st (.pool (.task i action)) = true)
    (ht : st.tasks[i]? = some t) (hmove : Pool.Move cfg.pool t st.store action store place es) :
    Fresh { t with place } := by
  rintro hstartup conn requiresStartup rfl
  cases hmove with
  | wander h h' => exact h'.elim
  | giveBack h h' => exact h'.elim
  | connect h => simpa [connectsOwn, ht, hstartup, h] using hown
  | take h hs => simp [connectsOwn, ht, hstartup, hs] at hown

/-- A step of the pool keeps the startups on backends of their own. -/
theorem fresh_of_poolStep {input : Pool.Input Errand} (hst : ∀ t ∈ st.tasks, Fresh t)
    (hown : connectsOwn st (.pool input) = true)
    (h : Pool.step cfg.pool st input = some (st', es)) : ∀ t ∈ st'.tasks, Fresh t := by
  intro u hu
  rcases Pool.mem_tasks_of_step h hu with hu | ⟨owner, mode, shared, -, rfl⟩ |
    ⟨i, action, t, store, place, rfl, ht, hmove, rfl⟩
  · exact hst u hu
  · rintro - conn requiresStartup hplace
    cases hplace
  · exact fresh_of_move hown ht hmove

/-- The transcript of an exchange is genuine. -/
def Event.Genuine (cfg : Config) : Event → Prop
  | .exchanged client wire => GenuineTranscript (cfg.startupPacket client) [] wire
  | .pool _ => True

theorem genuine_of_exchange {parameterStatus : List BackendFrame}
    {clientReads backendReads : List StartupRead} {es : List Event} (hst : ∀ t ∈ st.tasks, Fresh t)
    (h : exchange cfg st i parameterStatus clientReads backendReads = some (st', es)) :
    (∀ t ∈ st'.tasks, Fresh t) ∧ ∀ e ∈ es, e.Genuine cfg := by
  unfold exchange at h
  split at h
  · rename_i client mode shared conn requiresStartup ht
    -- a fresh backend is where the exchange is relayed and not made up
    obtain rfl : requiresStartup = true :=
      hst _ (List.mem_of_getElem? ht) rfl conn requiresStartup rfl
    obtain ⟨⟨st₁, es₁⟩, hstep, heq⟩ := Option.map_eq_some_iff.1 h
    cases heq
    refine ⟨fresh_of_poolStep hst rfl hstep, fun e he => ?_⟩
    rcases List.mem_cons.1 he with rfl | he
    · exact proxyStartupStreams_genuine rfl parameterStatus clientReads backendReads
    · obtain ⟨e, -, rfl⟩ := List.mem_map.1 he
      trivial
  · cases h

/-- **One step is genuine**, if startup checkouts connect their own backends. -/
theorem genuine_step {input : Input} {es : List Event} (hst : ∀ t ∈ st.tasks, Fresh t)
    (hown : connectsOwn st input = true) (h : step cfg st input = some (st', es)) :
    (∀ t ∈ st'.tasks, Fresh t) ∧ ∀ e ∈ es, e.Genuine cfg := by
  have hpool : ∀ input, connectsOwn st (.pool input) = true →
      (Pool.step cfg.pool st input).map (fun (st, es) => (st, es.map Event.pool)) =
        some (st', es) →
      (∀ t ∈ st'.tasks, Fresh t) ∧ ∀ e ∈ es, e.Genuine cfg := by
    intro input hown h
    obtain ⟨⟨st₁, es₁⟩, hstep, heq⟩ := Option.map_eq_some_iff.1 h
    cases heq
    refine ⟨fresh_of_poolStep hst hown hstep, fun e he => ?_⟩
    obtain ⟨e, -, rfl⟩ := List.mem_map.1 he
    trivial
  cases input with
  | arrive client shared =>
    exact hpool (.checkout (.startup client) (startupMode shared) shared) rfl h
  | exchange i parameterStatus clientReads backendReads => exact genuine_of_exchange hst h
  | pool input =>
    unfold step at h
    dsimp only at h
    split at h
    · cases h
    · exact hpool input hown h

/-- **A client is told that it is authenticated only by a backend it has authenticated itself
to**, in every run in which startup checkouts connect their own backends. -/
theorem genuine_of_connectsOwn (cfg : Config) (permits : Option Nat) (inputs : List Input)
    (st : State) (es : List Event)
    (hrun : (machine cfg).run (.initial permits) inputs = some (st, es))
    (hown : (machine cfg).Meets (fun st input => connectsOwn st input = true)
      (.initial permits) inputs)
    (client : Nat) (wire : List StartupWire) (hwire : .exchanged client wire ∈ es) :
    GenuineTranscript (cfg.startupPacket client) [] wire := by
  have hinit : ∀ t ∈ (Pool.PoolState.initial permits : State).tasks, Fresh t := by
    simp [Pool.PoolState.initial]
  obtain ⟨-, hes⟩ := (machine cfg).invariant_of_step (I := fun st => ∀ t ∈ st.tasks, Fresh t)
    (fun _ _ _ _ hst hown h => genuine_step hst hown h) hinit hrun hown
  exact hes _ hwire

/-! ### A pool of one backend -/

/-- Two clients with packets of their own, on a pool of one backend. -/
def onePool : Config where
  pool := ⟨1, 0⟩
  startupPacket client := [UInt8.ofNat client]

/-- AuthenticationOk and ReadyForQuery, as a backend without password sends them. -/
def trustedStartup : List Byte :=
  [BackendTag.authentication.byte, 0, 0, 0, 8, 0, 0, 0, 0] ++ readyForQuery .idle

/-- A client that arrives and is relayed to a backend connected for it. -/
def firstClient : List Input :=
  [.arrive 1 false, .pool (.task 0 .pass), .pool (.task 0 .proceed), .pool (.task 0 .proceed),
    .pool (.task 0 .connected), .exchange 0 [] [] [some trustedStartup],
    .pool (.task 0 .release), .pool (.task 0 .proceed)]

/-- The transcripts of a run. -/
def transcripts (es : List Event) : List (Nat × List StartupWire) :=
  es.filterMap fun
    | .exchanged client wire => some (client, wire)
    | .pool _ => none

/-- The transcript of the first client. -/
def firstTranscript : List StartupWire :=
  [.toBackend [1], .fromBackend authenticationOk, .toClient authenticationOk,
    .fromBackend readyForQueryIdle, .toClient (onePool.request 1).keyData,
    .toClient readyForQueryIdle]

theorem genuine_firstClient :
    ∃ st es, (machine onePool).run (.initial none) firstClient = some (st, es) ∧
      .exchanged 1 firstTranscript ∈ es ∧
      GenuineTranscript (onePool.startupPacket 1) [] firstTranscript := by
  have hrun : ((machine onePool).run (.initial none) firstClient).map
      (fun p => decide (.exchanged 1 firstTranscript ∈ p.2)) = some true := by decide +kernel
  obtain ⟨p, hp, hmem⟩ := Option.map_eq_some_iff.1 hrun
  have hmem := of_decide_eq_true hmem
  exact ⟨p.1, p.2, hp, hmem, genuine_of_connectsOwn onePool none firstClient p.1 p.2 hp
    (by decide +kernel) 1 firstTranscript hmem⟩

/-- **A second client is admitted without any exchange**: the pool is full, so its checkout takes
the idle backend of the first, and all it is sent is made up. -/
theorem second_client_admitted_unseen :
    ((machine onePool).run (.initial none) (firstClient ++
      [.arrive 2 false, .pool (.task 1 .pass), .pool (.task 1 .proceed),
        .pool (.task 1 (.look false false)), .exchange 1 [] [] []])).map
      (fun p => (transcripts p.2).getLast?) =
    some (some (2, [.toClient authenticationOk, .toClient (onePool.request 2).keyData,
      .toClient readyForQueryIdle])) := by
  decide +kernel

end PassThrough

end PgKinetic
