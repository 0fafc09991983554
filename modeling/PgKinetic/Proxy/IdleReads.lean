import PgKinetic.Proxy.RelayBytes

/-!
# Reads from a held backend while the client is idle

Between two cycles `handle_client` waits for the client and for the backend it holds, since a
backend may speak unprompted. What one read from the backend brings is written to the client as it
is and forgotten; it is not looked at, and it does not go through `backend_read`, the buffer in
which `forward_message_cycle` finds its frames.

So the parser of the next cycle **starts at a frame boundary** of the backend's stream only if those
reads, taken together, were whole frames, and if no cycle before them has left a part of a frame in
the buffer. The machine here runs the reads and the cycles of one held backend and records, for
every cycle, where its parser starts. What the session does between the cycles is left open: the
session and the catalog are given with each cycle.
-/

namespace PgKinetic

open EventMachine List

/-- The stream of a held backend, as far as the proxy has taken it. -/
structure HeldStream where
  backend : Backend
  /-- The bytes taken from the socket. -/
  taken : List Byte := []
  /-- `backend_read`: the part of a frame that the last cycle has left. -/
  backendRead : List Byte := []
  /-- How many bytes had been taken when the last cycle ended. -/
  cycleEnd : Nat := 0
  held : Bool := true
  deriving DecidableEq

/-- What `handle_client` does next with the backend it holds. -/
inductive HeldInput where
  /-- `IdleEvent::Backend(Ok(_))`: a read while the client is idle. -/
  | idleRead (bytes : List Byte)
  /-- `IdleEvent::Client(Some(_))`: a cycle that is forwarded. -/
  | cycle (session : VirtualSession) (prepared : PreparedCatalog) (frames : List FrontendMessage)
      (commands : List SqlCommand) (env : ForwardEnv)

namespace HeldStream

/-- The bytes forwarded verbatim since the last cycle. -/
def idle (s : HeldStream) : List Byte := s.taken.drop s.cycleEnd

/-- One turn of the loop of `handle_client` with a held backend. The event is the stream a cycle
starts on. A backend that has closed the connection, or whose cycle has not come to its end, is held
no longer. -/
def step (maxBuffer : Nat) (s : HeldStream) (input : HeldInput) :
    Option (HeldStream × List HeldStream) :=
  if !s.held then none
  else
    match input with
    | .idleRead bytes =>
      if bytes.isEmpty then some ({ s with held := false }, [])
      else some ({ s with taken := s.taken ++ bytes }, [])
    | .cycle session prepared frames commands env =>
      let fwd := forwardMessageCycle maxBuffer session prepared s.backend s.backendRead frames
        commands env
      let taken := s.taken ++
        forwardReceived maxBuffer session prepared s.backend s.backendRead frames commands env
      match fwd.result with
      | .ready _ | .flushed =>
        some (⟨fwd.backend, taken, fwd.backendRead, taken.length, true⟩, [s])
      | _ => some ({ s with held := false }, [s])

/-- The turns with a held backend. -/
def machine (maxBuffer : Nat) : Machine HeldStream HeldInput HeldStream := ⟨step maxBuffer⟩

/-! ### Frame boundaries -/

/-- Whole frames, and nothing behind them. -/
def WholeFrames (bytes : List Byte) : Prop := ∃ frames, parseBackendFrames bytes = .ok (frames, [])

instance (bytes : List Byte) : Decidable (WholeFrames bytes) :=
  match h : parseBackendFrames bytes with
  | .ok (frames, []) => .isTrue ⟨frames, h⟩
  | .ok (_, _ :: _) => .isFalse (by rintro ⟨_, h'⟩; rw [h] at h'; cases h')
  | .error _ => .isFalse (by rintro ⟨_, h'⟩; rw [h] at h'; cases h')

/-- **The parser starts at a frame boundary**: what is in `backend_read` are the last bytes that
were taken from the stream, and what was taken before them are whole frames. -/
def StartsAtBoundary (s : HeldStream) : Prop :=
  (s.backendRead = [] ∨ s.cycleEnd = s.taken.length) ∧
    WholeFrames (s.taken.take (s.taken.length - s.backendRead.length))

instance (s : HeldStream) : Decidable s.StartsAtBoundary := inferInstanceAs (Decidable (_ ∧ _))

/-- **Reads that keep the framing**: if anything was read while the client was idle, it was whole
frames, and no part of a frame was waiting for the rest. -/
def IdleReadsWhole (s : HeldStream) : Prop := s.idle = [] ∨ s.backendRead = [] ∧ WholeFrames s.idle

instance (s : HeldStream) : Decidable s.IdleReadsWhole := inferInstanceAs (Decidable (_ ∨ _))

/-- Whenever a cycle starts, the reads since the last one keep the framing. -/
def KeepsFraming (s : HeldStream) : HeldInput → Prop
  | .idleRead _ => True
  | .cycle .. => s.IdleReadsWhole

instance (s : HeldStream) : (input : HeldInput) → Decidable (s.KeepsFraming input)
  | .idleRead _ => .isTrue trivial
  | .cycle .. => inferInstanceAs (Decidable s.IdleReadsWhole)

/-- What the last cycle has left: the frames of the stream up to its end, and the part of a frame
behind them in the buffer. -/
structure CycleEnded (s : HeldStream) : Prop where
  le : s.cycleEnd ≤ s.taken.length
  parses : ∃ frames, parseBackendFrames (s.taken.take s.cycleEnd) = .ok (frames, s.backendRead)

variable {s : HeldStream}

/-- What is taken up to the end of a cycle are whole frames and the buffer. -/
theorem CycleEnded.exists_whole (h : s.CycleEnded) :
    ∃ bytes, s.taken.take s.cycleEnd = bytes ++ s.backendRead ∧ WholeFrames bytes := by
  obtain ⟨frames, hparse⟩ := h.parses
  obtain ⟨bytes, hbytes, hwhole⟩ := exists_of_parseBackendFrames hparse
  exact ⟨bytes, hbytes, frames, hwhole⟩

theorem wholeFrames_append_iff {bytes more : List Byte} (h : WholeFrames bytes) :
    WholeFrames (bytes ++ more) ↔ WholeFrames more := by
  obtain ⟨frames, hframes⟩ := h
  have happend := parseBackendFrames_append hframes more
  rw [nil_append] at happend
  constructor
  · rintro ⟨all, hall⟩
    rw [hall] at happend
    cases hmore : parseBackendFrames more with
    | error e =>
      rw [hmore] at happend
      cases happend
    | ok later =>
      rw [hmore] at happend
      obtain ⟨-, hrest⟩ := Prod.mk.inj (Except.ok.inj happend)
      exact ⟨later.1, hmore.trans (congrArg Except.ok (Prod.ext rfl hrest.symm))⟩
  · rintro ⟨later, hlater⟩
    rw [hlater] at happend
    exact ⟨frames ++ later, happend⟩

theorem take_append_idle (s : HeldStream) : s.taken.take s.cycleEnd ++ s.idle = s.taken :=
  take_append_drop _ _

theorem idle_eq_nil_iff (h : s.CycleEnded) : s.idle = [] ↔ s.cycleEnd = s.taken.length := by
  rw [idle, drop_eq_nil_iff]
  exact ⟨fun hle => le_antisymm h.le hle, fun heq => heq.ge⟩

/-- **Where the next parser starts**, if all was well when the last cycle ended. -/
theorem startsAtBoundary_iff (h : s.CycleEnded) : s.StartsAtBoundary ↔ s.IdleReadsWhole := by
  obtain ⟨bytes, hbytes, hwhole⟩ := h.exists_whole
  have htaken : s.taken = bytes ++ (s.backendRead ++ s.idle) := by
    rw [← append_assoc, ← hbytes, take_append_idle]
  rw [StartsAtBoundary, IdleReadsWhole, ← idle_eq_nil_iff h]
  by_cases hidle : s.idle = []
  · -- nothing was read: the parser goes on where the last one has stopped
    refine iff_of_true ⟨.inr hidle, ?_⟩ (.inl hidle)
    rw [hidle, append_nil] at htaken
    rw [htaken, length_append, Nat.add_sub_cancel, take_left]
    exact hwhole
  · by_cases hbuffer : s.backendRead = []
    · rw [hbuffer, nil_append] at htaken
      rw [hbuffer, length_nil, Nat.sub_zero, take_length, htaken, wholeFrames_append_iff hwhole]
      exact ⟨fun hmore => .inr ⟨rfl, hmore.2⟩, fun hor => ⟨.inl rfl, (hor.resolve_left hidle).2⟩⟩
    · exact iff_of_false (fun hor => hor.1.elim hbuffer hidle)
        (fun hor => hor.elim hidle fun hand => hbuffer hand.1)

/-! ### Turns and runs -/

/-- The start of a backend that has said nothing yet. -/
def fresh (backend : Backend) : HeldStream := { backend }

theorem cycleEnded_fresh (backend : Backend) : (fresh backend).CycleEnded := ⟨le_rfl, [], rfl⟩

variable {t : HeldStream} {maxBuffer : Nat} {starts : List HeldStream}

theorem step_cycle_eq_some {session : VirtualSession} {prepared : PreparedCatalog}
    {frames : List FrontendMessage} {commands : List SqlCommand} {env : ForwardEnv}
    (h : s.step maxBuffer (.cycle session prepared frames commands env) = some (t, starts)) :
    let fwd := forwardMessageCycle maxBuffer session prepared s.backend s.backendRead frames
      commands env
    let taken := s.taken ++
      forwardReceived maxBuffer session prepared s.backend s.backendRead frames commands env
    starts = [s] ∧ (t.held = true → ¬fwd.result.RefusesBytes ∧
      t = ⟨fwd.backend, taken, fwd.backendRead, taken.length, true⟩) := by
  intro fwd taken
  rw [step] at h
  split at h
  · cases h
  · dsimp only at h
    split at h
    · next status hresult =>
      cases h
      refine ⟨rfl, fun _ => ⟨?_, rfl⟩⟩
      rintro (hrefuses | hrefuses) <;> cases hresult.symm.trans hrefuses
    · next hresult =>
      cases h
      refine ⟨rfl, fun _ => ⟨?_, rfl⟩⟩
      rintro (hrefuses | hrefuses) <;> cases hresult.symm.trans hrefuses
    · cases h
      exact ⟨rfl, nofun⟩

theorem held_of_step {input : HeldInput} (h : s.step maxBuffer input = some (t, starts)) :
    s.held = true := by
  unfold step at h
  split at h
  · cases h
  · next hheld => simpa using hheld

/-- The stream up to now are whole frames and the buffer, if the framing was kept. -/
theorem IdleReadsWhole.parses (h : s.CycleEnded) (hidle : s.IdleReadsWhole) :
    ∃ frames, parseBackendFrames s.taken = .ok (frames, s.backendRead) := by
  obtain ⟨frames, hframes⟩ := h.parses
  rw [← take_append_idle s]
  rcases hidle with hnone | ⟨hbuffer, later, hlater⟩
  · rw [hnone, append_nil]
    exact ⟨frames, hframes⟩
  · rw [parseBackendFrames_append hframes, hbuffer, nil_append, hlater]
    exact ⟨_, rfl⟩

theorem parse_backendRead (h : s.CycleEnded) :
    parseBackendFrames s.backendRead = .ok ([], s.backendRead) := by
  obtain ⟨frames, hframes⟩ := h.parses
  exact parseBackendFrames_rest hframes

/-- **A turn.** A cycle starts at a frame boundary exactly if the reads before it kept the framing,
and then all is well when it ends and the backend is held. -/
theorem step_framing {input : HeldInput} (hended : s.held = true → s.CycleEnded)
    (hstep : (machine maxBuffer).step s input = some (t, starts)) :
    (s.KeepsFraming input ↔ ∀ start ∈ starts, start.StartsAtBoundary) ∧
      (s.KeepsFraming input → t.held = true → t.CycleEnded) := by
  have hheld := held_of_step hstep
  have h := hended hheld
  cases input with
  | idleRead bytes =>
    change s.step maxBuffer (.idleRead bytes) = _ at hstep
    rw [step, hheld, if_neg (by decide)] at hstep
    split at hstep
    · cases hstep
      exact ⟨⟨fun _ => nofun, fun _ => trivial⟩, fun _ => nofun⟩
    · cases hstep
      refine ⟨⟨fun _ => nofun, fun _ => trivial⟩, fun _ _ => ⟨?_, ?_⟩⟩
      · rw [length_append]
        exact h.le.trans (Nat.le_add_right _ _)
      · rw [take_append_of_le_length h.le]
        exact h.parses
  | cycle session prepared frames commands env =>
    obtain ⟨rfl, hafter⟩ := step_cycle_eq_some hstep
    constructor
    · rw [forall_mem_singleton]
      exact (startsAtBoundary_iff h).symm
    · intro hkeeps hheld
      obtain ⟨haccepts, rfl⟩ := hafter hheld
      refine ⟨le_rfl, ?_⟩
      obtain ⟨before, hbefore⟩ := IdleReadsWhole.parses h hkeeps
      rcases @forward_received session prepared commands frames maxBuffer s.backend s.backendRead
        env (parse_backendRead h) with hrefuses | ⟨seen, hseen, -⟩
      · exact absurd hrefuses haccepts
      · rw [take_length, parseBackendFrames_append hbefore, hseen]
        exact ⟨_, rfl⟩

/-- **Asynchronous messages and framing.** In a run with a held backend, the parser of every cycle
starts at a frame boundary exactly if, whenever a cycle starts, the bytes forwarded since the last
one are whole frames and none was forwarded behind a part of a frame. -/
theorem framing_iff (maxBuffer : Nat) (backend : Backend) {inputs : List HeldInput} {t : HeldStream}
    {starts : List HeldStream}
    (hrun : (machine maxBuffer).run (fresh backend) inputs = some (t, starts)) :
    (∀ start ∈ starts, start.StartsAtBoundary) ↔
      (machine maxBuffer).Meets KeepsFraming (fresh backend) inputs :=
  ((machine maxBuffer).meets_iff_of_step (fun _ _ _ _ => step_framing)
    (fun _ => cycleEnded_fresh backend) hrun).symm

/-- A cycle that listens on a channel, on an idle backend. -/
def listenCycle : HeldInput :=
  .cycle {} (.new 1) [.query "LISTEN c"] [.listen]
    ⟨.done, [.backendRead (readyForQuery .idle) .done]⟩

/-- A notification on the channel. -/
def notification : List Byte := [65, 0, 0, 0, 11, 0, 0, 0, 1, 99, 0, 0]

/-- A notification that two reads bring before the next cycle. -/
theorem framing_of_notification :
    ∃ t starts, (machine 4096).run (fresh ⟨7, .idle⟩)
        [listenCycle, .idleRead (notification.take 3), .idleRead (notification.drop 3),
          listenCycle] = some (t, starts) ∧
      starts.length = 2 ∧ ∀ start ∈ starts, start.StartsAtBoundary := by
  have hrun : ((machine 4096).run (fresh ⟨7, .idle⟩)
      [listenCycle, .idleRead (notification.take 3), .idleRead (notification.drop 3),
        listenCycle]).map (fun p => p.2.length) = some 2 := by decide +kernel
  obtain ⟨⟨t, starts⟩, hrun, hlength⟩ := Option.map_eq_some_iff.1 hrun
  exact ⟨t, starts, hrun, hlength, (framing_iff 4096 ⟨7, .idle⟩ hrun).2 (by decide +kernel)⟩

/-- **A notification cut by the next cycle**: its first bytes are forwarded while the client is
idle, and the parser of the cycle starts inside it. -/
theorem framing_lost :
    ((machine 4096).run (fresh ⟨7, .idle⟩)
        [listenCycle, .idleRead (notification.take 3), listenCycle]).map
      (fun p => p.2.map fun start => decide start.StartsAtBoundary) = some [true, false] := by
  decide +kernel

end HeldStream

end PgKinetic
