import PgKinetic.Proxy.AwaitReady

/-!
# What a recovery leaves on the connection

`recover_backend` is called in the middle of a response: the client has gone, or the time of the
query is up. The backend still owes a ReadyForQuery for every Query and every Sync of the cycle
that it has not answered, and for what the recovery itself sends: a `Sync` if the cycle had any
frame that is no Query, whether or not it had a Sync of its own, or a `ROLLBACK`. The recovery
waits once, and the wait returns with the first read that holds a ReadyForQuery.

The wait starts with an empty buffer, wherever the responses have been read up to: if that is in
the middle of a frame, it takes the rest of the frame for frames.
-/

namespace PgKinetic

open Framing

/-! ### The recovery, read by read -/

/-- The message is answered with a ReadyForQuery. -/
def owesReady (message : FrontendMessage) : Bool :=
  message.tag == some .query || message.tag == some .sync

/-- The responses a backend owes for messages, each up to its ReadyForQuery. -/
structure OwedResponses (messages : List FrontendMessage) where
  responses : List BatchResponse
  length_eq : responses.length = messages.countP owesReady

namespace OwedResponses

variable {messages : List FrontendMessage} (owed : OwedResponses messages)

/-- What is on the connection once that many bytes have been read. -/
def unreadFrom (taken : Nat) : List Byte := (replyStream owed.responses).drop taken

/-- The part that has been read ends with a frame. -/
def EndsOnFrame (taken : Nat) : Prop :=
  ∃ frames, parseBackendFrames ((replyStream owed.responses).take taken) = .ok (frames, [])

/-- The status of the backend once it has answered everything. -/
def finalStatus : Option ReadyStatus := owed.responses.getLast?.map BatchResponse.status

end OwedResponses

/-- The waits of a recovery, one behind the other: the replies they come to before the time is up,
and the reads they leave. -/
def awaitBatches (maxBackendBufferBytes : Nat) :
    Nat → List BackendRead → List BatchReply × List BackendRead
  | 0, reads => ([], reads)
  | n + 1, reads =>
    match awaitReadyStatus maxBackendBufferBytes reads with
    | .inl _ => ([], [])
    | .inr (.ok .idle, unread) =>
      let later := awaitBatches maxBackendBufferBytes n unread
      (.ready .idle :: later.1, later.2)
    | .inr (result, unread) => ([batchReply result], unread)

/-- The number of waits of an action. -/
def RecoveryAction.waits : RecoveryAction → Nat
  | .none | .discard => 0
  | .rollback | .drainAndSync => 1
  | .rollbackAndDrain => 2

/-- `recover_backend` on the reads to come, and the reads it leaves. -/
def recoverOnReads (trigger : RecoveryTrigger) (mode : RecoveryMode) (session : VirtualSession)
    (backend : Backend) (maxBackendBufferBytes : Nat) (reads : List BackendRead) :
    Except BatchError Recovered × List BackendRead :=
  let replies := awaitBatches maxBackendBufferBytes (recoveryAction trigger mode).waits reads
  (recoverBackend trigger mode session backend replies.1, replies.2)

/-! ### One wait -/

variable {trigger : RecoveryTrigger} {mode : RecoveryMode} {session : VirtualSession}
  {backend : Backend} {maxBytes : Nat} {reads unread : List BackendRead} {recovered : Recovered}

/-- A recovery that succeeds has waited exactly once, and for `Idle`. -/
theorem await_of_recoverOnReads
    (h : recoverOnReads trigger mode session backend maxBytes reads = (.ok recovered, unread))
    (hreuse : recovered.reuse = true) :
    awaitReadyStatus maxBytes reads = .inr (.ok .idle, unread) := by
  have hone : ∀ onSuccess : VirtualSession,
      recoverWith session onSuccess 1 backend (awaitBatches maxBytes 1 reads).1 = .ok recovered →
      (awaitBatches maxBytes 1 reads).2 = unread →
      awaitReadyStatus maxBytes reads = .inr (.ok .idle, unread) := by
    intro onSuccess hrecover hunread
    unfold awaitBatches at hrecover hunread
    split at hrecover
    · obtain rfl := Except.ok.inj hrecover
      cases hreuse
    · rename_i left hawait
      rw [hawait] at hunread ⊢
      obtain rfl : left = unread := hunread
      rfl
    · rename_i result left hidle hawait
      exfalso
      unfold recoverWith at hrecover
      split at hrecover
      · rename_i hidleReply
        exact hidle (eq_idle_of_executeToIdle hidleReply)
      · obtain rfl := Except.ok.inj hrecover
        cases hreuse
      · cases hrecover
  obtain ⟨hrecover, hunread⟩ := Prod.mk.inj h
  -- the policy knows one wait, or gives up
  cases mode <;> cases trigger <;>
    first
      | exact hone _ hrecover hunread
      | (obtain rfl := Except.ok.inj hrecover; cases hreuse)

/-! ### The balance of a recovery -/

variable {frames : List FrontendMessage} {needsSync : Bool} {taken : Nat}
  {chunks : List (List Byte)}

/-- All that was on the connection has been read in whole frames, and the last status seen is that
of the backend in the end. -/
theorem finalStatus_of_await {messages : List FrontendMessage} (owed : OwedResponses messages)
    (hsplit : chunks.flatten = owed.unreadFrom taken) (haligned : owed.EndsOnFrame taken)
    {status : ReadyStatus}
    (h : awaitReadyStatus maxBytes (chunks.map some) = .inr (.ok status, [])) :
    owed.finalStatus = some status := by
  obtain ⟨read, left, seen, rest, rfl, hleft, hparse, hstatus⟩ := await_ok h
  obtain rfl : left = [] := List.map_eq_nil_iff.1 hleft.symm
  rw [List.append_nil] at hsplit
  obtain ⟨first, hfirst⟩ := haligned
  have hwhole := parse_replyStream owed.responses
  rw [← List.take_append_drop taken (replyStream owed.responses),
    parseBackendFrames_append hfirst, List.nil_append] at hwhole
  rw [OwedResponses.unreadFrom] at hsplit
  rw [← hsplit, hparse] at hwhole
  obtain ⟨hframes, -⟩ := Prod.mk.inj (Except.ok.inj hwhole)
  rw [OwedResponses.finalStatus, ← lastReady_flatMap, ← hframes, lastReady_append, hstatus]
  rfl

/-- **When a recovery leaves the backend synchronised.** Whatever the cycle, the point at which it
was left and the division of the replies into reads: when `recover_backend` answers that the
backend may be reused, all that the backend owes has been read and the backend is `Idle` in the
end, exactly if the reads before the last hold no ReadyForQuery, and the responses had been read up
to the end of a frame or the backend is `Idle` in the end anyway. -/
theorem recover_synchronised_iff
    (owed : OwedResponses (frames ++ recoveryMessages trigger mode needsSync))
    (hsplit : chunks.flatten = owed.unreadFrom taken)
    (h : recoverOnReads trigger mode session backend maxBytes (chunks.map some) =
      (.ok recovered, unread))
    (hreuse : recovered.reuse = true) :
    (unread = [] ∧ owed.finalStatus = some .idle) ↔
      QuietBefore chunks ∧ (owed.EndsOnFrame taken ∨ owed.finalStatus = some .idle) := by
  have hawait := await_of_recoverOnReads h hreuse
  rw [await_unread_eq_nil_iff hawait]
  refine and_congr_right fun hquiet => ⟨.inr, fun hor => ?_⟩
  rcases hor with haligned | hidle
  · have hunread := (await_unread_eq_nil_iff hawait).2 hquiet
    exact finalStatus_of_await owed hsplit haligned (hunread ▸ hawait)
  · exact hidle

/-- An extended cycle with its Sync. -/
def syncedCycle : List FrontendMessage := [.parse "" "select 1" [], .bind "", .execute, .sync]

/-- The response of the cycle and that of the Sync of the recovery. -/
def syncedTwice : OwedResponses
    (syncedCycle ++ recoveryMessages .abandonedResponse .recover
      (FrontendCycleShape.fromFrames syncedCycle).needsSync) where
  responses := [setResponse,
    { bytes := readyForQuery .idle
      frames := []
      ready := ⟨90, [73]⟩
      status := .idle
      parses := by decide +kernel
      ready_status := readyStatus_idle
      not_ready := nofun }]
  length_eq := by decide +kernel

/-- The client has gone after CommandComplete, and both ReadyForQuery frames arrive in one read. -/
theorem recover_synchronised_readTogether :
    (recoverOnReads .abandonedResponse .recover {} ⟨7, .idle⟩ 1024
      [some (readyForQuery .idle ++ readyForQuery .idle)]).2 = [] ∧
      syncedTwice.finalStatus = some .idle := by
  have hrun : recoverOnReads .abandonedResponse .recover {} ⟨7, .idle⟩ 1024
      ([readyForQuery .idle ++ readyForQuery .idle].map some) =
        (.ok ⟨true, ⟨7, .idle⟩, {}⟩, []) := rfl
  have hsplit : [readyForQuery .idle ++ readyForQuery .idle].flatten =
      syncedTwice.unreadFrom 9 := by decide +kernel
  have hquiet : QuietBefore [readyForQuery .idle ++ readyForQuery .idle] := ⟨[], [], rfl, rfl⟩
  have haligned : syncedTwice.EndsOnFrame 9 := ⟨[⟨67, [83, 69, 84, 0]⟩], by decide +kernel⟩
  have hboth := (recover_synchronised_iff syncedTwice hsplit hrun rfl).2 ⟨hquiet, .inl haligned⟩
  exact ⟨rfl, hboth.2⟩

/-- **A Sync too many.** The cycle had a Sync, and the recovery sends another. The response of the
cycle arrives in a read of its own: the backend may be reused, and the ReadyForQuery of the second
Sync is on the connection. -/
theorem recovered_with_unread_ready :
    (FrontendCycleShape.fromFrames syncedCycle).needsSync = true ∧
    recoverOnReads .abandonedResponse .recover {} ⟨7, .idle⟩ 1024
        [some (readyForQuery .idle), some (readyForQuery .idle)] =
      (.ok ⟨true, ⟨7, .idle⟩, {}⟩, [some (readyForQuery .idle)]) ∧
    [readyForQuery .idle, readyForQuery .idle].flatten = syncedTwice.unreadFrom 9 := by
  exact ⟨by decide, rfl, by decide +kernel⟩

end PgKinetic
