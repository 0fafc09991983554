import PgKinetic.Security.Scram
import PgKinetic.Wire.Stream

/-!
# Reading the messages of a client that authenticates

`read_authentication_frame` reads one frame into a buffer of its own, and gives up when the buffer
grows beyond `max_client_buffer_bytes`. So a message is read whatever its division into reads,
exactly if it fits into the buffer (`Link.read_iff`).
-/

namespace PgKinetic

open Fallible Framing Scram List Option

namespace ClientAuth

/-- `FrontendFrame`, with its bytes. -/
structure FrontendFrame where
  tag : Byte
  payload : List Byte
  deriving DecidableEq, Repr

/-- The text of a wire error, where the length of a frame is that of a frontend frame. -/
def wireErrorText : WireError → Text
  | .invalidBackendFrameLength length =>
    "frontend frame length is invalid: " ++ (toString length).toList
  | .incompleteFrame => "frontend frame is incomplete"
  | .invalidUtf8 => "startup packet contains invalid utf-8"

/-- `parse_frontend_frame`, which is `parse_backend_frame` but for its error. -/
def parseFrontendFrame (buffer : List Byte) : Except Text (Option (FrontendFrame × List Byte)) :=
  match parseBackendFrame buffer with
  | .ok (some (frame, rest)) => .ok (some (⟨frame.tag, frame.payload⟩, rest))
  | .ok none => .ok none
  | .error e => .error (wireErrorText e)

/-- `read_authentication_frame`, on its buffer and the reads that follow: the frame, and the reads
after it. What a read has brought beyond the frame is lost with the buffer, and a stream that has
ended reads nothing. -/
def readAuthenticationFrame (maxClientBufferBytes : Nat) :
    (buffer : List Byte) → (reads : List (List Byte)) →
      Except Text (FrontendFrame × List (List Byte))
  | buffer, reads => do
    match ← parseFrontendFrame buffer with
    | some (frame, _) => pure (frame, reads)
    | none =>
      ensure (buffer.length < maxClientBufferBytes)
        "client authentication message exceeded buffer limit"
      match reads with
      | [] => .error "client disconnected during authentication"
      | bytes :: reads =>
        ensure (0 < bytes.length) "client disconnected during authentication"
        ensure ((buffer ++ bytes).length ≤ maxClientBufferBytes)
          "client authentication message exceeded buffer limit"
        readAuthenticationFrame maxClientBufferBytes (buffer ++ bytes) reads

/-- A connection: the limit of the buffer it is read into, and how the bytes that are sent over it
are divided into reads. -/
structure Link where
  maxClientBufferBytes : Nat
  division : List Byte → List (List Byte)
  whole : ∀ bytes, (division bytes).flatten = bytes
  nonempty : ∀ bytes, ∀ read ∈ division bytes, 0 < read.length

/-- A message is a frame, if its length fits. -/
theorem parseBackendFrame_message {tag : Byte} {payload : List Byte}
    (h : payload.length + 4 < 2 ^ 31) :
    parseBackendFrame (tag :: i32ToBytes (payload.length + 4) ++ payload) =
      .ok (some (⟨tag, payload⟩, [])) := by
  have hlength := i32FromBytes_toBytes h
  rw [i32ToBytes]
  simp only [cons_append, nil_append, parseBackendFrame]
  rw [hlength, if_neg (by omega)]
  have hpayload : (((payload.length + 4 : Nat) : Int) - 4).toNat = payload.length := by omega
  rw [hpayload, if_neg (Nat.lt_irrefl _), take_length, drop_length]

section

variable {max : Nat} {buffer message : List Byte} {reads more : List (List Byte)}
  {frame : BackendFrame}

/-- The first part of a message is no frame, or the whole message. -/
theorem parseFrontendFrame_part (hmessage : parseBackendFrame message = .ok (some (frame, [])))
    {rest : List Byte} (hparts : buffer ++ rest = message) :
    parseFrontendFrame buffer = .ok none ∨
      rest = [] ∧ parseFrontendFrame buffer = .ok (some (⟨frame.tag, frame.payload⟩, [])) := by
  unfold parseFrontendFrame
  subst hparts
  cases hbuffer : parseBackendFrame buffer with
  | error e =>
    have hwhole := backendCutter.append_error rest hbuffer
    cases hmessage.symm.trans hwhole
  | ok result =>
    cases result with
    | none => exact .inl rfl
    | some result =>
      obtain ⟨frame', behind⟩ := result
      have hwhole := backendCutter.append_frame rest hbuffer
      obtain ⟨rfl, hnil⟩ := Prod.mk.inj (some.inj (Except.ok.inj (hmessage.symm.trans hwhole)))
      obtain ⟨rfl, rfl⟩ := append_eq_nil_iff.1 hnil.symm
      exact .inr ⟨rfl, rfl⟩

/-- **A message is read whatever its division into reads**, exactly if it fits into the buffer. -/
theorem readAuthenticationFrame_iff (hmessage : parseBackendFrame message = .ok (some (frame, [])))
    (hreads : ∀ read ∈ reads, 0 < read.length) (hparts : buffer ++ reads.flatten = message)
    (hbuffer : buffer.length ≤ max) {result : FrontendFrame × List (List Byte)} :
    readAuthenticationFrame max buffer (reads ++ more) = .ok result ↔
      message.length ≤ max ∧ result = (⟨frame.tag, frame.payload⟩, more) := by
  induction reads generalizing buffer with
  | nil =>
    rw [flatten_nil, append_nil] at hparts
    rw [nil_append]
    subst hparts
    rcases parseFrontendFrame_part hmessage (append_nil buffer) with hnone | ⟨-, hsome⟩
    · unfold parseFrontendFrame at hnone
      rw [hmessage] at hnone
      cases hnone
    · rw [readAuthenticationFrame.eq_def]
      dsimp only
      rw [hsome]
      exact ⟨fun h => ⟨hbuffer, (Except.ok.inj h).symm⟩, fun h => congrArg Except.ok h.2.symm⟩
  | cons bytes reads ih =>
    have hbytes : 0 < bytes.length := hreads bytes mem_cons_self
    rw [flatten_cons] at hparts
    have hlength : message.length = buffer.length + (bytes.length + reads.flatten.length) := by
      rw [← hparts, length_append, length_append]
    have hnone : parseFrontendFrame buffer = .ok none := by
      rcases parseFrontendFrame_part hmessage hparts with hnone | ⟨hnil, -⟩
      · exact hnone
      · obtain ⟨rfl, -⟩ := append_eq_nil_iff.1 hnil
        exact absurd hbytes (Nat.lt_irrefl _)
    have hih := ih (fun read hread => hreads read (mem_cons_of_mem _ hread))
      ((append_assoc buffer bytes _).trans hparts)
    rw [cons_append, readAuthenticationFrame, hnone]
    constructor
    · intro h
      obtain ⟨_, hok, h⟩ := bind_eq_ok_iff.1 h
      obtain rfl := Except.ok.inj hok
      obtain ⟨_, -, h⟩ := bind_eq_ok_iff.1 h
      obtain ⟨_, -, h⟩ := bind_eq_ok_iff.1 h
      obtain ⟨_, hfits, h⟩ := bind_eq_ok_iff.1 h
      exact (hih (of_decide_eq_true (ensure_eq_ok_iff.1 hfits))).1 h
    · intro h
      have hroom : buffer.length < max := by omega
      have hfits : (buffer ++ bytes).length ≤ max := by
        rw [length_append]
        omega
      refine bind_eq_ok_iff.2 ⟨none, rfl, ?_⟩
      refine bind_eq_ok_iff.2 ⟨(), ensure_eq_ok_iff.2 (decide_eq_true hroom), ?_⟩
      refine bind_eq_ok_iff.2 ⟨(), ensure_eq_ok_iff.2 (decide_eq_true hbytes), ?_⟩
      refine bind_eq_ok_iff.2 ⟨(), ensure_eq_ok_iff.2 (decide_eq_true hfits), ?_⟩
      exact (hih hfits).2 h

end

/-- **What is read** of a password message, before what comes after it. -/
theorem Link.read_iff (link : Link) {payload : List Byte} (h : payload.length + 4 < 2 ^ 31)
    {more : List (List Byte)} {result : FrontendFrame × List (List Byte)} :
    readAuthenticationFrame link.maxClientBufferBytes []
        (link.division (passwordMessage payload) ++ more) = .ok result ↔
      (passwordMessage payload).length ≤ link.maxClientBufferBytes ∧
        result = (⟨passwordMessageTag, payload⟩, more) :=
  readAuthenticationFrame_iff (parseBackendFrame_message h) (link.nonempty _) (link.whole _)
    (Nat.zero_le _)

/-- A connection that delivers every byte in a read of its own. -/
def bytewise (maxClientBufferBytes : Nat) : Link where
  maxClientBufferBytes := maxClientBufferBytes
  division bytes := bytes.map ([·])
  whole bytes := by
    exact flatMap_singleton' bytes
  nonempty bytes read hread := by
    obtain ⟨b, -, rfl⟩ := mem_map.1 hread
    exact Nat.one_pos

/-- `BufferDefaults::MAX_CLIENT_BUFFER_BYTES`. -/
def defaultMaxClientBufferBytes : Nat := 1048576

end ClientAuth

end PgKinetic
