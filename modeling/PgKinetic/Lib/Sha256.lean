import Mathlib.Data.Vector.Basic

/-!
# SHA-256 and HMAC

The two functions on lists of bytes, after FIPS 180-4 and RFC 2104. They are here to be evaluated:
words are natural numbers below `2 ^ 32`, and `evaluated` has each of them computed once.
-/

namespace Sha256



/-- A word of 32 bits. -/
def word (n : Nat) : Nat := n % 2 ^ 32

/-- A word twice over, which a shift to the right turns into its rotation. -/
def twice (x : Nat) : Nat := x * (2 ^ 32 + 1)

/-- A function of a number that is computed first. -/
def evaluated {α : Type} (n : Nat) (f : Nat → α) : α :=
  match n with
  | 0 => f 0
  | m + 1 => f (m + 1)

/-- The constants of the rounds. -/
def roundConstants : List Nat :=
  [0x428a2f98, 0x71374491, 0xb5c0fbcf, 0xe9b5dba5, 0x3956c25b, 0x59f111f1, 0x923f82a4, 0xab1c5ed5,
   0xd807aa98, 0x12835b01, 0x243185be, 0x550c7dc3, 0x72be5d74, 0x80deb1fe, 0x9bdc06a7, 0xc19bf174,
   0xe49b69c1, 0xefbe4786, 0x0fc19dc6, 0x240ca1cc, 0x2de92c6f, 0x4a7484aa, 0x5cb0a9dc, 0x76f988da,
   0x983e5152, 0xa831c66d, 0xb00327c8, 0xbf597fc7, 0xc6e00bf3, 0xd5a79147, 0x06ca6351, 0x14292967,
   0x27b70a85, 0x2e1b2138, 0x4d2c6dfc, 0x53380d13, 0x650a7354, 0x766a0abb, 0x81c2c92e, 0x92722c85,
   0xa2bfe8a1, 0xa81a664b, 0xc24b8b70, 0xc76c51a3, 0xd192e819, 0xd6990624, 0xf40e3585, 0x106aa070,
   0x19a4c116, 0x1e376c08, 0x2748774c, 0x34b0bcb5, 0x391c0cb3, 0x4ed8aa4a, 0x5b9cca4f, 0x682e6ff3,
   0x748f82ee, 0x78a5636f, 0x84c87814, 0x8cc70208, 0x90befffa, 0xa4506ceb, 0xbef9a3f7, 0xc67178f2]

/-- The state before the first block. -/
def initialState : List Nat :=
  [0x6a09e667, 0xbb67ae85, 0x3c6ef372, 0xa54ff53a, 0x510e527f, 0x9b05688c, 0x1f83d9ab, 0x5be0cd19]

/-- The rounds of a block, with the constants to come, the next sixteen words of the schedule and
the working variables. -/
def rounds : List Nat → List Nat → (a b c d e f g h : Nat) → List Nat
  | k :: ks, w :: ws, a, b, c, d, e, f, g, h =>
    let sum₁ := twice e >>> 6 ^^^ twice e >>> 11 ^^^ twice e >>> 25
    let choice := (e &&& f) ^^^ ((e ^^^ 0xffffffff) &&& g)
    let sum₀ := twice a >>> 2 ^^^ twice a >>> 13 ^^^ twice a >>> 22
    let majority := (a &&& b) ^^^ (a &&& c) ^^^ (b &&& c)
    let w₁ := ws.getD 0 0
    let w₁₄ := ws.getD 13 0
    let small₀ := twice w₁ >>> 7 ^^^ twice w₁ >>> 18 ^^^ w₁ >>> 3
    let small₁ := twice w₁₄ >>> 17 ^^^ twice w₁₄ >>> 19 ^^^ w₁₄ >>> 10
    evaluated (word (h + word sum₁ + choice + k + w)) fun t =>
    evaluated (word (t + word sum₀ + majority)) fun a' =>
    evaluated (word (d + t)) fun e' =>
    evaluated (word (w + word small₀ + ws.getD 8 0 + word small₁)) fun w' =>
    rounds ks (ws ++ [w']) a' a b c e' e f g
  | _, _, a, b, c, d, e, f, g, h => [a, b, c, d, e, f, g, h]

/-- One block. -/
def compress (state block : List Nat) : List Nat :=
  match state with
  | [a, b, c, d, e, f, g, h] =>
    (rounds roundConstants block a b c d e f g h).zipWith (fun x y => word (x + y)) state
  | _ => state

/-- All blocks of a message of that many. -/
def blocks : Nat → (state words : List Nat) → List Nat
  | 0, state, _ => state
  | n + 1, state, words => blocks n (compress state (words.take 16)) (words.drop 16)

/-- Bytes as words, the first byte highest. -/
def toWords : List UInt8 → List Nat
  | a :: b :: c :: d :: rest =>
    (a.toNat * 2 ^ 24 + b.toNat * 2 ^ 16 + c.toNat * 2 ^ 8 + d.toNat) :: toWords rest
  | _ => []

/-- A number as bytes, the first byte highest. -/
def toBytes (n : Nat) (w : Nat) : List UInt8 :=
  (List.range n).map fun i => UInt8.ofNat (w / 2 ^ (8 * (n - 1 - i)))

/-- A message with its padding, a whole number of blocks. -/
def pad (message : List UInt8) : List UInt8 :=
  message ++ 0x80 :: List.replicate ((119 - message.length % 64) % 64) 0 ++
    toBytes 8 (message.length * 8)

/-- A digest of bytes, if there are as many as it has. -/
def digestOf (bytes : List UInt8) : Option (Vector UInt8 32) :=
  if h : bytes.length = 32 then some ⟨bytes.toArray, h⟩ else none

/-- SHA-256. -/
def sha256 (message : List UInt8) : Vector UInt8 32 :=
  let padded := pad message
  (digestOf ((blocks (padded.length / 64) initialState (toWords padded)).flatMap
    (toBytes 4))).getD (Vector.replicate 32 0)

/-- HMAC with SHA-256. -/
def hmac (key message : List UInt8) : Vector UInt8 32 :=
  let short := if key.length ≤ 64 then key else (sha256 key).toList
  let block := short ++ List.replicate (64 - short.length) 0
  let inner := sha256 (block.map (· ^^^ 0x36) ++ message)
  sha256 (block.map (· ^^^ 0x5c) ++ inner.toList)

/-- The digest of `abc`. -/
example : (sha256 [97, 98, 99]).toList =
    [0xba, 0x78, 0x16, 0xbf, 0x8f, 0x01, 0xcf, 0xea, 0x41, 0x41, 0x40, 0xde, 0x5d, 0xae, 0x22, 0x23,
      0xb0, 0x03, 0x61, 0xa3, 0x96, 0x17, 0x7a, 0x9c, 0xb4, 0x10, 0xff, 0x61, 0xf2, 0x00, 0x15,
      0xad] := by decide +kernel

end Sha256
