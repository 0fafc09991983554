import Mathlib.Data.List.Basic

/-!
# Base64

The encoding of bytes by the characters of RFC 4648, with padding, and its strict decoding: the
padding must be there, and the bits that it stands for must be zero.
-/

namespace Base64

open List

/-- The characters of the digits. -/
def alphabet : List Char :=
  "ABCDEFGHIJKLMNOPQRSTUVWXYZabcdefghijklmnopqrstuvwxyz0123456789+/".toList

/-- The character of a digit. -/
def digit (n : Nat) : Char := alphabet.getD n 'A'

/-- The digit of a character. -/
def value (c : Char) : Option Nat := alphabet.idxOf? c

/-- The encoding: four digits for three bytes. -/
def encode : List UInt8 → List Char
  | [] => []
  | [a] => [digit (a.toNat / 4), digit (a.toNat % 4 * 16), '=', '=']
  | [a, b] =>
    [digit (a.toNat / 4), digit (a.toNat % 4 * 16 + b.toNat / 16), digit (b.toNat % 16 * 4), '=']
  | a :: b :: c :: rest =>
    digit (a.toNat / 4) :: digit (a.toNat % 4 * 16 + b.toNat / 16) ::
      digit (b.toNat % 16 * 4 + c.toNat / 64) :: digit (c.toNat % 64) :: encode rest

/-- The bytes of four digits. -/
def byte₁ (x y : Nat) : UInt8 := UInt8.ofNat (x * 4 + y / 16)

@[inherit_doc byte₁]
def byte₂ (y z : Nat) : UInt8 := UInt8.ofNat (y % 16 * 16 + z / 4)

@[inherit_doc byte₁]
def byte₃ (z w : Nat) : UInt8 := UInt8.ofNat (z % 4 * 64 + w)

/-- The decoding. -/
def decode : List Char → Option (List UInt8)
  | [] => some []
  | a :: b :: c :: d :: rest => do
    let x ← value a
    let y ← value b
    if rest = [] ∧ d = '=' then
      if c = '=' then if y % 16 = 0 then some [byte₁ x y] else none
      else
        let z ← value c
        if z % 4 = 0 then some [byte₁ x y, byte₂ y z] else none
    else
      let z ← value c
      let w ← value d
      let later ← decode rest
      some (byte₁ x y :: byte₂ y z :: byte₃ z w :: later)
  | _ => none

theorem value_digit {n : Nat} (h : n < 64) : value (digit n) = some n := by
  have hall : ∀ i : Fin 64, value (digit i) = some i.1 := by decide +kernel
  exact hall ⟨n, h⟩

/-- No digit is written as another character. -/
theorem digit_ne {c : Char} (hc : c ∉ alphabet) (n : Nat) : digit n ≠ c := by
  rintro rfl
  refine hc ?_
  rw [digit, getD_eq_getElem?_getD]
  cases h : alphabet[n]? with
  | none => decide
  | some d => exact mem_of_getElem? h

section

variable (a : UInt8) (q : Nat) {r : Nat}

theorem byte₁_digits (h : r < 16) : byte₁ (a.toNat / 4) (a.toNat % 4 * 16 + r) = a := by
  have hsum : a.toNat / 4 * 4 + (a.toNat % 4 * 16 + r) / 16 = a.toNat := by omega
  rw [byte₁, hsum, UInt8.ofNat_toNat]

theorem byte₂_digits (h : r < 4) :
    byte₂ (q * 16 + a.toNat / 16) (a.toNat % 16 * 4 + r) = a := by
  have ha := a.toNat_lt
  have hsum : (q * 16 + a.toNat / 16) % 16 * 16 + (a.toNat % 16 * 4 + r) / 4 = a.toNat := by omega
  rw [byte₂, hsum, UInt8.ofNat_toNat]

theorem byte₃_digits : byte₃ (q * 4 + a.toNat / 64) (a.toNat % 64) = a := by
  have ha := a.toNat_lt
  have hsum : (q * 4 + a.toNat / 64) % 4 * 64 + a.toNat % 64 = a.toNat := by omega
  rw [byte₃, hsum, UInt8.ofNat_toNat]

end

/-- **What is encoded is decoded.** -/
theorem decode_encode (bytes : List UInt8) : decode (encode bytes) = some bytes := by
  have hpad : ∀ n, digit n ≠ '=' := digit_ne (by decide)
  induction bytes using encode.induct with
  | case1 => rfl
  | case2 a =>
    have ha := a.toNat_lt
    have hfirst := byte₁_digits a (r := 0) (by omega)
    rw [encode, decode, value_digit (by omega), value_digit (by omega)]
    simpa using hfirst
  | case3 a b =>
    have ha := a.toNat_lt
    have hb := b.toNat_lt
    have hfirst := byte₁_digits a (r := b.toNat / 16) (by omega)
    have hsecond := byte₂_digits b (a.toNat % 4) (r := 0) (by omega)
    rw [encode, decode, value_digit (by omega), value_digit (by omega), value_digit (by omega)]
    simpa [hpad] using ⟨hfirst, hsecond⟩
  | case4 a b c rest ih =>
    have ha := a.toNat_lt
    have hb := b.toNat_lt
    have hc := c.toNat_lt
    have hfirst := byte₁_digits a (r := b.toNat / 16) (by omega)
    have hsecond := byte₂_digits b (a.toNat % 4) (r := c.toNat / 64) (by omega)
    have hthird := byte₃_digits c (b.toNat % 16)
    rw [encode, decode, value_digit (by omega), value_digit (by omega), value_digit (by omega),
      value_digit (by omega), ih]
    simpa [hpad] using ⟨hfirst, hsecond, hthird⟩

/-- A character that is no digit and no padding does not occur. -/
theorem not_mem_encode {x : Char} (hx : x ∉ alphabet) (hpad : x ≠ '=') (bytes : List UInt8) :
    x ∉ encode bytes := by
  have hdigit : ∀ n, x ≠ digit n := fun n => (digit_ne hx n).symm
  induction bytes using encode.induct with
  | case1 => simp [encode]
  | case2 a => simp [encode, hdigit, hpad]
  | case3 a b => simp [encode, hdigit, hpad]
  | case4 a b c rest ih => simp [encode, hdigit, ih]

end Base64
