import Mathlib.Data.Prod.Lex
import PgKinetic.Cluster.Lsn
import PgKinetic.Lib.Fallible

/-!
# The text codec of log positions

A position is written in hexadecimal digits and read back (`lsn_codec`): exactly the texts of two
numbers of at most eight digits with a slash between them are read, and positions are compared as
the pairs of the two numbers are.
-/

namespace PgKinetic

open List Option Fallible

/-- `PgLsn::segment`. -/
def PgLsn.segment (lsn : PgLsn) : Nat := lsn / 2 ^ 32

/-- `PgLsn::offset`. -/
def PgLsn.offset (lsn : PgLsn) : Nat := lsn % 2 ^ 32

/-- A number in upper-case hexadecimal digits (`{:X}`). -/
def upperHex (n : Nat) : Text := (Nat.toDigits 16 n).map Char.toUpper

/-- `Display` of `PgLsn`. -/
def PgLsn.display (lsn : PgLsn) : Text := upperHex lsn.segment ++ '/' :: upperHex lsn.offset

/-- `FreshnessRequirement`. -/
structure FreshnessRequirement where
  sessionWriteLsn : Option PgLsn

/-- `FreshnessRequirement::is_satisfied_by`. -/
def FreshnessRequirement.isSatisfiedBy (requirement : FreshnessRequirement)
    (replicaReplayLsn : PgLsn) : Bool :=
  match requirement.sessionWriteLsn with
  | some required => required ≤ replicaReplayLsn
  | none => true

/-! ### Hexadecimal texts -/

/-- The number behind the value of some digits and these digits. -/
def hexValueFrom (value : Nat) (t : Text) : Nat :=
  t.foldl (fun value c => value * 16 + (hexDigit c).getD 0) value

/-- One to eight hexadecimal digits. -/
structure IsHex32 (t : Text) : Prop where
  ne_nil : t ≠ []
  length_le : t.length ≤ 8
  digits : ∀ c ∈ t, (hexDigit c).isSome

theorem hexDigit_lt {c : Char} {digit : Nat} (h : hexDigit c = some digit) : digit < 16 := by
  have hchar : ∀ {lo hi : Char}, lo ≤ c ∧ c ≤ hi → c.toNat - lo.toNat ≤ hi.toNat - lo.toNat :=
    fun hrange => Nat.sub_le_sub_right hrange.2 _
  unfold hexDigit at h
  split_ifs at h with h₁ h₂ h₃
  · exact some.inj h ▸ (hchar h₁).trans_lt (by decide)
  · exact some.inj h ▸ Nat.add_lt_add_right ((hchar h₂).trans_lt (by decide)) 10
  · exact some.inj h ▸ Nat.add_lt_add_right ((hchar h₃).trans_lt (by decide)) 10

variable {t : Text} {invalid overflow : LsnParseError} {n : Nat}

/-- **The loop of `parse_hex_u32`** behind so many digits. Its value never overflows. -/
theorem parseHexU32_go_eq_ok_iff {digits value : Nat} (hdigits : digits ≤ 8)
    (hvalue : value < 16 ^ digits) :
    parseHexU32.go invalid overflow digits value t = .ok n ↔
      digits + t.length ≤ 8 ∧ (∀ c ∈ t, (hexDigit c).isSome) ∧ n = hexValueFrom value t := by
  induction t generalizing digits value with
  | nil =>
    refine ⟨fun h => ⟨hdigits, nofun, (Except.ok.inj h).symm⟩, fun h => ?_⟩
    exact congrArg Except.ok h.2.2.symm
  | cons c t ih =>
    rw [parseHexU32.go, forall_mem_cons, length_cons]
    split
    · rename_i hfull
      exact ⟨nofun, fun h => by omega⟩
    · rename_i hmore
      cases hdigit : hexDigit c with
      | none => exact ⟨nofun, fun h => nomatch h.2.1.1⟩
      | some digit =>
        have hnext : value * 16 + digit < 16 ^ (digits + 1) := by
          have hlt := hexDigit_lt hdigit
          omega
        have hle : 16 ^ (digits + 1) ≤ 16 ^ 8 := Nat.pow_le_pow_right (by decide) (by omega)
        have hfits : value * 16 + digit < 2 ^ 32 := hnext.trans_le hle
        have hfrom : hexValueFrom value (c :: t) = hexValueFrom (value * 16 + digit) t := by
          rw [hexValueFrom, foldl_cons, hdigit]
          rfl
        dsimp only
        rw [if_pos hfits, ih (by omega) hnext, hfrom]
        simp [Nat.add_assoc, Nat.add_comm 1]

theorem parseHexU32_eq_ok_iff (hne : t ≠ []) :
    parseHexU32 t invalid overflow = .ok n ↔ IsHex32 t ∧ n = hexValueFrom 0 t := by
  rw [parseHexU32, parseHexU32_go_eq_ok_iff (Nat.zero_le 8) Nat.one_pos, Nat.zero_add]
  exact ⟨fun ⟨hlength, hdigits, hn⟩ => ⟨⟨hne, hlength, hdigits⟩, hn⟩,
    fun ⟨hhex, hn⟩ => ⟨hhex.length_le, hhex.digits, hn⟩⟩

/-- **What `from_str` accepts**, and its value. -/
theorem fromStr_eq_ok_iff {input : Text} {lsn : PgLsn} :
    PgLsn.fromStr input = .ok lsn ↔ ∃ high low, input = high ++ '/' :: low ∧
      IsHex32 high ∧ IsHex32 low ∧ lsn = hexValueFrom 0 high * 2 ^ 32 + hexValueFrom 0 low := by
  constructor
  · intro h
    unfold PgLsn.fromStr at h
    split at h
    · cases h
    · rename_i high low hsplit
      split at h
      · cases h
      · rename_i hparts
        rw [Bool.or_eq_true, not_or, List.isEmpty_iff, List.isEmpty_iff] at hparts
        obtain ⟨segment, hhigh, h⟩ := bind_eq_ok_iff.1 h
        obtain ⟨offset, hlow, h⟩ := bind_eq_ok_iff.1 h
        obtain ⟨hsegment, rfl⟩ := (parseHexU32_eq_ok_iff hparts.1).1 hhigh
        obtain ⟨hoffset, rfl⟩ := (parseHexU32_eq_ok_iff hparts.2).1 hlow
        exact ⟨high, low, (Text.splitOnce_eq_some hsplit).1, hsegment, hoffset,
          (Except.ok.inj h).symm⟩
  · rintro ⟨high, low, rfl, hhigh, hlow, rfl⟩
    have hslash : '/' ∉ high := fun hmem => nomatch hhigh.digits _ hmem
    rw [PgLsn.fromStr, Text.splitOnce_append hslash]
    dsimp only
    rw [if_neg (by simp [hhigh.ne_nil, hlow.ne_nil])]
    exact bind_eq_ok_iff.2 ⟨_, (parseHexU32_eq_ok_iff hhigh.ne_nil).2 ⟨hhigh, rfl⟩,
      bind_eq_ok_iff.2 ⟨_, (parseHexU32_eq_ok_iff hlow.ne_nil).2 ⟨hlow, rfl⟩, rfl⟩⟩

/-! ### Round trip and order -/

theorem hexDigit_toUpper : ∀ digit < 16, hexDigit (Nat.digitChar digit).toUpper = some digit := by
  decide

/-- The digits of a number stand for it. -/
theorem hexValueFrom_upperHex (n : Nat) :
    (∀ c ∈ upperHex n, (hexDigit c).isSome) ∧ hexValueFrom 0 (upperHex n) = n := by
  induction n using Nat.strongRecOn with
  | ind n ih =>
    rw [upperHex, Nat.toDigits_eq_if (by decide)]
    split
    · rename_i hlt
      simp [hexValueFrom, hexDigit_toUpper n hlt]
    · rename_i hge
      obtain ⟨hdigits, hvalue⟩ := ih (n / 16) (by omega)
      have hlast := hexDigit_toUpper (n % 16) (Nat.mod_lt n (by decide))
      rw [hexValueFrom] at hvalue
      rw [map_append, ← upperHex, map_singleton, hexValueFrom, foldl_append, hvalue]
      refine ⟨fun c hc => ?_, ?_⟩
      · rcases mem_append.1 hc with hc | hc
        · exact hdigits c hc
        · rw [mem_singleton.1 hc, hlast]
          rfl
      · rw [foldl_cons, foldl_nil, hlast]
        exact Nat.div_add_mod' n 16

theorem isHex32_upperHex (h : n < 2 ^ 32) : IsHex32 (upperHex n) where
  ne_nil := by simp [upperHex, Nat.toDigits_ne_nil]
  length_le := by
    rw [upperHex, length_map, Nat.length_toDigits_le_iff (by decide) (by decide)]
    exact h
  digits := (hexValueFrom_upperHex n).1

/-- **The codec of log positions.** Every position is read back from its text; exactly the texts of
one to eight digits, a slash and one to eight digits are read; and the order of positions is the
lexicographic one of segment and offset. -/
theorem lsn_codec :
    (∀ value : UInt64, PgLsn.fromStr (PgLsn.display value.toNat) = .ok value.toNat) ∧
    (∀ input lsn, PgLsn.fromStr input = .ok lsn ↔ ∃ high low, input = high ++ '/' :: low ∧
      IsHex32 high ∧ IsHex32 low ∧ lsn = hexValueFrom 0 high * 2 ^ 32 + hexValueFrom 0 low) ∧
    ∀ required replay : PgLsn,
      FreshnessRequirement.isSatisfiedBy ⟨some required⟩ replay = true ↔
        toLex (required.segment, required.offset) ≤ toLex (replay.segment, replay.offset) := by
  refine ⟨fun value => ?_, fun _ _ => fromStr_eq_ok_iff, fun required replay => ?_⟩
  · have hvalue := value.toNat_lt
    refine fromStr_eq_ok_iff.2 ⟨_, _, rfl, isHex32_upperHex ?_, isHex32_upperHex ?_, ?_⟩
    · rw [PgLsn.segment]
      omega
    · exact Nat.mod_lt _ (by decide)
    · rw [(hexValueFrom_upperHex _).2, (hexValueFrom_upperHex _).2]
      exact (Nat.div_add_mod' _ _).symm
  · have hle : FreshnessRequirement.isSatisfiedBy ⟨some required⟩ replay = true ↔
        @LE.le Nat _ required replay := decide_eq_true_iff
    rw [hle, Prod.Lex.toLex_le_toLex]
    simp only [PgLsn.segment, PgLsn.offset]
    omega

end PgKinetic
