import Mathlib
import PgKinetic.Protocol.SqlSlices

/-!
# Fingerprints

`fingerprint_sql` puts the tokens of a statement together again, with `?` for every literal and one
`?` for all the literals of an `IN` list. As soon as the text has 256 bytes it is truncated to that
many, and the rest of the tokens is not looked at. Truncating a string inside a character panics.

Words are ASCII, and so is whatever the loop adds itself; only a **symbol** may be a character of
more than one byte. So the function panics exactly if such a symbol starts before byte 256 of the
fingerprint and ends behind it (`fingerprintSql_iff`).
-/

namespace PgKinetic

open SqlClassify List Option Text

/-! ### The loop -/

/-- `MAX_FINGERPRINT_BYTES`. -/
def maxFingerprintBytes : Nat := 256

/-- Whether a space goes between the text and the token. -/
def needsSpace (output token : Text) : Bool :=
  !output.isEmpty && !List.isSuffixOf ['('] output &&
    !token.head?.any fun c => c == ')' || c == ',' || c == ';'

/-- The text with the space, if one is needed. -/
def spaced (output token : Text) : Text :=
  if needsSpace output token then output ++ [' '] else output

/-- `append_token`. -/
def appendToken (output token : Text) : Text := spaced output token ++ token

/-- What the loop of `fingerprint_sql` keeps. -/
structure Fingerprint where
  output : Text := []
  inList : Bool := false
  listValues : Nat := 0
  deriving DecidableEq, Repr

/-- One turn of the loop, without the truncation. -/
def Fingerprint.onToken (st : Fingerprint) (token : SqlToken) : Fingerprint :=
  match token with
  | .comment => st
  | .literal =>
    { st with
      output :=
        if !st.inList then appendToken st.output "?"
        else if st.listValues = 0 then appendToken st.output "?"
        else st.output
      listValues := st.listValues + 1 }
  | .word word => { st with output := appendToken st.output word.toAsciiLowercase }
  | .symbol symbol =>
    if symbol = ['('] ∧ [' ', 'i', 'n'].isSuffixOf st.output then
      { output := appendToken st.output "(", inList := true, listValues := 0 }
    else if st.inList ∧ symbol = [')'] then
      { st with output := appendToken st.output ")", inList := false }
    else if st.inList ∧ symbol = [','] then { st with listValues := st.listValues + 1 }
    else { st with output := appendToken st.output symbol }

/-- The loop: `none` where `String::truncate` panics. -/
def fingerprintTokens : Fingerprint → List SqlToken → Option Text
  | st, [] => some st.output
  | st, token :: tokens =>
    let st := st.onToken token
    if maxFingerprintBytes ≤ st.output.byteLen then st.output.sliceTo maxFingerprintBytes
    else fingerprintTokens st tokens

/-- `fingerprint_sql`, with the positions at which `tokenize_sql` cuts. -/
def fingerprintSql (sql : Text) : Option Text :=
  (SqlSlices.tokenizeSql sql).bind (fingerprintTokens {})

theorem fingerprintSql_eq (sql : Text) :
    fingerprintSql sql = fingerprintTokens {} (tokenizeSql sql) := by
  rw [fingerprintSql, SqlSlices.tokenizeSql_eq]
  rfl

/-- What it would be without the truncation. -/
def untruncated (sql : Text) : Text := ((tokenizeSql sql).foldl Fingerprint.onToken {}).output

/-! ### Tokens -/

variable {c : Char} {t : Text} {n : Nat}

theorem utf8Size_of_isWordChar (h : isWordChar c = true) : c.utf8Size = 1 := by
  have hle : ∀ d : Char, d.val ≤ 127 → c.val ≤ d.val → c.val ≤ 127 :=
    fun _ hd hc => UInt32.le_trans hc hd
  rw [Char.utf8Size_eq_one_iff]
  simp only [isWordChar, Char.isAlphanum, Char.isAlpha, Char.isUpper, Char.isLower, Char.isDigit,
    Bool.or_eq_true, Bool.and_eq_true, decide_eq_true_eq, beq_iff_eq] at h
  rcases h with ((((⟨-, h⟩ | ⟨-, h⟩) | ⟨-, h⟩) | rfl) | rfl)
  · exact hle 'Z' (by decide) h
  · exact hle 'z' (by decide) h
  · exact hle '9' (by decide) h
  · decide
  · decide

theorem utf8Size_toLower (h : c.utf8Size = 1) : c.toLower.utf8Size = 1 := by
  rw [Char.utf8Size_eq_one_iff] at h ⊢
  unfold Char.toLower
  split
  · rename_i hupper
    have hle : c.val.toNat ≤ 90 := hupper.2
    have hdiff : ('a'.val - 'A'.val).toNat = 32 := by decide
    have hsum : (c.val + ('a'.val - 'A'.val)).toNat ≤ 127 := by
      rw [UInt32.toNat_add, hdiff]
      omega
    exact hsum
  · exact h

/-- The tokens that `tokenize_sql` makes: words are of word characters, a symbol is a character. -/
def SqlClassify.SqlToken.Cut : SqlToken → Prop
  | .word letters => ∀ c ∈ letters, isWordChar c = true
  | .symbol letters => ∃ c, letters = [c]
  | _ => True

theorem cut_wordToken {word : Text} (h : ∀ c ∈ word, isWordChar c = true) :
    (wordToken word).Cut := by
  unfold wordToken
  split
  · split
    · trivial
    · exact h
  · exact h

variable {token : SqlToken} {tokens : List SqlToken} (st : Fingerprint)

theorem cut_tokenTurn {ch : Char} {iter rest : Text}
    (h : tokenTurn ch iter = some (some token, rest)) : token.Cut := by
  have hmade : ∀ {made : SqlToken} {left : Text}, some (some made, left) = some (some token, rest) →
      made.Cut → token.Cut := by
    intro made left heq hcut
    rwa [← some.inj (Prod.mk.inj (some.inj heq)).1]
  unfold tokenTurn at h
  split at h
  · cases h
  split at h
  · exact hmade h trivial
  split at h
  · obtain ⟨p, -, heq⟩ := map_eq_some_iff.1 h
    exact hmade (congrArg some heq) trivial
  split at h
  · exact hmade h trivial
  split at h
  · exact hmade h trivial
  split at h
  · exact hmade h trivial
  split at h
  · rename_i hch
    refine hmade h (cut_wordToken ?_)
    exact forall_mem_cons.2 ⟨hch, fun c hc => mem_takeWhile_imp hc⟩
  · exact hmade h ⟨ch, rfl⟩

theorem cut_of_mem_tokenizeSql {sql : Text} : ∀ token ∈ tokenizeSql sql, token.Cut := by
  have hgo : ∀ n iter, ∀ token ∈ tokenizeSql.go n iter, token.Cut := by
    intro n
    induction n with
    | zero => exact fun iter => nofun
    | succ n ih =>
      intro iter token htoken
      cases iter with
      | nil => cases htoken
      | cons ch iter =>
        rw [tokenizeSql.go] at htoken
        cases hturn : tokenTurn ch iter with
        | none =>
          rw [hturn] at htoken
          cases htoken
        | some turn =>
          rw [hturn, elim_some, mem_append, mem_toList] at htoken
          rcases htoken with hfirst | hlater
          · exact cut_tokenTurn (hturn.trans (congrArg some (Prod.ext hfirst rfl)))
          · exact ih turn.2 token hlater
  exact hgo _ _

/-! ### What a token adds -/

/-- The byte at which the token starts, if it is appended. -/
def Fingerprint.startOf (st : Fingerprint) (token : Text) : Nat := (spaced st.output token).byteLen

theorem Fingerprint.length_le_startOf (token : Text) : st.output.byteLen ≤ st.startOf token := by
  unfold startOf spaced
  split
  · rw [byteLen_append]
    exact Nat.le_add_right _ _
  · exact Nat.le_refl _

/-- The text grows at its end: by ASCII characters, or by a symbol and the space in front of it. -/
theorem Fingerprint.onToken_output (hcut : token.Cut) :
    (∃ piece, (st.onToken token).output = st.output ++ piece ∧ (∀ c ∈ piece, c.utf8Size = 1) ∧
        ∀ c, token = .symbol [c] → c.utf8Size = 1) ∨
      ∃ c, token = .symbol [c] ∧ (st.onToken token).output = spaced st.output [c] ++ [c] := by
  have hspaced : ∀ token : Text, ∃ space, spaced st.output token = st.output ++ space ∧
      ∀ c ∈ space, c.utf8Size = 1 := by
    intro token
    unfold spaced
    split
    · exact ⟨[' '], rfl, forall_mem_singleton.2 rfl⟩
    · exact ⟨[], (append_nil _).symm, nofun⟩
  have happend : ∀ token : Text, (∀ c ∈ token, c.utf8Size = 1) →
      ∃ piece, appendToken st.output token = st.output ++ piece ∧ ∀ c ∈ piece, c.utf8Size = 1 := by
    intro token htoken
    obtain ⟨space, hspace, hsize⟩ := hspaced token
    refine ⟨space ++ token, ?_, forall_mem_append.2 ⟨hsize, htoken⟩⟩
    rw [appendToken, hspace, append_assoc]
  have hsame : ∃ piece, st.output = st.output ++ piece ∧ ∀ c ∈ piece, c.utf8Size = 1 :=
    ⟨[], (append_nil _).symm, nofun⟩
  unfold onToken
  cases token with
  | comment =>
    obtain ⟨piece, hpiece, hsize⟩ := hsame
    exact .inl ⟨piece, hpiece, hsize, nofun⟩
  | literal =>
    have hliteral : ∃ piece, (if !st.inList then appendToken st.output "?"
        else if st.listValues = 0 then appendToken st.output "?" else st.output) =
          st.output ++ piece ∧ ∀ c ∈ piece, c.utf8Size = 1 := by
      split
      · exact happend _ (forall_mem_singleton.2 rfl)
      · split
        · exact happend _ (forall_mem_singleton.2 rfl)
        · exact hsame
    obtain ⟨piece, hpiece, hsize⟩ := hliteral
    exact .inl ⟨piece, hpiece, hsize, nofun⟩
  | word word =>
    obtain ⟨piece, hpiece, hsize⟩ := happend word.toAsciiLowercase fun c hc => by
      obtain ⟨d, hd, rfl⟩ := List.mem_map.1 hc
      exact utf8Size_toLower (utf8Size_of_isWordChar (hcut d hd))
    exact .inl ⟨piece, hpiece, hsize, nofun⟩
  | symbol symbol =>
    obtain ⟨c, rfl⟩ := hcut
    have hascii : ∀ {d : Char}, [c] = [d] → d.utf8Size = 1 →
        ∀ e, SqlToken.symbol [c] = .symbol [e] → e.utf8Size = 1 := by
      intro d hd hsize e he
      rw [← head_eq_of_cons_eq (SqlToken.symbol.inj he), head_eq_of_cons_eq hd]
      exact hsize
    dsimp only
    split
    · rename_i hopen
      obtain ⟨piece, hpiece, hsize⟩ := happend "(" (forall_mem_singleton.2 rfl)
      exact .inl ⟨piece, hpiece, hsize, hascii hopen.1 rfl⟩
    · split
      · rename_i hclose
        obtain ⟨piece, hpiece, hsize⟩ := happend ")" (forall_mem_singleton.2 rfl)
        exact .inl ⟨piece, hpiece, hsize, hascii hclose.2 rfl⟩
      · split
        · rename_i hcomma
          obtain ⟨piece, hpiece, hsize⟩ := hsame
          exact .inl ⟨piece, hpiece, hsize, hascii hcomma.2 rfl⟩
        · exact .inr ⟨c, rfl, rfl⟩

theorem Fingerprint.prefix_onToken (hcut : token.Cut) :
    st.output <+: (st.onToken token).output := by
  rcases st.onToken_output hcut with ⟨piece, houtput, -⟩ | ⟨c, -, houtput⟩
  · rw [houtput]
    exact prefix_append _ _
  · rw [houtput, spaced]
    split
    · exact (prefix_append _ _).trans (prefix_append _ _)
    · exact prefix_append _ _

theorem Fingerprint.prefix_foldl (hcut : ∀ token ∈ tokens, token.Cut) :
    st.output <+: (tokens.foldl Fingerprint.onToken st).output := by
  induction tokens generalizing st with
  | nil => exact prefix_rfl
  | cons token tokens ih =>
    rw [forall_mem_cons] at hcut
    exact (st.prefix_onToken hcut.1).trans (ih _ hcut.2)

/-! ### Where a text can be truncated -/

theorem byteLen_of_ascii (h : ∀ c ∈ t, c.utf8Size = 1) : t.byteLen = t.length := by
  induction t with
  | nil => rfl
  | cons c t ih =>
    rw [forall_mem_cons] at h
    rw [byteLen_cons, h.1, ih h.2, length_cons, Nat.add_comm]

theorem byteLen_le_of_isPrefix {u : Text} (h : t <+: u) : t.byteLen ≤ u.byteLen := by
  obtain ⟨rest, rfl⟩ := h
  rw [byteLen_append]
  exact Nat.le_add_right _ _

/-- Among ASCII characters every position is a boundary. -/
theorem isBoundary_of_ascii {a b : Text} (h : ∀ c ∈ b, c.utf8Size = 1) (hle : a.byteLen ≤ n)
    (hn : n ≤ (a ++ b).byteLen) : (a ++ b).IsBoundary n := by
  refine ⟨a ++ b.take (n - a.byteLen), b.drop (n - a.byteLen), ?_, ?_⟩
  · rw [append_assoc, take_append_drop]
  · rw [byteLen_append, byteLen_of_ascii h] at hn
    rw [byteLen_append, byteLen_of_ascii fun c hc => h c (mem_of_mem_take hc), length_take]
    omega

/-- Inside the last character there is no boundary. -/
theorem isBoundary_concat_iff {a : Text} (hle : a.byteLen ≤ n) (hn : n ≤ a.byteLen + c.utf8Size) :
    (a ++ [c]).IsBoundary n ↔ ¬(a.byteLen < n ∧ n < a.byteLen + c.utf8Size) := by
  constructor
  · rintro ⟨front, back, hsplit, rfl⟩ ⟨hlt, hgt⟩
    have hprefix : front <+: a ++ [c] := hsplit ▸ prefix_append _ _
    rcases prefix_concat_iff.1 hprefix with hall | hfront
    · rw [hall, byteLen_append, byteLen_cons, byteLen_nil] at hgt
      omega
    · exact absurd (byteLen_le_of_isPrefix hfront) (Nat.not_le.2 hlt)
  · intro hnot
    rcases Nat.lt_or_ge a.byteLen n with hlt | hge
    · refine ⟨a ++ [c], [], (append_nil _).symm, ?_⟩
      rw [byteLen_append, byteLen_cons, byteLen_nil]
      omega
    · exact ⟨a, [c], rfl, by omega⟩

/-! ### The truncation -/

/-- The symbol `c`, appended to this text, starts before the last byte that is kept and ends behind
it. -/
def Fingerprint.Across (st : Fingerprint) (c : Char) : Prop :=
  st.startOf [c] < maxFingerprintBytes ∧ maxFingerprintBytes < st.startOf [c] + c.utf8Size

/-- No symbol among the tokens lies across the last byte that is kept. -/
def NoneAcross (st : Fingerprint) (tokens : List SqlToken) : Prop :=
  ∀ before c after, tokens = before ++ .symbol [c] :: after →
    ¬(before.foldl Fingerprint.onToken st).Across c

theorem noneAcross_cons {st : Fingerprint} :
    NoneAcross st (token :: tokens) ↔
      (∀ c, token = .symbol [c] → ¬st.Across c) ∧ NoneAcross (st.onToken token) tokens := by
  constructor
  · intro h
    refine ⟨?_, fun before c after htokens => ?_⟩
    · rintro c rfl
      exact h [] c tokens rfl
    · exact h (token :: before) c after (by rw [htokens, cons_append])
  · rintro ⟨hfirst, hlater⟩ before c after htokens
    cases before with
    | nil => exact hfirst c (head_eq_of_cons_eq htokens)
    | cons first before =>
      obtain rfl := head_eq_of_cons_eq htokens
      exact hlater before c after (tail_eq_of_cons_eq htokens)

/-- Behind the last byte that is kept, nothing lies across it. -/
theorem noneAcross_of_full {st : Fingerprint} (hcut : ∀ token ∈ tokens, token.Cut)
    (hfull : maxFingerprintBytes ≤ st.output.byteLen) : NoneAcross st tokens := by
  rintro before c after rfl ⟨hlt, -⟩
  have hprefix := st.prefix_foldl fun token htoken => hcut token (mem_append_left _ htoken)
  have hle := (byteLen_le_of_isPrefix hprefix).trans (Fingerprint.length_le_startOf _ [c])
  omega

theorem isSome_sliceTo : (t.sliceTo n).isSome = true ↔ t.IsBoundary n := by
  rw [sliceTo, isSome_map, isBoundary_iff]

/-- **The loop does not panic exactly if nothing lies across the last byte.** -/
theorem isSome_fingerprintTokens {st : Fingerprint} (hcut : ∀ token ∈ tokens, token.Cut)
    (hshort : st.output.byteLen < maxFingerprintBytes) :
    (fingerprintTokens st tokens).isSome = true ↔ NoneAcross st tokens := by
  induction tokens generalizing st with
  | nil => exact iff_of_true rfl fun before c after h => by simp at h
  | cons token tokens ih =>
    rw [forall_mem_cons] at hcut
    rw [fingerprintTokens, noneAcross_cons]
    split
    · rename_i hfull
      rw [isSome_sliceTo, and_iff_left (noneAcross_of_full hcut.2 hfull)]
      rcases st.onToken_output hcut.1 with ⟨piece, houtput, hpiece, hascii⟩ | ⟨c, rfl, houtput⟩
      · rw [houtput] at hfull ⊢
        refine iff_of_true (isBoundary_of_ascii hpiece hshort.le hfull) fun c hc hacross => ?_
        have hsize := hascii c hc
        have hlt := hacross.1
        have hgt := hacross.2
        omega
      · rw [houtput] at hfull ⊢
        have hstart : (spaced st.output [c]).byteLen ≤ maxFingerprintBytes := by
          unfold spaced
          split
          · rw [byteLen_append, byteLen_cons, byteLen_nil]
            exact hshort
          · exact hshort.le
        rw [byteLen_append, byteLen_cons, byteLen_nil, Nat.add_zero] at hfull
        rw [isBoundary_concat_iff hstart hfull]
        constructor
        · intro hnot d hd hacross
          obtain rfl := head_eq_of_cons_eq (SqlToken.symbol.inj hd)
          exact hnot hacross
        · exact fun h => h c rfl
    · rename_i hroom
      rw [ih hcut.2 (Nat.not_le.1 hroom)]
      refine (and_iff_right fun c hc hacross => hroom ?_).symm
      rcases st.onToken_output hcut.1 with ⟨piece, houtput, hpiece, hascii⟩ | ⟨d, rfl, houtput⟩
      · have hsize := hascii c hc
        have hlt := hacross.1
        have hgt := hacross.2
        omega
      · obtain rfl := head_eq_of_cons_eq (SqlToken.symbol.inj hc)
        rw [houtput, byteLen_append, byteLen_cons, byteLen_nil]
        exact hacross.2.le

/-- What the loop returns is the start of the whole text, and not too long. -/
theorem fingerprintTokens_eq_some {st : Fingerprint} {fingerprint : Text}
    (hcut : ∀ token ∈ tokens, token.Cut) (hshort : st.output.byteLen ≤ maxFingerprintBytes)
    (h : fingerprintTokens st tokens = some fingerprint) :
    fingerprint.byteLen ≤ maxFingerprintBytes ∧
      fingerprint <+: (tokens.foldl Fingerprint.onToken st).output := by
  induction tokens generalizing st with
  | nil =>
    obtain rfl := some.inj h
    exact ⟨hshort, prefix_rfl⟩
  | cons token tokens ih =>
    rw [forall_mem_cons] at hcut
    rw [fingerprintTokens] at h
    split at h
    · obtain ⟨⟨front, back⟩, hsplit, rfl⟩ := map_eq_some_iff.1 h
      obtain ⟨houtput, hlength⟩ := splitAtByte_eq_some hsplit
      have hfront : front <+: (st.onToken token).output := houtput ▸ prefix_append _ _
      exact ⟨hlength.le, hfront.trans ((st.onToken token).prefix_foldl hcut.2)⟩
    · rename_i hroom
      exact ih hcut.2 (Nat.not_le.1 hroom).le h

/-- **When `fingerprint_sql` returns.** It returns, with at most 256 bytes that the whole
fingerprint starts with, exactly if no symbol of the text starts before byte 256 of it and ends
behind that. -/
theorem fingerprintSql_iff (sql : Text) :
    (∃ fingerprint, fingerprintSql sql = some fingerprint ∧
        fingerprint.byteLen ≤ maxFingerprintBytes ∧ fingerprint <+: untruncated sql) ↔
      NoneAcross {} (tokenizeSql sql) := by
  have hcut : ∀ token ∈ tokenizeSql sql, token.Cut := cut_of_mem_tokenizeSql
  rw [fingerprintSql_eq, ← isSome_fingerprintTokens hcut (by decide), isSome_iff_exists]
  refine exists_congr fun fingerprint => and_iff_left_of_imp fun h => ?_
  exact fingerprintTokens_eq_some hcut (by decide) h

/-- **A panic.** A name of 254 letters and a letter that is not ASCII. -/
theorem fingerprintSql_longName : fingerprintSql (List.replicate 254 'a' ++ ['é']) = none := by
  decide +kernel

end PgKinetic
