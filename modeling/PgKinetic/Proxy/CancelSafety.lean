import PgKinetic.Proxy.Cancel

/-!
# Cancel requests reach their own session's backend only

The invariant ties the three shared things together (`Safe`): a binding has a target only while
its session is bound to that backend; a request that forwards to a target holds the flag of the
binding, alone, and the session still has the backend, bound or waiting in `unbind` for the flag.
So when `unbind` returns, there is neither a target nor a request that forwards.
-/

namespace PgKinetic

open EventMachine Option

namespace Cancel

variable {β : Type}

/-- The session whose flag a request has set. -/
def Request.flagged (q : Request) : Option Nat :=
  match q.place with
  | .acquired i | .missed i | .forwarding i _ | .sent i => some i
  | .arriving | .found _ | .done => none

/-- The session a request has found. -/
def Request.session (q : Request) : Option Nat :=
  match q.place with
  | .found i | .acquired i | .missed i | .forwarding i _ | .sent i => some i
  | .arriving | .done => none

/-- A target is that of the backend a session has. -/
def Session.Has (cancelTarget : β → Option CancelTarget) (s : Session β) (target : CancelTarget) :
    Prop :=
  ∃ b, s.lease = some b ∧ cancelTarget b = some target

/-- The registry has the sessions that are not over, each under its own key. -/
structure Registered (st : CancelState β) : Prop where
  own : ∀ i s, st.sessions i = some s → s.place ≠ .ended → st.entries s.key = some i
  entry : ∀ key i, st.entries key = some i →
    ∃ s, st.sessions i = some s ∧ s.key = key ∧ s.place ≠ .ended

/-- **The invariant.** -/
structure Safe (cancelTarget : β → Option CancelTarget) (st : CancelState β) : Prop where
  registered : Registered st
  target : ∀ i s target, st.sessions i = some s → s.binding.target = some target →
    s.place = .bound ∧ s.Has cancelTarget target
  found : ∀ r q i, st.requests r = some q → q.session = some i →
    ∃ s, st.sessions i = some s ∧ s.key = q.key
  flagged : ∀ r q i s, st.requests r = some q → q.flagged = some i → st.sessions i = some s →
    s.binding.forwarding = true
  alone : ∀ r r' q q' i, st.requests r = some q → st.requests r' = some q' →
    q.flagged = some i → q'.flagged = some i → r = r'
  forwarding : ∀ r q i target s, st.requests r = some q → q.place = .forwarding i target →
    st.sessions i = some s → (s.place = .bound ∨ s.place = .unbinding) ∧ s.Has cancelTarget target
  leased : ∀ i s b, st.sessions i = some s → s.lease = some b →
    st.pool b = .leased ∧ s.place ≠ .idle ∧ s.place ≠ .ended
  exclusive : ∀ i j s s' b, st.sessions i = some s → st.sessions j = some s' →
    s.lease = some b → s'.lease = some b → i = j

theorem Safe.initial (cancelTarget : β → Option CancelTarget) :
    Safe cancelTarget ({} : CancelState β) where
  registered := ⟨by rintro i s ⟨⟩, by rintro key i ⟨⟩⟩
  target := by rintro i s target ⟨⟩
  found := by rintro r q i ⟨⟩
  flagged := by rintro r q i s ⟨⟩
  alone := by rintro r r' q q' i ⟨⟩
  forwarding := by rintro r q i target s ⟨⟩
  leased := by rintro i s b ⟨⟩
  exclusive := by rintro i j s s' b ⟨⟩

/-! ### Sessions -/

section

variable {cancelTarget : β → Option CancelTarget} {st st' : CancelState β} {i r : Nat}
  {s : Session β}

theorem update_eq_some {α : Type} {f : Nat → Option α} {i j : Nat} {a x : α}
    (h : Function.update f i (some a) j = some x) : (j = i ∧ x = a) ∨ (j ≠ i ∧ f j = some x) := by
  rw [Function.update_apply] at h
  split at h
  case isTrue hj => exact .inl ⟨hj, (some.inj h).symm⟩
  case isFalse hj => exact .inr ⟨hj, h⟩

/-- A session changes, and is over only if it was. -/
theorem Registered.setSession (h : Registered st) (hi : st.sessions i = some s) {s' : Session β}
    (hkey : s'.key = s.key) (hended : s'.place = .ended ↔ s.place = .ended) :
    Registered (st.setSession i s') := by
  refine ⟨?_, ?_⟩
  · intro j x hj hx
    rcases update_eq_some hj with ⟨rfl, rfl⟩ | ⟨-, hjold⟩
    · rw [hkey]
      exact h.own j s hi (hended.not.1 hx)
    · exact h.own j x hjold hx
  · intro key j hentry
    obtain ⟨x, hx, hxkey, hxlive⟩ := h.entry key j hentry
    by_cases hj : j = i
    · subst hj
      obtain rfl := some.inj (hi.symm.trans hx)
      exact ⟨s', Function.update_self .., hkey.trans hxkey, hended.not.2 hxlive⟩
    · exact ⟨x, (Function.update_of_ne hj ..).trans hx, hxkey, hxlive⟩

/-- A session ends. -/
theorem Registered.finish (h : Registered st) (hi : st.sessions i = some s)
    (hlive : s.place ≠ .ended) :
    Registered { st.setSession i { s with place := .ended } with
      entries := Function.update st.entries s.key none } := by
  have hown := h.own i s hi hlive
  refine ⟨?_, ?_⟩
  · intro j x hj hx
    rcases update_eq_some hj with ⟨rfl, rfl⟩ | ⟨hne, hjold⟩
    · exact absurd rfl hx
    · have hentry := h.own j x hjold hx
      have hkey : x.key ≠ s.key := by
        intro heq
        rw [heq, hown] at hentry
        exact hne (some.inj hentry).symm
      exact (Function.update_of_ne hkey ..).trans hentry
  · intro key j hentry
    have hupdate : Function.update st.entries s.key none key = some j := hentry
    have hkey : key ≠ s.key := by
      rintro rfl
      rw [Function.update_self] at hupdate
      cases hupdate
    rw [Function.update_of_ne hkey] at hupdate
    obtain ⟨x, hx, hxkey, hxlive⟩ := h.entry key j hupdate
    have hj : j ≠ i := by
      rintro rfl
      obtain rfl := some.inj (hi.symm.trans hx)
      exact hkey hxkey.symm
    exact ⟨x, (Function.update_of_ne hj ..).trans hx, hxkey, hxlive⟩

theorem Safe.flag_kept (h : Safe cancelTarget st) (hi : st.sessions i = some s) (r : Nat)
    (q : Request) (hq : st.requests r = some q) (hflagged : q.flagged = some i) :
    s.binding.forwarding = true :=
  h.flagged r q i s hq hflagged hi

/-- A session changes or starts, with the registry and the pool. -/
theorem Safe.setSession (h : Safe cancelTarget st) {old : Option (Session β)}
    (hi : st.sessions i = old) (s' : Session β) (pool : β → BackendPlace)
    (entries : ClientKey → Option Nat)
    (hregistered : Registered { st.setSession i s' with entries })
    (hkey : ∀ s ∈ old, s'.key = s.key)
    (hforwarding : ∀ r q, st.requests r = some q → q.flagged = some i →
      s'.binding.forwarding = true)
    (htarget : ∀ target, s'.binding.target = some target →
      s'.place = .bound ∧ s'.Has cancelTarget target)
    (hrequests : ∀ s ∈ old, ∀ target, s.binding.forwarding = true →
      (s.place = .bound ∨ s.place = .unbinding) → s.Has cancelTarget target →
      (s'.place = .bound ∨ s'.place = .unbinding) ∧ s'.Has cancelTarget target)
    (hleased : ∀ b, s'.lease = some b → (pool b = .leased ∧ s'.place ≠ .idle ∧ s'.place ≠ .ended) ∧
      ((∃ s ∈ old, s.lease = some b) ∨ st.pool b ≠ .leased))
    (hothers : ∀ b, st.pool b = .leased → (∀ s ∈ old, s.lease ≠ some b) → pool b = .leased) :
    Safe cancelTarget { st.setSession i s' with pool, entries } := by
  refine ⟨⟨hregistered.own, hregistered.entry⟩, ?_, ?_, ?_, h.alone, ?_, ?_, ?_⟩
  · intro j x target hj hx
    rcases update_eq_some hj with ⟨rfl, rfl⟩ | ⟨-, hj⟩
    · exact htarget target hx
    · exact h.target j x target hj hx
  · intro r q j hq hsession
    obtain ⟨x, hx, hxkey⟩ := h.found r q j hq hsession
    by_cases hj : j = i
    · subst hj
      exact ⟨s', Function.update_self .., (hkey x (hi.symm.trans hx)).trans hxkey⟩
    · exact ⟨x, (Function.update_of_ne hj ..).trans hx, hxkey⟩
  · intro r q j x hq hflagged hj
    rcases update_eq_some hj with ⟨rfl, rfl⟩ | ⟨-, hj⟩
    · exact hforwarding r q hq hflagged
    · exact h.flagged r q j x hq hflagged hj
  · intro r q j target x hq hplace hj
    rcases update_eq_some hj with ⟨rfl, rfl⟩ | ⟨-, hj⟩
    · obtain ⟨s, hs, -⟩ := h.found r q j hq (by rw [Request.session, hplace])
      have hflag := h.flagged r q j s hq (by rw [Request.flagged, hplace]) hs
      obtain ⟨hbound, hhas⟩ := h.forwarding r q j target s hq hplace hs
      exact hrequests s (hi.symm.trans hs) target hflag hbound hhas
    · exact h.forwarding r q j target x hq hplace hj
  · intro j x b hj hb
    rcases update_eq_some hj with ⟨rfl, rfl⟩ | ⟨hne, hj⟩
    · exact (hleased b hb).1
    · obtain ⟨hpool, hplace⟩ := h.leased j x b hj hb
      refine ⟨hothers b hpool fun s hs hlease => hne ?_, hplace⟩
      exact h.exclusive j i x s b hj (hi.trans hs) hb hlease
  · intro j k x y b hj hk hb hb'
    rcases update_eq_some hj with ⟨rfl, rfl⟩ | ⟨-, hjold⟩
    · rcases update_eq_some hk with ⟨rfl, rfl⟩ | ⟨-, hkold⟩
      · rfl
      · rcases (hleased b hb).2 with ⟨s, hs, hlease⟩ | hfree
        · exact h.exclusive j k s y b (hi.trans hs) hkold hlease hb'
        · exact absurd (h.leased k y b hkold hb').1 hfree
    · rcases update_eq_some hk with ⟨rfl, rfl⟩ | ⟨-, hkold⟩
      · rcases (hleased b hb').2 with ⟨s, hs, hlease⟩ | hfree
        · exact h.exclusive j k x s b hjold (hi.trans hs) hb hlease
        · exact absurd (h.leased j x b hjold hb).1 hfree
      · exact h.exclusive j k x y b hjold hkold hb hb'

/-! What the helpers of a session come to, for the session itself. -/

theorem CancelState.setPlace_eq (hi : st.sessions i = some s) (place : SessionPlace) :
    st.setPlace i place = st.setSession i { s with place } := by
  rw [setPlace, hi]

theorem CancelState.modifyBinding_eq (hi : st.sessions i = some s)
    (f : CancelBinding → CancelBinding) :
    st.modifyBinding i f = st.setSession i { s with binding := f s.binding } := by
  rw [modifyBinding, hi]

theorem CancelState.setSession_setSession (st : CancelState β) (i : Nat) (s s' : Session β) :
    (st.setSession i s).setSession i s' = st.setSession i s' := by
  simp only [setSession, Function.update_idem]

/-- A session that is not over finds its own binding under its key. -/
theorem Safe.modifyEntry_setPlace (h : Safe cancelTarget st) (hi : st.sessions i = some s)
    (hlive : s.place ≠ .ended) (f : CancelBinding → CancelBinding) (place : SessionPlace) :
    (st.modifyEntry s.key f).setPlace i place =
      st.setSession i { s with binding := f s.binding, place } := by
  have hself : (st.setSession i { s with binding := f s.binding }).sessions i =
      some { s with binding := f s.binding } := Function.update_self ..
  rw [CancelState.modifyEntry, h.registered.own i s hi hlive]
  dsimp only
  rw [CancelState.modifyBinding_eq hi, CancelState.setPlace_eq hself,
    CancelState.setSession_setSession]

/-- A change of a session that keeps its backend. -/
theorem Safe.setPlace (h : Safe cancelTarget st) (hi : st.sessions i = some s)
    (s' : Session β) (hkey : s'.key = s.key)
    (hforwarding : s'.binding.forwarding = s.binding.forwarding)
    (hlease : s'.lease = s.lease) (hlive : s.place ≠ .ended)
    (hlive' : s'.place ≠ .idle ∧ s'.place ≠ .ended)
    (htarget : ∀ target, s'.binding.target = some target →
      s'.place = .bound ∧ s'.Has cancelTarget target)
    (hrequests : s.binding.forwarding = true → (s.place = .bound ∨ s.place = .unbinding) →
      s'.place = .bound ∨ s'.place = .unbinding) :
    Safe cancelTarget (st.setSession i s') := by
  refine h.setSession hi s' st.pool st.entries
    (h.registered.setSession hi hkey (iff_of_false hlive'.2 hlive)) ?_ ?_ htarget ?_ ?_ ?_
  · rintro _ ⟨⟩
    exact hkey
  · intro r q hq hflagged
    rw [hforwarding]
    exact h.flag_kept hi r q hq hflagged
  · rintro _ ⟨⟩ target hflag hplace ⟨b, hb, htarget⟩
    exact ⟨hrequests hflag hplace, b, hlease.trans hb, htarget⟩
  · intro b hb
    have hb' : s.lease = some b := hlease.symm.trans hb
    exact ⟨⟨(h.leased i s b hi hb').1, hlive'⟩, .inl ⟨s, rfl, hb'⟩⟩
  · intro b hpool _
    exact hpool

variable [DecidableEq β]

/-- A session gives up a backend that no binding and no request knows. -/
theorem Safe.giveUp (h : Safe cancelTarget st) (hi : st.sessions i = some s)
    {place : BackendPlace}
    (hfree : ∀ target, (s.place = .bound ∨ s.place = .unbinding) → ¬ s.Has cancelTarget target)
    (hstep : st.giveUp i s place = some st') : Safe cancelTarget st' := by
  obtain ⟨b, hb⟩ : ∃ b, s.lease = some b := by
    rcases hlease : s.lease with _ | b
    · rw [CancelState.giveUp, hlease] at hstep
      cases hstep
    · exact ⟨b, rfl⟩
  rw [CancelState.giveUp, hb] at hstep
  obtain rfl := some.inj hstep
  have hlive := (h.leased i s b hi hb).2.2
  have hflag := h.flag_kept hi
  refine h.setSession hi { s with lease := none, place := .idle } _ st.entries
    (h.registered.setSession hi rfl (iff_of_false nofun hlive)) (by rintro _ ⟨⟩; rfl) hflag
    ?_ ?_ ?_ ?_
  · intro target htarget
    obtain ⟨hbound, hhas⟩ := h.target i s target hi htarget
    exact absurd hhas (hfree target (.inl hbound))
  · rintro _ ⟨⟩ target _ hplace hhas
    exact absurd hhas (hfree target hplace)
  · rintro b' ⟨⟩
  · intro b' hpool hne
    have hne' : b' ≠ b := fun heq => hne s rfl (heq ▸ hb)
    exact (Function.update_of_ne hne' ..).trans hpool

/-- The input does not drop a backend that could be reached: one with key data that is bound, or
that `unbind` is still waiting for. -/
def CancelState.Unbinds (cancelTarget : β → Option CancelTarget) (st : CancelState β) :
    Input β → Prop
  | .session i .drop => ∀ s ∈ st.sessions i, ∀ b ∈ s.lease,
    (cancelTarget b).isSome → s.place = .leased ∨ s.place = .unbound
  | _ => True

instance CancelState.decidableUnbinds (cancelTarget : β → Option CancelTarget)
    (st : CancelState β) : ∀ input, Decidable (st.Unbinds cancelTarget input)
  | .session i .drop => inferInstanceAs (Decidable (∀ s ∈ st.sessions i, ∀ b ∈ s.lease,
      (cancelTarget b).isSome → s.place = .leased ∨ s.place = .unbound))
  | .session _ (.checkout _) | .session _ .bind | .session _ .unbind | .session _ .load
  | .session _ .release | .session _ .discard | .session _ .finish
  | .start _ _ | .request _ _ | .proceed _ | .dropLease _ => .isTrue trivial

omit [DecidableEq β] in
/-- Between checkout and binding, and after `unbind`, a binding has no target. -/
theorem Safe.target_eq_none (h : Safe cancelTarget st) (hi : st.sessions i = some s)
    (hplace : s.place ≠ .bound) : s.binding.target = none := by
  rcases htarget : s.binding.target with _ | target
  · rfl
  · exact absurd (h.target i s target hi htarget).1 hplace

/-- **Sessions keep the invariant.** -/
theorem Safe.stepSession (h : Safe cancelTarget st) (hi : st.sessions i = some s)
    {action : SessionAction β} (hunbinds : st.Unbinds cancelTarget (.session i action))
    (hstep : st.stepSession cancelTarget i s action = some st') : Safe cancelTarget st' := by
  cases action with
  | checkout b =>
    rw [CancelState.stepSession] at hstep
    split at hstep
    case isTrue hguard =>
      obtain ⟨hidle, hpool⟩ := hguard
      obtain rfl := some.inj hstep
      have hnone := h.target_eq_none hi (by rw [hidle]; decide)
      have hlive : s.place ≠ .ended := by rw [hidle]; nofun
      have hflag := h.flag_kept hi
      refine h.setSession hi { s with lease := some b, place := .leased } _ st.entries
        (h.registered.setSession hi rfl (iff_of_false nofun hlive)) (by rintro _ ⟨⟩; rfl) hflag
        ?_ ?_ ?_ ?_
      · intro target htarget
        rw [hnone] at htarget
        cases htarget
      · rintro _ ⟨⟩ target _ hplace
        rw [hidle] at hplace
        exact absurd hplace (by decide)
      · rintro b' ⟨⟩
        refine ⟨⟨Function.update_self .., nofun, nofun⟩, .inr ?_⟩
        rw [hpool]
        decide
      · intro b' hleased _
        have hne : b' ≠ b := by
          rintro rfl
          rw [hpool] at hleased
          cases hleased
        exact (Function.update_of_ne hne ..).trans hleased
    case isFalse => cases hstep
  | bind =>
    rw [CancelState.stepSession] at hstep
    split at hstep
    case h_1 b hb =>
      obtain ⟨-, -, hlive⟩ := h.leased i s b hi hb
      split at hstep
      case isTrue hplace =>
        split at hstep
        case h_1 target htarget =>
          obtain rfl := some.inj hstep
          rw [h.modifyEntry_setPlace hi hlive]
          refine h.setPlace hi _ rfl rfl rfl hlive ⟨nofun, nofun⟩ ?_ fun _ _ => .inl rfl
          rintro target' ⟨⟩
          exact ⟨rfl, b, hb, htarget⟩
        case h_2 hnokey =>
          obtain rfl := some.inj hstep
          rw [CancelState.setPlace_eq hi]
          refine h.setPlace hi _ rfl rfl rfl hlive ⟨nofun, nofun⟩ ?_ fun _ _ => .inl rfl
          intro target htarget
          exact ⟨rfl, (h.target i s target hi htarget).2⟩
      case isFalse => cases hstep
    case h_2 => cases hstep
  | unbind =>
    rw [CancelState.stepSession] at hstep
    split at hstep
    case isTrue hplace =>
      obtain rfl := some.inj hstep
      have hlive : s.place ≠ .ended := by rcases hplace with hp | hp | hp <;> rw [hp] <;> decide
      rw [h.modifyEntry_setPlace hi hlive]
      refine h.setPlace hi _ rfl rfl rfl hlive ⟨nofun, nofun⟩ ?_ fun _ _ => .inr rfl
      rintro target ⟨⟩
    case isFalse => cases hstep
  | load =>
    rw [CancelState.stepSession] at hstep
    split at hstep
    case isTrue hguard =>
      obtain ⟨hplace, hclear⟩ := hguard
      obtain rfl := some.inj hstep
      have hnone := h.target_eq_none hi (by rw [hplace]; decide)
      rw [CancelState.setPlace_eq hi]
      refine h.setPlace hi _ rfl rfl rfl (by rw [hplace]; decide) ⟨nofun, nofun⟩ ?_ ?_
      · intro target htarget
        rw [hnone] at htarget
        cases htarget
      -- nobody forwards, since the flag is clear
      · intro hflag
        rw [hclear] at hflag
        cases hflag
    case isFalse => cases hstep
  | release | discard =>
    rw [CancelState.stepSession] at hstep
    split at hstep
    case isTrue hplace =>
      refine h.giveUp hi (fun target hbound => ?_) hstep
      rcases hplace with hp | hp <;> rw [hp] at hbound <;> exact absurd hbound (by decide)
    case isFalse => cases hstep
  | drop =>
    refine h.giveUp hi ?_ hstep
    rintro target hbound ⟨b, hb, htarget⟩
    rcases hunbinds s hi b hb (by rw [htarget]; rfl) with hp | hp
    all_goals rw [hp] at hbound; exact absurd hbound (by decide)
  | finish =>
    rw [CancelState.stepSession] at hstep
    split at hstep
    case isTrue hidle =>
      obtain rfl := some.inj hstep
      have hnone := h.target_eq_none hi (by rw [hidle]; nofun)
      have hfree : ∀ b, s.lease ≠ some b := fun b hb => (h.leased i s b hi hb).2.1 hidle
      have hflag := h.flag_kept hi
      rw [CancelState.setPlace_eq hi]
      refine h.setSession hi { s with place := .ended } st.pool _
        (h.registered.finish hi (by rw [hidle]; nofun)) (by rintro _ ⟨⟩; rfl) hflag ?_ ?_ ?_
        fun b hpool _ => hpool
      · intro target htarget
        rw [hnone] at htarget
        cases htarget
      · rintro _ ⟨⟩ target _ _ ⟨b, hb, -⟩
        exact absurd hb (hfree b)
      · intro b hb
        exact absurd hb (hfree b)
    case isFalse => cases hstep

end

/-! ### Requests -/

section

variable {cancelTarget : β → Option CancelTarget} {st st' : CancelState β} {i r : Nat}
  {s : Session β} {q : Request} {es : List (Event β)}

/-- A request goes on; if it has a flag then, the flag is set and no other request has it. -/
theorem Safe.setRequest (h : Safe cancelTarget st) (r : Nat) (q' : Request)
    (hfound : ∀ i, q'.session = some i → ∃ s, st.sessions i = some s ∧ s.key = q'.key)
    (hflagged : ∀ i, q'.flagged = some i →
      (∀ s, st.sessions i = some s → s.binding.forwarding = true) ∧
        ∀ r' q, r' ≠ r → st.requests r' = some q → q.flagged ≠ some i)
    (hforwarding : ∀ i target s, q'.place = .forwarding i target → st.sessions i = some s →
      (s.place = .bound ∨ s.place = .unbinding) ∧ s.Has cancelTarget target) :
    Safe cancelTarget (st.setRequest r q') := by
  refine ⟨⟨h.registered.own, h.registered.entry⟩, h.target, ?_, ?_, ?_, ?_, h.leased, h.exclusive⟩
  · intro r' x i hx hsession
    rcases update_eq_some hx with ⟨rfl, rfl⟩ | ⟨-, hxold⟩
    · exact hfound i hsession
    · exact h.found r' x i hxold hsession
  · intro r' x i s hx hflag hi
    rcases update_eq_some hx with ⟨rfl, rfl⟩ | ⟨-, hxold⟩
    · exact (hflagged i hflag).1 s hi
    · exact h.flagged r' x i s hxold hflag hi
  · intro r₁ r₂ x y i hx hy hxflag hyflag
    rcases update_eq_some hx with ⟨rfl, rfl⟩ | ⟨-, hxold⟩
    · rcases update_eq_some hy with ⟨rfl, rfl⟩ | ⟨hne, hyold⟩
      · rfl
      · exact absurd hyflag ((hflagged i hxflag).2 r₂ y hne hyold)
    · rcases update_eq_some hy with ⟨rfl, rfl⟩ | ⟨-, hyold⟩
      · by_contra hne
        exact (hflagged i hyflag).2 r₁ x hne hxold hxflag
      · exact h.alone r₁ r₂ x y i hxold hyold hxflag hyflag
  · intro r' x i target s hx hplace hi
    rcases update_eq_some hx with ⟨rfl, rfl⟩ | ⟨-, hxold⟩
    · exact hforwarding i target s hplace hi
    · exact h.forwarding r' x i target s hxold hplace hi

theorem Request.session_of_flagged (hflagged : q.flagged = some i) : q.session = some i := by
  obtain ⟨key, place⟩ := q
  cases place <;> first | exact hflagged | cases hflagged

section

variable (h : Safe cancelTarget st)
include h

/-- A request that has not found a session, or is done. -/
theorem Safe.setRequest_of_session_none (r : Nat) (q' : Request)
    (hsession : q'.session = none) : Safe cancelTarget (st.setRequest r q') := by
  refine h.setRequest r q' ?_ ?_ ?_
  · intro i hi
    rw [hsession] at hi
    cases hi
  · intro i hi
    rw [Request.session_of_flagged hi] at hsession
    cases hsession
  · intro i target s hplace
    rw [Request.session, hplace] at hsession
    cases hsession

/-- A request that keeps its flag. -/
theorem Safe.keepFlag (hq : st.requests r = some q)
    (hflagged : q.flagged = some i) :
    (∀ s, st.sessions i = some s → s.binding.forwarding = true) ∧
      ∀ r' q', r' ≠ r → st.requests r' = some q' → q'.flagged ≠ some i :=
  ⟨fun s hi => h.flagged r q i s hq hflagged hi,
    fun r' q' hne hq' hflag => hne (h.alone r' r q' q i hq' hq hflag hflagged)⟩

/-- The flag of a binding changes while no request has it. -/
theorem Safe.setFlag (hi : st.sessions i = some s) (flag : Bool)
    (hnone : ∀ r q, st.requests r = some q → q.flagged ≠ some i) :
    Safe cancelTarget (st.setSession i
      { s with binding := { s.binding with forwarding := flag } }) := by
  refine h.setSession hi _ st.pool st.entries (h.registered.setSession hi rfl Iff.rfl)
    (by rintro _ ⟨⟩; rfl) (fun r q hq hflag => absurd hflag (hnone r q hq)) ?_ ?_ ?_
    fun b hpool _ => hpool
  · intro target htarget
    exact h.target i s target hi htarget
  · rintro _ ⟨⟩ target _ hplace hhas
    exact ⟨hplace, hhas⟩
  · intro b hb
    exact ⟨h.leased i s b hi hb, .inl ⟨s, rfl, hb⟩⟩

/-- A request clears its flag and is done. -/
theorem Safe.clearFlag (hq : st.requests r = some q)
    (hflagged : q.flagged = some i) :
    Safe cancelTarget ((st.modifyBinding i fun binding =>
      { binding with forwarding := false }).setRequest r { q with place := .done }) := by
  obtain ⟨s, hi, -⟩ := h.found r q i hq (Request.session_of_flagged hflagged)
  have hdone : Safe cancelTarget (st.setRequest r { q with place := .done }) :=
    h.setRequest_of_session_none r _ rfl
  rw [CancelState.modifyBinding_eq hi]
  refine hdone.setFlag hi false fun r' x hx hflag => ?_
  rcases update_eq_some hx with ⟨rfl, rfl⟩ | ⟨hne, hxold⟩
  · cases hflag
  · exact (h.keepFlag hq hflagged).2 r' x hne hxold hflag

end

/-- What a packet is sent to: the backend of the session that owns the key. -/
def Event.Own (cancelTarget : β → Option CancelTarget) : Event β → Prop
  | .sent key s target => s.key = key ∧ s.Has cancelTarget target

/-- **Requests keep the invariant**, and send to the backend of the session they found. -/
theorem Safe.stepRequest (h : Safe cancelTarget st) (hq : st.requests r = some q)
    (hstep : st.stepRequest r q = some (st', es)) :
    Safe cancelTarget st' ∧ ∀ e ∈ es, e.Own cancelTarget := by
  obtain ⟨key, place⟩ := q
  cases place with
  | arriving =>
    rw [CancelState.stepRequest] at hstep
    dsimp only at hstep
    split at hstep
    case h_1 i hentry =>
      cases hstep
      obtain ⟨s, hi, hkey, -⟩ := h.registered.entry key i hentry
      refine ⟨h.setRequest r _ ?_ (by rintro _ ⟨⟩) (by rintro _ _ _ ⟨⟩), by simp⟩
      rintro j ⟨⟩
      exact ⟨s, hi, hkey⟩
    case h_2 =>
      cases hstep
      exact ⟨h.setRequest_of_session_none r _ rfl, by simp⟩
  | found i =>
    obtain ⟨s, hi, hkey⟩ := h.found r _ i hq rfl
    rw [CancelState.stepRequest] at hstep
    dsimp only at hstep
    rw [hi] at hstep
    dsimp only at hstep
    split at hstep
    case isTrue =>
      cases hstep
      exact ⟨h.setRequest_of_session_none r _ rfl, by simp⟩
    case isFalse hclear =>
      cases hstep
      -- the flag was clear, so nobody has it
      have hnone : ∀ r q, st.requests r = some q → q.flagged ≠ some i := fun r q hq hflag =>
        hclear (h.flag_kept hi r q hq hflag)
      rw [CancelState.modifyBinding_eq hi]
      refine ⟨(h.setFlag hi true hnone).setRequest r _ ?_ ?_ (by rintro _ _ _ ⟨⟩), by simp⟩
      · rintro j ⟨⟩
        exact ⟨_, Function.update_self .., hkey⟩
      · rintro j ⟨⟩
        refine ⟨fun x hx => ?_, fun r' q' _ hq' => hnone r' q' hq'⟩
        rcases update_eq_some hx with ⟨-, rfl⟩ | ⟨hne, -⟩
        · rfl
        · exact absurd rfl hne
  | acquired i =>
    obtain ⟨s, hi, hkey⟩ := h.found r _ i hq rfl
    rw [CancelState.stepRequest] at hstep
    dsimp only at hstep
    rw [hi] at hstep
    dsimp only at hstep
    split at hstep
    case h_1 target htarget =>
      cases hstep
      refine ⟨h.setRequest r _ ?_ ?_ ?_, by simp⟩
      · rintro j ⟨⟩
        exact ⟨s, hi, hkey⟩
      · rintro j ⟨⟩
        exact h.keepFlag hq rfl
      · rintro j target' x ⟨⟩ hx
        obtain rfl := some.inj (hi.symm.trans hx)
        obtain ⟨hbound, hhas⟩ := h.target i s target hi htarget
        exact ⟨.inl hbound, hhas⟩
    case h_2 =>
      cases hstep
      refine ⟨h.setRequest r _ ?_ ?_ (by rintro _ _ _ ⟨⟩), by simp⟩
      · rintro j ⟨⟩
        exact ⟨s, hi, hkey⟩
      · rintro j ⟨⟩
        exact h.keepFlag hq rfl
  | missed i =>
    cases hstep
    exact ⟨h.clearFlag hq rfl, by simp⟩
  | forwarding i target =>
    obtain ⟨s, hi, hkey⟩ := h.found r _ i hq rfl
    obtain ⟨-, hhas⟩ := h.forwarding r _ i target s hq rfl hi
    rw [CancelState.stepRequest] at hstep
    dsimp only at hstep
    rw [hi] at hstep
    cases hstep
    refine ⟨h.setRequest r _ ?_ ?_ (by rintro _ _ _ ⟨⟩), ?_⟩
    · rintro j ⟨⟩
      exact ⟨s, hi, hkey⟩
    · rintro j ⟨⟩
      exact h.keepFlag hq rfl
    · intro e he
      obtain rfl := List.mem_singleton.1 he
      exact ⟨hkey, hhas⟩
  | sent i | done => cases hstep

/-! ### Every run -/

/-- A key is issued to a new session. -/
theorem Registered.start (h : Registered st) {key : ClientKey} (hi : st.sessions i = none)
    (hkey : st.entries key = none) :
    Registered { st.setSession i { key } with
      entries := Function.update st.entries key (some i) } := by
  refine ⟨?_, ?_⟩
  · intro j x hj hx
    rcases update_eq_some hj with ⟨rfl, rfl⟩ | ⟨-, hjold⟩
    · exact Function.update_self ..
    · have hentry := h.own j x hjold hx
      have hne : x.key ≠ key := by
        rintro rfl
        rw [hkey] at hentry
        cases hentry
      exact (Function.update_of_ne hne ..).trans hentry
  · intro key' j hentry
    have hupdate : Function.update st.entries key (some i) key' = some j := hentry
    by_cases hsame : key' = key
    · subst hsame
      rw [Function.update_self] at hupdate
      obtain rfl := some.inj hupdate
      exact ⟨_, Function.update_self .., rfl, by rintro ⟨⟩⟩
    · rw [Function.update_of_ne hsame] at hupdate
      obtain ⟨x, hx, hxkey, hxlive⟩ := h.entry key' j hupdate
      have hj : j ≠ i := by
        rintro rfl
        rw [hi] at hx
        cases hx
      exact ⟨x, (Function.update_of_ne hj ..).trans hx, hxkey, hxlive⟩

theorem Safe.start (h : Safe cancelTarget st) {key : ClientKey} (hi : st.sessions i = none)
    (hkey : st.entries key = none) :
    Safe cancelTarget { st.setSession i { key } with
      entries := Function.update st.entries key (some i) } := by
  refine h.setSession hi { key } st.pool _ (h.registered.start hi hkey) nofun ?_ nofun nofun nofun
    fun b hpool _ => hpool
  -- no request has found the session yet
  intro r q hq hflagged
  obtain ⟨s, hs, -⟩ := h.found r q i hq (Request.session_of_flagged hflagged)
  rw [hi] at hs
  cases hs

variable [DecidableEq β]

/-- **One step.** -/
theorem Safe.step (h : Safe cancelTarget st) {input : Input β}
    (hunbinds : st.Unbinds cancelTarget input)
    (hstep : st.step cancelTarget input = some (st', es)) :
    Safe cancelTarget st' ∧ ∀ e ∈ es, e.Own cancelTarget := by
  cases input with
  | start i key =>
    rw [CancelState.step] at hstep
    split at hstep
    case h_1 hi hkey =>
      cases hstep
      exact ⟨h.start hi hkey, by simp⟩
    case h_2 => cases hstep
  | session i action =>
    rw [CancelState.step] at hstep
    split at hstep
    case h_1 s hi =>
      split at hstep
      case h_1 st₁ hsession =>
        cases hstep
        exact ⟨h.stepSession hi hunbinds hsession, by simp⟩
      case h_2 => cases hstep
    case h_2 => cases hstep
  | request r key =>
    rw [CancelState.step] at hstep
    split at hstep
    case h_1 =>
      cases hstep
      exact ⟨h.setRequest_of_session_none r _ rfl, by simp⟩
    case h_2 => cases hstep
  | proceed r =>
    rw [CancelState.step] at hstep
    split at hstep
    case h_1 q hq => exact h.stepRequest hq hstep
    case h_2 => cases hstep
  | dropLease r =>
    rw [CancelState.step] at hstep
    split at hstep
    case h_1 q hq =>
      split at hstep
      case h_1 i target hplace | h_2 i hplace =>
        cases hstep
        exact ⟨h.clearFlag hq (by rw [Request.flagged, hplace]), by simp⟩
      case h_3 => cases hstep
    case h_2 => cases hstep

end

/-- **Cancel requests reach their own session's backend only.** In every run in which no session
drops a backend that is bound, or that `unbind` is still waiting for, a packet is sent only to
the backend that the session owning the key has then, and no other session has. A session whose
`unbind` has returned, and one that has no backend, has no target, and no request forwards for
it. -/
theorem cancel_reaches_own_backend [DecidableEq β] (cancelTarget : β → Option CancelTarget)
    (inputs : List (Input β)) {st : CancelState β} {es : List (Event β)}
    (hrun : (cancelMachine cancelTarget).run {} inputs = some (st, es))
    (hunbinds : (cancelMachine cancelTarget).Meets (CancelState.Unbinds cancelTarget) {} inputs) :
    (∀ key s target, .sent key s target ∈ es →
      s.key = key ∧ ∃ b, s.lease = some b ∧ cancelTarget b = some target) ∧
    (∀ i s, st.sessions i = some s → s.place = .unbound ∨ s.lease = none →
      s.binding.target = none ∧ ∀ r q target, st.requests r = some q →
        q.place ≠ .forwarding i target) ∧
    ∀ i j s s' b, st.sessions i = some s → st.sessions j = some s' → s.lease = some b →
      s'.lease = some b → i = j := by
  obtain ⟨h, hes⟩ := (cancelMachine cancelTarget).invariant_of_step (I := Safe cancelTarget)
    (fun _ _ _ _ h hunbinds hstep => h.step hunbinds hstep) (.initial _) hrun hunbinds
  refine ⟨fun key s target he => hes _ he, ?_, h.exclusive⟩
  intro i s hi hfree
  have hnone : ∀ target, s.place = .bound ∨ s.place = .unbinding → ¬ s.Has cancelTarget target := by
    rintro target hplace ⟨b, hb, -⟩
    rcases hfree with hunbound | hlease
    · rw [hunbound] at hplace
      exact absurd hplace (by decide)
    · rw [hlease] at hb
      cases hb
  refine ⟨?_, ?_⟩
  · rcases htarget : s.binding.target with _ | target
    · rfl
    · obtain ⟨hbound, hhas⟩ := h.target i s target hi htarget
      exact absurd hhas (hnone target (.inl hbound))
  · intro r q target hq hplace
    obtain ⟨hbound, hhas⟩ := h.forwarding r q i target s hq hplace hi
    exact hnone target hbound hhas

/-- The backends of a small pool, numbered by their process ids. -/
def smallPool (b : Nat) : Option CancelTarget := some ⟨"db:5432".toList, b, 9⟩

/-- A cycle of a session; a cancel request has begun to forward when the backend is unbound, is
waited for, and the backend goes to another session. -/
def cancelAndHandOver : List (Input Nat) :=
  [.start 0 (1, 1), .start 1 (2, 2), .session 0 (.checkout 7), .session 0 .bind,
    .request 0 (1, 1), .proceed 0, .proceed 0, .proceed 0, .session 0 .unbind, .proceed 0,
    .dropLease 0, .session 0 .load, .session 0 .release, .session 1 (.checkout 7)]

theorem cancel_cancelAndHandOver :
    ∃ st es s, (cancelMachine smallPool).run {} cancelAndHandOver = some (st, es) ∧
      .sent (1, 1) s ⟨"db:5432".toList, 7, 9⟩ ∈ es ∧
      s.key = (1, 1) ∧ ∃ b, s.lease = some b ∧ smallPool b = some ⟨"db:5432".toList, 7, 9⟩ := by
  have hmeets : (cancelMachine smallPool).Meets (CancelState.Unbinds smallPool) {}
      cancelAndHandOver := by decide +kernel
  have hrun : ∃ r ∈ (cancelMachine smallPool).run {} cancelAndHandOver,
      .sent (1, 1) ⟨(1, 1), ⟨none, true⟩, some 7, .unbinding⟩ ⟨"db:5432".toList, 7, 9⟩ ∈ r.2 := by
    decide +kernel
  obtain ⟨⟨st, es⟩, hrun, hsent⟩ := hrun
  obtain ⟨hown, -⟩ := cancel_reaches_own_backend smallPool cancelAndHandOver hrun hmeets
  exact ⟨st, es, _, hrun, hsent, hown _ _ _ hsent⟩

/-- **A dropped backend is still reached.** A session binds its backend, a cancel request begins
to forward, and an error makes the session drop the backend without unbinding it: the packet is
sent when the session has no backend any more. And with the session gone from the registry, a
request that had found the binding before still acquires its target. -/
theorem cancel_sent_after_drop :
    (∃ r ∈ (cancelMachine smallPool).run {}
        [.start 0 (1, 1), .session 0 (.checkout 7), .session 0 .bind, .request 0 (1, 1), .proceed 0,
          .proceed 0, .proceed 0, .session 0 .drop, .proceed 0],
      .sent (1, 1) ⟨(1, 1), ⟨some ⟨"db:5432".toList, 7, 9⟩, true⟩, none, .idle⟩
        ⟨"db:5432".toList, 7, 9⟩ ∈ r.2) ∧
    ∃ r ∈ (cancelMachine smallPool).run {}
        [.start 0 (1, 1), .session 0 (.checkout 7), .session 0 .bind, .request 0 (1, 1), .proceed 0,
          .session 0 .drop, .session 0 .finish, .proceed 0, .proceed 0, .proceed 0],
      .sent (1, 1) ⟨(1, 1), ⟨some ⟨"db:5432".toList, 7, 9⟩, true⟩, none, .ended⟩
        ⟨"db:5432".toList, 7, 9⟩ ∈ r.2 := by
  decide +kernel

end Cancel

end PgKinetic
