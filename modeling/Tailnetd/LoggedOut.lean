/-
  A logged-out node and the administrator's credential.

  A logout ends the registration, and only the operator is meant to start another.  The log records
  the credential each bring-up carries to the engine, so the question is which entries a run adds
  after a logout.  Two things keep them free of credentials: a daemon with nothing armed and nothing
  owed starts no bring-up at all (`Inert`), and where no key can be used a bring-up carries none.

  The logout itself spoils the first: under a reconnect window it arms the timer like any other
  disconnect, and it clears the mark by which the credential of the policy would be refused.
-/
import Tailnetd.PolicyFields
import Tailnetd.Supersede

namespace Tailnetd

open Machine Epoch

/-! ## What a step begins -/

/-- **Every bring-up that a step records was started with the recorded credential.** -/
theorem began_of_step {H : Host} {d d' : Daemon} {e : Event}
    (hstep : Daemon.step H d e = some d') :
    ∃ newer, d'.log = newer ++ d.log ∧ ∀ origin g key, .began origin g key ∈ newer →
      ∃ o netmap io, Starts H d e origin key o netmap io := by
  have none_began : ∀ origin g key, Did.began origin g key ∈ ([] : List Did) →
      ∃ o netmap io, Starts H d e origin key o netmap io := by
    intro origin g key hmem
    cases hmem
  have one_began : ∀ x : Did, x.captured? = none → ∀ origin g key, .began origin g key ∈ [x] →
      ∃ o netmap io, Starts H d e origin key o netmap io := by
    intro x hx origin g key hmem
    rw [← List.mem_singleton.mp hmem] at hx
    cases hx
  have grant_began : ∀ named edit origin g key, .began origin g key ∈ Daemon.grantOf named edit →
      ∃ o netmap io, Starts H d e origin key o netmap io := by
    intro named edit origin g key hmem
    unfold Daemon.grantOf at hmem
    split at hmem
    · exact one_began _ rfl origin g key hmem
    · cases hmem
  cases step_shift hstep with
  | kept he hb hts hh hr => exact ⟨[], rfl, none_began⟩
  | preflightFailed hfail hb hts hh => exact ⟨[], rfl, none_began⟩
  | preflightPassed hcause hb hts hh => exact ⟨[], rfl, none_began⟩
  | rebuildRefused hcheck hts hh => exact ⟨[], rfl, none_began⟩
  | @started e origin authkey o netmap io ts d' hstart hts hh hup =>
    cases hup with
    | keyKept hforce hremove => exact ⟨[], rfl, none_began⟩
    | failed hcheck hfail hb => exact ⟨_, rfl, grant_began _ _⟩
    | begun hcheck hconfig hkey hb =>
      refine ⟨_ :: Daemon.grantOf o.exitNode _, rfl, ?_⟩
      intro origin' g key hmem
      rcases List.mem_cons.mp hmem with heq | hgrant
      · cases heq
        exact ⟨o, netmap, io, hstart⟩
      · exact grant_began _ _ origin' g key hgrant
  | installed hgen hb hts hr hpre hh => exact ⟨[_], rfl, one_began _ rfl⟩
  | handedBack hgen hb hts hr hpre hh => exact ⟨[_], rfl, one_began _ rfl⟩
  | buildFailed hb hts hr hpre hh => exact ⟨[_], rfl, one_began _ rfl⟩
  | setFailed hcheck hfail hb => exact ⟨_, rfl, grant_began _ _⟩
  | setPersisted hcheck hdev hb => exact ⟨_, rfl, grant_began _ _⟩
  | setRebuild hcheck hdev hneeds hb => exact ⟨_, rfl, grant_began _ _⟩
  | setLive hcheck hdev hneeds hb => exact ⟨_, rfl, grant_began _ _⟩
  | reloadKeyFailed hsource hdoc hvalid hkey => exact ⟨[], rfl, none_began⟩
  | reloadFailed hsource hdoc hvalid hfail hb => exact ⟨[], rfl, none_began⟩
  | reloadApplied hsource hdoc hvalid howed hb => exact ⟨[], rfl, none_began⟩
  | @down e b' ts mark he hmark hb hts hh =>
    exact ⟨[mark], rfl, one_began mark (by rcases hmark with rfl | rfl <;> rfl)⟩
  | @logout reason io b' mark hmark hb =>
    exact ⟨[mark], rfl, one_began mark (by rcases hmark with rfl | rfl <;> rfl)⟩
  | tornDown he hb => exact ⟨[_], rfl, one_began _ rfl⟩
  | profileActivated he hne hb => exact ⟨[_], rfl, one_began _ rfl⟩
  | profileEmptied he hb => exact ⟨[_], rfl, one_began _ rfl⟩
  | policyMoved => exact ⟨[], rfl, none_began⟩
  | policyTick => exact ⟨[], rfl, none_began⟩
  | timerDropped => exact ⟨[], rfl, none_began⟩
  | timerClaimed harmed hprofile => exact ⟨[], rfl, none_began⟩
  | retried hretry => exact ⟨[], rfl, none_began⟩
  | resumeKeyed htask hkey hts hh hr => exact ⟨[], rfl, none_began⟩
  | engine => exact ⟨[], rfl, none_began⟩

/-! ## A daemon with nothing armed and nothing owed -/

/-- Whether this task leads to a bring-up of the daemon's own. -/
def Task.leadsUp : Task → Bool
  | .preflight _ => true
  | .rebuild _ => true
  | .reconnect => true
  | .resumeCheck => true
  | .resume _ => true
  | _ => false

/-- The sections that disconnect the node. -/
def Event.stops : Event → Bool
  | .down _ _ => true
  | .logout _ _ => true
  | .bringDown _ _ => true
  | _ => false

/-- An operator's `up` or `login`. -/
def Event.bringsUp : Event → Bool
  | .up _ _ _ _ _ => true
  | _ => false

/-- A disconnect that arms no reconnect timer: the node was not meant to run, or the policy has no
    reconnect window. -/
def ArmsNothing (H : Host) (d : Daemon) (e : Event) : Prop :=
  e.stops = true → d.backend.prefs.wantRunning = false ∨ reconnectAfterIn (d.env H).settings = none

/-- Nothing is armed and nothing is owed that leads to a bring-up. -/
structure Unarmed (d : Daemon) : Prop where
  timer : d.backend.reconnect = none
  tasks : ∀ t ∈ d.tasks, t.leadsUp = false

/-- A SIGHUP does not retry the auto-start: the node is logged out, or the profile was not the one
    started at boot. -/
def NoRetry (d : Daemon) : Prop :=
  d.backend.prefs.loggedOut = true ∨ d.backend.bootAttemptedUp = false

/-- A daemon that starts no bring-up of its own. -/
structure Inert (d : Daemon) : Prop where
  unarmed : Unarmed d
  noRetry : NoRetry d
  sound : Sound (slotOf d)
  /-- No engine is installed or coming in. -/
  notLive : ¬ (slotOf d).Live

/-- Nothing was armed, owed or logged in. -/
theorem Inert.kept {d d' : Daemon} (h : Inert d)
    (htimer : d'.backend.reconnect = d.backend.reconnect) (hts : d'.tasks ⊆ d.tasks)
    (hlogged : d'.backend.prefs.loggedOut = d.backend.prefs.loggedOut)
    (hboot : d'.backend.bootAttemptedUp = d.backend.bootAttemptedUp) :
    Unarmed d' ∧ NoRetry d' := by
  constructor
  · exact ⟨htimer.trans h.unarmed.timer, fun t ht => h.unarmed.tasks t (hts ht)⟩
  · unfold NoRetry
    rw [hlogged, hboot]
    exact h.noRetry

theorem Unarmed.not_owed {d : Daemon} (h : Unarmed d) {i : Nat} {t : Task}
    (htask : d.tasks[i]? = some t) (ht : t.leadsUp = true) : False := by
  have hno := h.tasks t (List.mem_of_getElem? htask)
  rw [ht] at hno
  cases hno

/-- Only an operator starts a bring-up on a daemon with nothing owed. -/
theorem Unarmed.not_starts {H : Host} {d : Daemon} (h : Unarmed d) {e : Event}
    (hup : e.bringsUp = false) {origin : Origin} {authkey : Option String} {o : UpOptions}
    {netmap : ExitNodeFacts} {io : Io} (hstart : Starts H d e origin authkey o netmap io) :
    False := by
  cases hstart with
  | operator => cases hup
  | rebuild htask => exact h.not_owed htask rfl
  | reconnect htask => exact h.not_owed htask rfl
  | resume htask => exact h.not_owed htask rfl

theorem Inert.device {d : Daemon} (h : Inert d) : d.backend.device = none := by
  cases hdev : d.backend.device with
  | none => rfl
  | some dev =>
    refine absurd (.inl ?_) h.notLive
    unfold slotOf
    rw [hdev]
    rfl

/-- A disconnect that arms nothing leaves the timer as it was. -/
theorem timerAfter_unarmed {E : Env} {b : Backend}
    (h : b.prefs.wantRunning = false ∨ reconnectAfterIn E.settings = none) :
    (b.timerAfter E b.prefs.wantRunning).1 = b.reconnect := by
  unfold Backend.timerAfter
  rcases h with hrun | hafter
  · rw [hrun]
  · rw [hafter]
    cases b.prefs.wantRunning <;> rfl

/-- **An inert daemon gets nothing armed or owed** by an event that is no `up` and arms nothing. -/
theorem unarmed_step {H : Host} {d d' : Daemon} {e : Event} (h : Inert d)
    (hup : e.bringsUp = false) (hgood : ArmsNothing H d e)
    (hstep : Daemon.step H d e = some d') : Unarmed d' ∧ NoRetry d' := by
  have hunarmed := h.unarmed
  have hsame : d.tasks ⊆ d.tasks := List.Subset.refl d.tasks
  cases step_shift hstep with
  | kept he hb hts hh hr =>
    obtain ⟨disk, ticks, key, -, rfl⟩ := hb
    exact h.kept rfl hts rfl rfl
  | preflightFailed hfail hb hts hh =>
    obtain ⟨disk, ticks, key, -, rfl⟩ := hb
    exact h.kept rfl hts rfl rfl
  | preflightPassed hcause hb hts hh => exact (hunarmed.not_owed hcause rfl).elim
  | rebuildRefused hcheck hts hh => exact h.kept rfl hts rfl rfl
  | started hstart hts hh hup' => exact (hunarmed.not_starts hup hstart).elim
  | installed hgen hb hts hr hpre hh =>
    obtain ⟨disk, ticks, key, -, rfl⟩ := hb
    exact h.kept rfl hts rfl rfl
  | handedBack hgen hb hts hr hpre hh =>
    obtain ⟨disk, ticks, key, -, rfl⟩ := hb
    exact h.kept rfl hts rfl rfl
  | buildFailed hb hts hr hpre hh =>
    obtain ⟨disk, ticks, key, -, rfl⟩ := hb
    exact h.kept rfl hts rfl rfl
  | setFailed hcheck hfail hb =>
    obtain ⟨disk, ticks, key, -, rfl⟩ := hb
    refine h.kept ?_ hsame ?_ ?_ <;> rw [Backend.setResult, Backend.applySet_eq]
    exact policy_loggedOut _ _ _
  | setPersisted hcheck hdev hb =>
    obtain ⟨disk, ticks, key, -, rfl⟩ := hb
    refine h.kept ?_ hsame ?_ ?_ <;> rw [Backend.setResult, Backend.applySet_eq]
    exact policy_loggedOut _ _ _
  | setRebuild hcheck hdev hneeds hb =>
    -- there is no engine to rebuild
    rw [h.device] at hdev
    cases hdev
  | setLive hcheck hdev hneeds hb =>
    rw [h.device] at hdev
    cases hdev
  | reloadKeyFailed hsource hdoc hvalid hkey => exact h.kept rfl hsame rfl rfl
  | reloadFailed hsource hdoc hvalid hfail hb =>
    obtain ⟨disk, ticks, key, -, rfl⟩ := hb
    exact h.kept rfl hsame (policy_loggedOut _ _ _) rfl
  | @reloadApplied document contents io c path b' owed hsource hdoc hvalid howed hb =>
    obtain ⟨disk, ticks, key, -, rfl⟩ := hb
    refine h.kept rfl ?_ (policy_loggedOut _ _ _) rfl
    have haction : (d.backend.configured (d.env H) c).reloadAction = .persistedOnly := by
      unfold Backend.reloadAction
      rw [show (d.backend.configured (d.env H) c).device = none from h.device]
      rfl
    show d.tasks ++ owed ⊆ d.tasks
    rw [howed, haction, reloadOwes, List.append_nil]
    exact hsame
  | down he hmark hb hts hh =>
    obtain ⟨disk, ticks, key, -, rfl⟩ := hb
    have hstops : e.stops = true := by rcases he with ⟨_, _, rfl⟩ | ⟨_, _, rfl⟩ <;> rfl
    refine h.kept ?_ hts ?_ ?_ <;> rw [Backend.downResult_eq]
    exact timerAfter_unarmed (hgood hstops)
  | logout hmark hb =>
    obtain ⟨disk, ticks, key, -, rfl⟩ := hb
    rw [Backend.logoutResult_eq]
    refine ⟨⟨?_, hunarmed.tasks⟩, .inl rfl⟩
    exact (timerAfter_unarmed (hgood rfl)).trans hunarmed.timer
  | tornDown he hb =>
    obtain ⟨disk, ticks, key, -, rfl⟩ := hb
    exact h.kept rfl hsame rfl rfl
  | profileActivated he hne hb =>
    obtain ⟨disk, ticks, key, -, rfl⟩ := hb
    exact ⟨⟨rfl, hunarmed.tasks⟩, .inr rfl⟩
  | profileEmptied he hb =>
    obtain ⟨disk, ticks, key, -, rfl⟩ := hb
    exact ⟨⟨rfl, hunarmed.tasks⟩, .inr rfl⟩
  | policyMoved => exact h.kept rfl hsame rfl rfl
  | policyTick =>
    rw [Backend.exitNodePolicyChanged_eq, Backend.sysPolicyChanged_eq]
    refine ⟨⟨?_, hunarmed.tasks⟩, h.noRetry⟩
    show (if _ then d.backend.reconnect else none) = none
    rw [hunarmed.timer, ite_self]
  | timerDropped => exact ⟨⟨rfl, hunarmed.tasks⟩, h.noRetry⟩
  | timerClaimed harmed hprofile =>
    rw [hunarmed.timer] at harmed
    cases harmed
  | retried hretry =>
    -- the retry asks for a node that is meant to run and was started at boot
    unfold Daemon.retriesAutoStart at hretry
    simp only [Backend.wantsRunning, Prefs.wantsRunning, Bool.and_eq_true, Bool.not_eq_true'] at hretry
    rcases h.noRetry with hlogged | hboot
    · rw [hlogged] at hretry
      exact absurd hretry.1.1.2 (by decide)
    · rw [hboot] at hretry
      exact absurd hretry.2 (by decide)
  | resumeKeyed htask hkey hts hh hr => exact (hunarmed.not_owed htask rfl).elim
  | engine => exact h.kept rfl hsame rfl rfl

/-- **An inert daemon stays inert** until an operator brings it up. -/
theorem inert_step {H : Host} {d d' : Daemon} {e : Event} (h : Inert d)
    (hup : e.bringsUp = false) (hgood : ArmsNothing H d e)
    (hstep : Daemon.step H d e = some d') : Inert d' := by
  obtain ⟨hunarmed, hretry⟩ := unarmed_step h hup hgood hstep
  refine ⟨hunarmed, hretry, sound_step h.sound hstep, ?_⟩
  intro hlive
  rcases live_shift h.sound hstep hlive with hbefore | ⟨_, _, _, _, _, _, hstart, -⟩
  · exact h.notLive hbefore
  · exact h.unarmed.not_starts hup hstart

/-- A successful logout with nothing armed and nothing owed leaves an inert daemon. -/
theorem inert_of_logout {H : Host} {d d' : Daemon} {reason : Option String} {io : Io}
    (hsound : Sound (slotOf d)) (hunarmed : Unarmed d)
    (harms : ArmsNothing H d (.logout reason io))
    (hok : (d.backend.logout (d.env H) (.operator reason) io).1 = .ok ())
    (hstep : Daemon.step H d (.logout reason io) = some d') : Inert d' := by
  have hsound' := sound_step hsound hstep
  cases hstep
  have hcases := Backend.logout_cases (d.env H) d.backend (.operator reason) io
  unfold Daemon.logout at hsound' ⊢
  generalize d.backend.logout (d.env H) (.operator reason) io = out at hcases hok hsound' ⊢
  obtain ⟨result, b'⟩ := out
  rcases hcases with ⟨m, -, hres⟩ | ⟨-, -, m, hres⟩ | ⟨-, hb, -⟩
  · cases hres
    cases hok
  · cases hres
    cases hok
  · obtain ⟨disk, ticks, key, -, rfl⟩ := hb
    refine ⟨⟨?_, hunarmed.tasks⟩, .inl ?_, hsound', not_live_of_torn hsound ?_ ?_ rfl⟩ <;>
      dsimp only [Daemon.did] <;> rw [Backend.logoutResult_eq]
    exact (timerAfter_unarmed (harms rfl)).trans hunarmed.timer

/-! ## A daemon without a key -/

/-- The credential this task carries. -/
def Task.credential? : Task → Option String
  | .resume authkey => authkey
  | _ => none

/-- No key can be used: a `--config` is in use, or the policy configures none that is not blank. -/
def NoUsableKey (d : Daemon) : Prop :=
  d.backend.configSource.isSome = true ∨
    ∀ key, configuredAuthKey d.policy = some key → (trim key).isEmpty = true

/-- No owed bring-up carries a credential. -/
def NoKeyOwed (d : Daemon) : Prop := ∀ t ∈ d.tasks, t.credential? = none

/-- A step at which no key can be used and none is read from the environment. -/
def Keyless (d : Daemon) (e : Event) : Prop :=
  NoUsableKey d ∧ ∀ i key io, e ≠ .resumeCheck i (some key) io

/-- Where no key can be used, the policy gives none. -/
theorem policyAuthKey_none {H : Host} {d : Daemon} (h : NoUsableKey d) :
    d.backend.policyAuthKey (d.env H) = none := by
  unfold Backend.policyAuthKey authKeyIn
  rw [show (d.env H).policy = d.policy from rfl]
  cases hconfigured : configuredAuthKey d.policy with
  | none => rfl
  | some key =>
    dsimp only
    by_cases hblank : (trim key).isEmpty = true
    · rw [if_pos hblank]
    · have hconfig : d.backend.authKeyGate.configInUse = true :=
        h.resolve_right fun hblanks => hblank (hblanks key hconfigured)
      rw [if_neg hblank]
      split <;> rename_i heq
      · -- a running node is skipped, and so is one with a config in use
        rw [if_pos hconfig] at heq
        split at heq <;> cases heq
      · rfl

/-- Without a usable key the daemon's own bring-ups carry no credential. -/
theorem starts_keyless {H : Host} {d : Daemon} {e : Event} (howed : NoKeyOwed d)
    (hup : e.bringsUp = false) (hkeyless : Keyless d e) {origin : Origin}
    {authkey : Option String} {o : UpOptions} {netmap : ExitNodeFacts} {io : Io}
    (hstart : Starts H d e origin authkey o netmap io) : authkey = none := by
  have hpolicy := policyAuthKey_none (H := H) hkeyless.1
  cases hstart with
  | operator => cases hup
  | rebuild htask => rfl
  | reconnect htask => exact hpolicy
  | @resume i io authkey htask =>
    have hcarried : authkey = none := howed _ (List.mem_of_getElem? htask)
    rw [hcarried, hpolicy]
    rfl

/-- No owed bring-up comes to carry a credential. -/
theorem noKeyOwed_step {H : Host} {d d' : Daemon} {e : Event} (h : NoKeyOwed d)
    (hkeyless : Keyless d e) (hstep : Daemon.step H d e = some d') : NoKeyOwed d' := by
  have hsub : ∀ {ts : List Task}, ts ⊆ d.tasks → ∀ t ∈ ts, t.credential? = none :=
    fun hts t ht => h t (hts ht)
  have hadd : ∀ {ts : List Task} {t : Task}, ts ⊆ d.tasks → t.credential? = none →
      ∀ u ∈ ts ++ [t], u.credential? = none := by
    intro ts t hts ht u hu
    rcases List.mem_append.mp hu with hu | hu
    · exact h u (hts hu)
    · rw [List.mem_singleton.mp hu]
      exact ht
  have hsame : d.tasks ⊆ d.tasks := List.Subset.refl d.tasks
  cases step_shift hstep with
  | kept he hb hts hh hr => exact hsub hts
  | preflightFailed hfail hb hts hh => exact hsub hts
  | preflightPassed hcause hb hts hh => exact hadd hts rfl
  | rebuildRefused hcheck hts hh => exact hsub hts
  | started hstart hts hh hup =>
    cases hup with
    | keyKept hforce hremove => exact hsub hts
    | failed hcheck hfail hb => exact hsub hts
    | begun hcheck hconfig hkey hb => exact hadd hts rfl
  | installed hgen hb hts hr hpre hh => exact hsub hts
  | handedBack hgen hb hts hr hpre hh => exact hsub hts
  | buildFailed hb hts hr hpre hh => exact hsub hts
  | setFailed hcheck hfail hb => exact h
  | setPersisted hcheck hdev hb => exact h
  | setRebuild hcheck hdev hneeds hb => exact hadd hsame rfl
  | setLive hcheck hdev hneeds hb => exact h
  | reloadKeyFailed hsource hdoc hvalid hkey => exact h
  | reloadFailed hsource hdoc hvalid hfail hb => exact h
  | reloadApplied hsource hdoc hvalid howed hb =>
    rw [howed]
    intro t ht
    rcases List.mem_append.mp ht with ht | ht
    · exact h t ht
    · generalize (d.backend.configured (d.env H) _).reloadAction = action at ht
      cases action with
      | persistedOnly => cases ht
      | rebuild => rw [List.mem_singleton.mp ht]; rfl
      | bringDown => rw [List.mem_singleton.mp ht]; rfl
  | down he hmark hb hts hh => exact hsub hts
  | logout hmark hb => exact h
  | tornDown he hb => exact h
  | profileActivated he hne hb => exact h
  | profileEmptied he hb => exact h
  | policyMoved => exact h
  | policyTick => exact h
  | timerDropped => exact h
  | timerClaimed harmed hprofile => exact hadd hsame rfl
  | retried hretry => exact hadd hsame rfl
  | @resumeKeyed i envAuthkey authkey io ts htask hkey hts hh hr =>
    refine hadd hts (hkey ?_)
    cases henv : envAuthkey with
    | none => rfl
    | some key => exact absurd (by rw [henv]) (hkeyless.2 i key io)
  | engine => exact h

/-! ## After a logout -/

/-- None of these bring-ups carries a credential. -/
def NoCredential (entries : List Did) : Prop :=
  ∀ origin g key, .began origin g key ∈ entries → key = none

/-- A run each of whose bring-ups is started without a credential records none. -/
theorem noCredential_run {H : Host} {good : Daemon → Event → Prop} {P : Daemon → Prop}
    (keeps : ∀ d e d', P d → good d e → Daemon.step H d e = some d' → P d')
    (spares : ∀ d e origin key o netmap io, P d → good d e →
      Starts H d e origin key o netmap io → key = none)
    {d d' : Daemon} {es : List Event} (h : P d) (hrun : Run (Daemon.step H) good d es d') :
    ∃ newer, d'.log = newer ++ d.log ∧ NoCredential newer := by
  have hinv : P d' ∧ ∃ newer, d'.log = newer ++ d.log ∧ NoCredential newer := by
    refine hrun.invariant (P := fun s => P s ∧ ∃ newer, s.log = newer ++ d.log ∧
      NoCredential newer) ?_ ⟨h, [], rfl, fun _ _ _ hmem => nomatch hmem⟩
    rintro s e t ⟨hs, newer, hlog, hnone⟩ hgood hstep
    obtain ⟨entries, hentries, hbegan⟩ := began_of_step hstep
    refine ⟨keeps s e t hs hgood hstep, entries ++ newer, ?_, ?_⟩
    · rw [hentries, hlog, List.append_assoc]
    · intro origin g key hmem
      rcases List.mem_append.mp hmem with hmem | hmem
      · obtain ⟨o, netmap, io, hstart⟩ := hbegan origin g key hmem
        exact spares s e origin key o netmap io hs hgood hstart
      · exact hnone origin g key hmem
  exact hinv.2

/-- **After a logout no bring-up of the daemon's own carries a credential**, until the operator
    brings the node up: in every run in which nothing was armed or owed at the logout and nothing
    gets armed since, and in every run in which no key can be used. -/
theorem logged_out_stays_unregistered {H : Host} {d d₁ d' : Daemon} {reason : Option String}
    {io : Io} {es : List Event} (hreach : Daemon.Reachable H (fun _ _ => True) d)
    (hok : (d.backend.logout (d.env H) (.operator reason) io).1 = .ok ())
    (hlogout : Daemon.step H d (.logout reason io) = some d₁)
    (hcond : (Unarmed d ∧ ArmsNothing H d (.logout reason io) ∧
        Run (Daemon.step H) (fun d e => e.bringsUp = false ∧ ArmsNothing H d e) d₁ es d') ∨
      (NoKeyOwed d ∧
        Run (Daemon.step H) (fun d e => e.bringsUp = false ∧ Keyless d e) d₁ es d')) :
    ∃ newer, d'.log = newer ++ d₁.log ∧ NoCredential newer := by
  rcases hcond with ⟨hunarmed, harms, hrun⟩ | ⟨howed, hrun⟩
  · have hsound := slot_run hreach
    have hinert := inert_of_logout hsound hunarmed harms hok hlogout
    refine noCredential_run (P := Inert) ?_ ?_ hinert hrun
    · rintro d e d' hd ⟨hup, hgood⟩ hstep
      exact inert_step hd hup hgood hstep
    · rintro d e origin key o netmap io hd ⟨hup, -⟩ hstart
      exact (hd.unarmed.not_starts hup hstart).elim
  · have howed₁ : NoKeyOwed d₁ := by
      -- a logout owes nothing
      cases step_shift hlogout with
      | kept he hb hts hh hr => exact fun t ht => howed t (hts ht)
      | started hstart hts hh hup => cases hstart
      | down he hmark hb hts hh => exact fun t ht => howed t (hts ht)
      | logout hmark hb => exact howed
      | tornDown he hb => exact howed
      | profileActivated he hne hb => exact howed
      | profileEmptied he hb => exact howed
    refine noCredential_run (P := NoKeyOwed) ?_ ?_ howed₁ hrun
    · rintro d e d' hd ⟨-, hkeyless⟩ hstep
      exact noKeyOwed_step hd hkeyless hstep
    · rintro d e origin key o netmap io hd ⟨hup, hkeyless⟩ hstart
      exact starts_keyless hd hup hkeyless hstart

/-- A policy with a registration key, and one with a reconnect window besides. -/
def keyPolicy : List PolicySource := [⟨[], some "tskey-policy"⟩]
def keyAndWindowPolicy : List PolicySource :=
  [⟨[⟨"ReconnectAfter", some "1h"⟩], some "tskey-policy"⟩]

/-- A node that is up. -/
def enrolled : List Event := [.up {} none none {} {}, .finish 0 (some .running) {}]

/-- What follows a logout without the operator: a SIGHUP, a policy tick. -/
def afterLogout : List Event := [.sighup {}, .policyTick]

/-- Without a reconnect window a logout stays one. -/
theorem logged_out_stays_unregistered_sighup :
    ∃ d d₁ d' newer, Daemon.replay plainHost keyPolicy firstBoot enrolled = some d ∧
      Daemon.step plainHost d (.logout none {}) = some d₁ ∧
      follow (Daemon.step plainHost) d₁ afterLogout = some d' ∧
      d'.log = newer ++ d₁.log ∧ NoCredential newer := by
  obtain ⟨d, d₁, d', hd, hlogout, hrun, hok, htimer, htasks, hwindow⟩ : ∃ d d₁ d',
      Daemon.replay plainHost keyPolicy firstBoot enrolled = some d ∧
      Daemon.step plainHost d (.logout none {}) = some d₁ ∧
      follow (Daemon.step plainHost) d₁ afterLogout = some d' ∧
      (d.backend.logout (d.env plainHost) (.operator none) {}).1 = .ok () ∧
      d.backend.reconnect = none ∧ d.tasks = [] ∧
      reconnectAfterIn (d.env plainHost).settings = none :=
    ⟨_, _, _, rfl, rfl, rfl, rfl, rfl, rfl, rfl⟩
  have hreach : Daemon.Reachable plainHost (fun _ _ => True) d :=
    Daemon.reachable_replay (fun _ _ _ => trivial) hd
  have hunarmed : Unarmed d := by
    refine ⟨htimer, ?_⟩
    rw [htasks]
    intro t ht
    cases ht
  have hgood : ∀ e ∈ afterLogout, ∀ d, e.bringsUp = false ∧ ArmsNothing plainHost d e := by
    intro e he d
    simp only [afterLogout, List.mem_cons, List.not_mem_nil, or_false] at he
    rcases he with rfl | rfl <;> exact ⟨rfl, fun hstops => nomatch hstops⟩
  obtain ⟨newer, hlog, hnone⟩ := logged_out_stays_unregistered hreach hok hlogout
    (.inl ⟨hunarmed, fun _ => .inr hwindow, run_of_follow hgood hrun⟩)
  exact ⟨d, d₁, d', newer, hd, hlogout, hrun, hlog, hnone⟩

/-- The timer a logout arms, after its window. -/
def windowElapsed : List Event :=
  [.timerFired ⟨1, defaultProfileId, 3600000000000⟩, .reconnect 0 {}]

/-- **The reconnect timer of a logout registers the node again**, with the administrator's key. -/
theorem logout_reconnects_with_key :
    ¬ ∀ (d d₁ d' : Daemon) (reason : Option String) (io : Io) (es : List Event),
      Daemon.Reachable plainHost (fun _ _ => True) d →
      (d.backend.logout (d.env plainHost) (.operator reason) io).1 = .ok () →
      Daemon.step plainHost d (.logout reason io) = some d₁ →
      Run (Daemon.step plainHost) (fun _ e => e.bringsUp = false) d₁ es d' →
      ∃ newer, d'.log = newer ++ d₁.log ∧ NoCredential newer := by
  intro hclaim
  obtain ⟨d, d₁, d', hd, hlogout, hrun, hok, hlog⟩ : ∃ d d₁ d',
      Daemon.replay plainHost keyAndWindowPolicy firstBoot enrolled = some d ∧
      Daemon.step plainHost d (.logout none {}) = some d₁ ∧
      follow (Daemon.step plainHost) d₁ windowElapsed = some d' ∧
      (d.backend.logout (d.env plainHost) (.operator none) {}).1 = .ok () ∧
      d'.log = [.began .reconnect 4 (some "tskey-policy")] ++ d₁.log :=
    ⟨_, _, _, rfl, rfl, rfl, rfl, rfl⟩
  have hreach : Daemon.Reachable plainHost (fun _ _ => True) d :=
    Daemon.reachable_replay (fun _ _ _ => trivial) hd
  have hgood : ∀ e ∈ windowElapsed, ∀ _ : Daemon, e.bringsUp = false := by
    intro e he d
    simp only [windowElapsed, List.mem_cons, List.not_mem_nil, or_false] at he
    rcases he with rfl | rfl <;> rfl
  obtain ⟨newer, hnewer, hnone⟩ := hclaim d d₁ d' none {} windowElapsed hreach hok hlogout
    (run_of_follow hgood hrun)
  rw [hlog] at hnewer
  obtain rfl := List.append_cancel_right hnewer
  have hkey := hnone .reconnect 4 (some "tskey-policy") List.mem_cons_self
  cases hkey

end Tailnetd
