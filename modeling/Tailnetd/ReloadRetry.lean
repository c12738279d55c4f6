/-
  What a SIGHUP retry brings up.

  A reload decides on a snapshot: the intent is up, no engine is running or starting, and the boot
  had tried.  The key material is read under the lock once more, and only then does `drive_up`
  begin, with no further look at the intent or at the engine.  `begin_up` tears down whatever is
  there and records the intent anew, so the retry does what the reload promises exactly as long as
  what it saw still stands: between the decision and the bring-up nobody disconnects, no document
  turns the node off, no profile that is down becomes current, and no engine comes up.
-/
import Tailnetd.Intent
import Tailnetd.PrefsMoves
import Tailnetd.Reconnect

namespace Tailnetd

open Machine

/-! ## What the reload saw -/

/-- A device in this state counts as running or starting. -/
def DeviceState.IsUp (state : DeviceState) : Prop :=
  stateFromDevice state = .running ∨ stateFromDevice state = .starting

/-- The node is to be brought up: the intent is up, and no engine is running or starting. -/
structure AwaitsStart (b : Backend) : Prop where
  intended : Intended b.prefs
  engine : ∀ dev, b.device = some dev → ¬ dev.state.IsUp

/-- A retry that a reload decided on. -/
def Task.isRetry : Task → Bool
  | .resumeCheck => true
  | .resume _ => true
  | _ => false

/-- A retry has been decided on and has not begun. -/
def RetryOwed (ts : List Task) : Prop := ∃ t ∈ ts, t.isRetry = true

/-- Every retry that is owed may begin. -/
def RetriesStand (d : Daemon) : Prop := RetryOwed d.tasks → AwaitsStart d.backend

/-- What a reload decides on. -/
theorem awaits_of_retries {b : Backend} (h : Daemon.retriesAutoStart b = true) : AwaitsStart b := by
  unfold Daemon.retriesAutoStart at h
  simp only [Bool.and_eq_true, Bool.not_eq_true', Bool.or_eq_false_iff, decide_eq_false_iff_not] at h
  obtain ⟨⟨hwants, hrunning, hstarting⟩, -⟩ := h
  constructor
  · simpa [Backend.wantsRunning, Prefs.wantsRunning, Intended] using hwants
  · rintro dev hdev (hup | hup)
    · exact hrunning (by rw [Backend.engineState, hdev]; exact congrArg some hup)
    · exact hstarting (by rw [Backend.engineState, hdev]; exact congrArg some hup)

/-! ## What outdates it -/

/-- The section takes the node out of the state that a retry is decided in: a permitted disconnect,
    a document that turns the node off, a profile that is down, an engine that comes up. -/
def Outdates (H : Host) (d : Daemon) : Event → Prop
  | .down reason _ => d.backend.checkDisconnectPolicy (d.env H) (.operator reason) = .ok ()
  | .logout reason io =>
    d.backend.checkDisconnectPolicy (d.env H) (.operator reason) = .ok () ∧ io.removeKey = true
  | .bringDown _ _ => True
  | .reload document contents io => SwitchesOff H d (.reload document contents io)
  | .finish i (some state) _ =>
    state.IsUp ∧ ∃ pending authkey origin, d.tasks[i]? = some (.handshake pending authkey origin) ∧
      pending.generation = d.backend.generation
  | .engine state => state.IsUp ∧ d.backend.device.isSome = true
  | e =>
    d.switches H e = true ∧ ∃ id p, d.landing e = some (id, p) ∧
      ¬ Intended (applySettingsToPrefs (d.env H).settings p {}).1

/-- No section outdates a retry that is owed. -/
def Clear (H : Host) (d : Daemon) (e : Event) : Prop := RetryOwed d.tasks → ¬ Outdates H d e

/-- A retry begins only where the node is to be brought up. -/
def RetriesRightly (d : Daemon) (e : Event) : Prop :=
  ∀ i io, e = .resume i io → Intended d.backend.prefs ∧
    ¬ (d.backend.engineState = some .running ∨ d.backend.engineState = some .starting)

/-! ## What keeps it -/

namespace AwaitsStart

/-- Only the prefs and the engine matter. -/
theorem of_diskOnly {b b' : Backend} (hb : DiskOnly b b') (h : AwaitsStart b) : AwaitsStart b' := by
  obtain ⟨disk, ticks, key, -, rfl⟩ := hb
  exact ⟨h.intended, h.engine⟩

/-- With no engine only the intent matters. -/
theorem of_none {b : Backend} (h : Intended b.prefs) (hdev : b.device = none) : AwaitsStart b := by
  refine ⟨h, ?_⟩
  intro dev hsome
  rw [hdev] at hsome
  cases hsome

end AwaitsStart

namespace Backend

variable {E : Env} {b : Backend}

/-- A `begin_up` section leaves the node waiting for its engine. -/
theorem beginUp_awaits (h : AwaitsStart b) (o : UpOptions) (wif : Option WifCreds)
    (netmap : ExitNodeFacts) (io : Io) : AwaitsStart (b.beginUp E o wif netmap io).2 := by
  have hresult (tags : Option (List String)) (edit : ExitNodeEdit) :
      AwaitsStart (b.upResult E o tags edit) := by
    refine .of_none (intended_upResult E b o tags edit) ?_
    rw [upResult, applyUp_eq]
    rfl
  have hcases := beginUp_cases E b o wif netmap io
  generalize b.beginUp E o wif netmap io = out at hcases ⊢
  cases hcases with
  | refused hcheck => exact h
  | keyKept hreauth hforce hremove => exact .of_none h.intended rfl
  | failed hcheck hreauth hfail hb => exact .of_diskOnly hb (hresult _ _)
  | begun hcheck hreauth hconfig hkey hb =>
    exact .of_diskOnly hb ⟨(hresult _ _).intended, (hresult _ _).engine⟩

/-- A `set` moves neither the intent nor the state of the engine. -/
theorem beginSet_awaits (h : AwaitsStart b) (o : SetOptions) (netmap : ExitNodeFacts) (io : Io) :
    AwaitsStart (b.beginSet E o netmap io).2 := by
  have hresult (tags : Option (List String)) (edit : ExitNodeEdit) :
      AwaitsStart (b.setResult E o tags edit) := by
    refine ⟨intended_setResult h.intended, ?_⟩
    rw [setResult_device]
    exact h.engine
  have hcases := beginSet_cases E b o netmap io
  generalize b.beginSet E o netmap io = out at hcases ⊢
  cases hcases with
  | refused hcheck => exact h
  | failed hcheck hfail hb => exact .of_diskOnly hb (hresult _ _)
  | persistedOnly hcheck hdev hb => exact .of_diskOnly hb (hresult _ _)
  | rebuild hcheck hdev hneeds hb => exact .of_diskOnly hb (hresult _ _)
  | @live tags edit b' dev result hcheck hdev hneeds hresult' hb =>
    refine .of_diskOnly hb ⟨(hresult tags edit).intended, ?_⟩
    -- the setters change the config of the engine only
    intro pushed hpushed
    cases hpushed
    exact h.engine dev hdev

/-- So does a reload whose document does not turn the node off. -/
theorem reloadConfig_awaits {document : Except Failure ConfigVAlpha} {contents : Option String}
    {io : Io} (h : AwaitsStart b)
    (hoff : ∀ path c, b.configSource = some (.file path) → document = .ok c →
      c.validate E.host b.prefs = .ok () → ¬ c.TurnsOff E b contents) :
    AwaitsStart (b.reloadConfig E document contents io).2 := by
  have hcases := reloadConfig_cases E b document contents io
  generalize b.reloadConfig E document contents io = out at hcases ⊢
  cases hcases with
  | kept hresult => exact h
  | keyFailed hsource hdoc hvalid hkey =>
    exact ⟨intended_merge hkey h.intended (hoff _ _ hsource hdoc hvalid), h.engine⟩
  | failed hsource hdoc hvalid hfail hb hkey =>
    refine .of_diskOnly hb ⟨?_, ?_⟩
    · exact intended_configured contents h.intended (hoff _ _ hsource hdoc hvalid)
    · exact h.engine
  | applied hsource hdoc hvalid hb hkey =>
    refine .of_diskOnly hb ⟨?_, ?_⟩
    · exact intended_configured contents h.intended (hoff _ _ hsource hdoc hvalid)
    · exact h.engine

/-- So does the last section of a bring-up, unless an engine of the current attempt is up. -/
theorem finishSection_awaits {pending : PendingUp} {built : Except Failure Device} {io : Io}
    (h : AwaitsStart b)
    (hup : ∀ dev, built = .ok dev → pending.generation = b.generation → ¬ dev.state.IsUp) :
    AwaitsStart (b.finishSection E pending built io).2 := by
  rcases finishSection_cases E b pending built io with ⟨-, -, hb⟩ | ⟨-, e, -, hkept⟩ |
    ⟨hgen, dev, hbuilt, -, hb⟩
  · exact .of_diskOnly hb h
  · rw [hkept]
    exact h
  · refine .of_diskOnly hb ⟨h.intended, ?_⟩
    intro installed hinstalled
    cases hinstalled
    exact hup dev hbuilt hgen

/-- So does a disconnect that is refused. -/
theorem down_awaits {actor : Actor} {io : Io} (h : AwaitsStart b)
    (hrefused : b.checkDisconnectPolicy E actor ≠ .ok ()) :
    AwaitsStart (b.down E actor io).2 := by
  rcases down_cases E b actor io with ⟨m, -, hdown⟩ | ⟨hpermit, -⟩
  · rw [hdown]
    exact h
  · exact absurd hpermit hrefused

/-- So does a logout that is refused, or cannot discard the key. -/
theorem logout_awaits {actor : Actor} {io : Io} (h : AwaitsStart b)
    (hrefused : ¬ (b.checkDisconnectPolicy E actor = .ok () ∧ io.removeKey = true)) :
    AwaitsStart (b.logout E actor io).2 := by
  cases hpermit : b.checkDisconnectPolicy E actor with
  | error m =>
    unfold logout
    rw [hpermit]
    exact h
  | ok _ =>
    have hremove : io.removeKey = false := by
      simpa using fun hremove => hrefused ⟨hpermit, hremove⟩
    unfold logout discardNodeKey
    rw [hpermit, hremove]
    exact .of_none h.intended rfl

/-- So does a profile operation, unless it goes to a profile that is down. -/
theorem profile_awaits {outcome : Outcome SwitchOutcome} (hcase : ProfileCase E b outcome)
    (h : AwaitsStart b)
    (hnext : Daemon.switched outcome.1 = true → Intended outcome.2.prefs) :
    AwaitsStart outcome.2 := by
  cases hcase with
  | kept hresult hb => exact .of_diskOnly hb h
  | failed hb => exact .of_diskOnly hb (.of_none h.intended rfl)
  | activated hne hb =>
    refine .of_none (hnext rfl) ?_
    rw [hb.device]
    rfl
  | emptied hb =>
    refine .of_none (hnext rfl) ?_
    rw [hb.device]
    rfl

end Backend

/-- **A section keeps the node waiting unless it outdates the retries.** -/
theorem awaits_step {H : Host} {d d' : Daemon} {e : Event} (h : AwaitsStart d.backend)
    (hgood : ¬ Outdates H d e) (hstep : Daemon.step H d e = some d') : AwaitsStart d'.backend := by
  -- a profile that becomes current is intended, or else the section outdates the retries
  have hnext (he : e.changesProfile = true) (hswitch : d.switches H e = true) :
      Intended d'.backend.prefs := by
    rcases step_profile hstep with ⟨-, id, p, hlanding, -, hprefs⟩ | ⟨hsame, -⟩
    · by_contra hdown
      rw [hprefs] at hdown
      cases e with
      | switchProfile target io => exact hgood ⟨hswitch, id, p, hlanding, hdown⟩
      | createProfile target io => exact hgood ⟨hswitch, id, p, hlanding, hdown⟩
      | switchToEmptyProfile draw io => exact hgood ⟨hswitch, id, p, hlanding, hdown⟩
      | _ => cases he
    · rw [hswitch] at hsame
      cases hsame
  have hran := Daemon.step_ran hstep
  generalize d'.backend = b' at hran hnext ⊢
  cases hran with
  | nothing => exact h
  | beginUp hstart wif => exact Backend.beginUp_awaits h _ wif _ _
  | @finish i built io pending authkey origin htask =>
    refine Backend.finishSection_awaits h ?_
    intro dev hdev hgen hup
    cases built with
    | none => cases hdev
    | some state =>
      cases hdev
      exact hgood ⟨hup, pending, authkey, origin, htask, hgen⟩
  | set => exact Backend.beginSet_awaits h _ _ _
  | reload =>
    refine Backend.reloadConfig_awaits h ?_
    intro path c hsource hdoc hvalid hoff
    exact hgood ⟨⟨path, hsource⟩, c, hdoc, hvalid, hoff⟩
  | preflight => exact .of_diskOnly (Backend.buildConfig_diskOnly _ _ _) h
  | bringDown => exact absurd trivial hgood
  | down => exact Backend.down_awaits h hgood
  | logout => exact Backend.logout_awaits h hgood
  | switchProfile => exact Backend.profile_awaits (Backend.switchProfile_cases _ _ _ _) h (hnext rfl)
  | createProfile => exact Backend.profile_awaits (Backend.createProfile_cases _ _ _ _) h (hnext rfl)
  | switchToEmptyProfile =>
    exact Backend.profile_awaits (Backend.switchToEmptyProfile_cases _ _ _ _) h (hnext rfl)
  | deleteProfile => exact .of_diskOnly (Backend.deleteProfile_diskOnly _ _ _) h
  | policyTick keys exitKeys =>
    rw [Backend.exitNodePolicyChanged_eq, Backend.sysPolicyChanged_eq]
    exact ⟨h.intended, h.engine⟩
  | timerFired =>
    unfold Backend.claimDueReconnect
    split
    · exact h
    · split <;> exact ⟨h.intended, h.engine⟩
  | @engine state =>
    refine ⟨h.intended, ?_⟩
    intro dev hdev hup
    obtain ⟨dev₀, hdev₀, rfl⟩ := Option.map_eq_some_iff.mp hdev
    exact hgood ⟨hup, by rw [hdev₀]; rfl⟩

/-! ## What spoils it -/

namespace Backend

variable {E : Env} {b : Backend}

/-- A document that turns the node off leaves it unintended, whether its key resolves or not. -/
theorem reloadConfig_turnsOff {contents : Option String} {c : ConfigVAlpha} {path : String}
    (hsource : b.configSource = some (.file path)) (hvalid : c.validate E.host b.prefs = .ok ())
    (hoff : c.TurnsOff E b contents) (io : Io) :
    (b.reloadConfig E (.ok c) contents io).2.prefs.wantRunning = false := by
  obtain ⟨henabled, hwhy⟩ := hoff
  have hmerge : (c.merge b.prefs).wantRunning = false := by simp [ConfigVAlpha.merge, henabled]
  have hpolicy (hkey : (c.registrationKey contents).isOk = true) :
      (b.configured E c).prefs.wantRunning = false := by
    rcases hwhy with ⟨f, herror⟩ | hpolicy
    · rw [herror] at hkey
      cases hkey
    · unfold configured adoptPrefs reconcileSysPolicy
      rw [policy_wantRunning]
      dsimp only
      rw [hmerge, Bool.false_or]
      simpa using hpolicy
  have happly : (b.reloadConfig E (.ok c) contents io).2 = (b.applyConfig E c contents io).2 := by
    unfold reloadConfig
    rw [hsource]
    dsimp only [loadConfig]
    split <;> rename_i heq <;> rw [heq]
  rw [happly]
  rcases applyConfig_cases E b c contents io with ⟨e, hrefused, -⟩ | ⟨f, -, -, hkept⟩ |
    ⟨key, -, hkey, hb, -⟩
  · rw [hvalid] at hrefused
    cases hrefused
  · rw [hkept]
    exact hmerge
  · rw [hb.prefs]
    refine hpolicy ?_
    rw [hkey]
    rfl

/-- A permitted disconnect leaves the node unintended. -/
theorem down_clears {actor : Actor} (hpermit : b.checkDisconnectPolicy E actor = .ok ()) (io : Io) :
    (b.down E actor io).2.prefs.wantRunning = false := by
  rcases down_cases E b actor io with ⟨m, hrefused, -⟩ | ⟨-, hb, -⟩
  · rw [hpermit] at hrefused
    cases hrefused
  · rw [hb.prefs, downResult_eq]

/-- So does a logout that discards the key. -/
theorem logout_clears {actor : Actor} {io : Io} (hpermit : b.checkDisconnectPolicy E actor = .ok ())
    (hremove : io.removeKey = true) : (b.logout E actor io).2.prefs.wantRunning = false := by
  rcases logout_cases E b actor io with ⟨m, hrefused, -⟩ | ⟨-, hkept, -⟩ | ⟨-, hb, -⟩
  · rw [hpermit] at hrefused
    cases hrefused
  · rw [hremove] at hkept
    cases hkept
  · rw [hb.prefs, logoutResult_eq]

end Backend

/-- **A section that outdates the retries spoils what they need.** -/
theorem not_awaits_of_outdates {H : Host} {d d' : Daemon} {e : Event} (h : Outdates H d e)
    (hstep : Daemon.step H d e = some d') : ¬ AwaitsStart d'.backend := by
  have hunintended {b : Backend} (hoff : b.prefs.wantRunning = false) : ¬ AwaitsStart b := by
    intro hawaits
    rw [hawaits.intended.1] at hoff
    cases hoff
  have hprofile {id : String} {p : Prefs} (hswitch : d.switches H e = true)
      (hlanding : d.landing e = some (id, p))
      (hdown : ¬ Intended (applySettingsToPrefs (d.env H).settings p {}).1) :
      ¬ AwaitsStart d'.backend := by
    rcases step_profile hstep with ⟨-, id', p', hlanding', -, hprefs⟩ | ⟨hsame, -⟩
    · rw [hlanding] at hlanding'
      cases hlanding'
      intro hawaits
      exact hdown (hprefs ▸ hawaits.intended)
    · rw [hswitch] at hsame
      cases hsame
  cases e with
  | down reason io =>
    cases hstep
    exact hunintended (Backend.down_clears h io)
  | logout reason io =>
    cases hstep
    exact hunintended (Backend.logout_clears h.1 h.2)
  | bringDown i io =>
    have hpermit : d.backend.checkDisconnectPolicy (d.env H) .daemon = .ok () := by
      unfold Backend.checkDisconnectPolicy
      split <;> rfl
    dsimp only [Daemon.step] at hstep
    split at hstep
    · cases hstep
      exact hunintended (Backend.down_clears hpermit io)
    · cases hstep
  | reload document contents io =>
    obtain ⟨⟨path, hsource⟩, c, rfl, hvalid, hoff⟩ := h
    cases hstep
    rw [Daemon.driveReloadConfig_backend]
    exact hunintended (Backend.reloadConfig_turnsOff hsource hvalid hoff io)
  | finish i built io =>
    cases built with
    | none =>
      obtain ⟨hswitch, -⟩ := h
      cases hswitch
    | some state =>
      obtain ⟨hup, pending, authkey, origin, htask, hgen⟩ := h
      simp only [Daemon.step, htask, Option.some.injEq] at hstep
      rw [← hstep, Daemon.finish_backend]
      -- the attempt is the current one, so its engine is installed
      rcases Backend.finishSection_cases (d.env H) d.backend pending
          ((d.take i).engineOf pending (some state)) io with ⟨hstale, -⟩ | ⟨-, f, herror, -⟩ |
        ⟨-, dev, hdev, -, hb⟩
      · exact absurd hgen hstale
      · cases herror
      · cases hdev
        intro hawaits
        exact hawaits.engine _ (hb.device.trans rfl) hup
  | engine state =>
    obtain ⟨hup, hdevice⟩ := h
    obtain ⟨dev, hdev⟩ := Option.isSome_iff_exists.mp hdevice
    cases hstep
    intro hawaits
    exact hawaits.engine { dev with state := state } (by simp [hdev]) hup
  | switchProfile target io =>
    obtain ⟨hswitch, id, p, hlanding, hdown⟩ := h
    exact hprofile hswitch hlanding hdown
  | createProfile target io =>
    obtain ⟨hswitch, id, p, hlanding, hdown⟩ := h
    exact hprofile hswitch hlanding hdown
  | switchToEmptyProfile draw io =>
    obtain ⟨hswitch, id, p, hlanding, hdown⟩ := h
    exact hprofile hswitch hlanding hdown
  | _ =>
    obtain ⟨hswitch, -⟩ := h
    cases hswitch

/-! ## Which retries are owed -/

theorem RetryOwed.mono {ts us : List Task} (h : RetryOwed ts) (hsub : ts ⊆ us) : RetryOwed us := by
  obtain ⟨t, ht, hretry⟩ := h
  exact ⟨t, hsub ht, hretry⟩

/-- A task that is no retry adds none. -/
theorem RetryOwed.of_concat {ts : List Task} {t : Task} (h : RetryOwed (ts ++ [t]))
    (ht : t.isRetry = false) : RetryOwed ts := by
  obtain ⟨u, hu, hretry⟩ := h
  rcases List.mem_append.mp hu with hu | hu
  · exact ⟨u, hu, hretry⟩
  · rw [List.mem_singleton.mp hu, ht] at hretry
    cases hretry

/-- A `begin_up` section leaves a handshake at most. -/
theorem retryOwed_upShift {H : Host} {d d' : Daemon} {origin : Origin} {authkey : Option String}
    {o : UpOptions} {netmap : ExitNodeFacts} {io : Io} {ts : List Task}
    (hup : UpShift H d origin authkey o netmap io ts d') (h : RetryOwed d'.tasks) : RetryOwed ts := by
  cases hup with
  | keyKept hforce hremove => exact h
  | failed hcheck hfail hb => exact h
  | begun hcheck hconfig hkey hb => exact RetryOwed.of_concat h rfl

/-- **A retry is owed by a reload**: it was owed before, or the section is the decision of a
    reload. -/
theorem retryOwed_step {H : Host} {d d' : Daemon} {e : Event}
    (hstep : Daemon.step H d e = some d') (h : RetryOwed d'.tasks) :
    RetryOwed d.tasks ∨
      (Daemon.retriesAutoStart d.backend = true ∧ d'.backend = d.backend) := by
  cases step_shift hstep with
  | kept he hb hts hh hr => exact .inl (h.mono hts)
  | preflightFailed hfail hb hts hh => exact .inl (h.mono hts)
  | preflightPassed hcause hb hts hh => exact .inl ((RetryOwed.of_concat h rfl).mono hts)
  | rebuildRefused hcheck hts hh => exact .inl (h.mono hts)
  | started hstart hts hh hup => exact .inl ((retryOwed_upShift hup h).mono hts)
  | installed hgen hb hts hr hpre hh => exact .inl (h.mono hts)
  | handedBack hgen hb hts hr hpre hh => exact .inl (h.mono hts)
  | buildFailed hb hts hr hpre hh => exact .inl (h.mono hts)
  | setFailed hcheck hfail hb => exact .inl h
  | setPersisted hcheck hdev hb => exact .inl h
  | setRebuild hcheck hdev hneeds hb => exact .inl (RetryOwed.of_concat h rfl)
  | setLive hcheck hdev hneeds hb => exact .inl h
  | reloadKeyFailed hsource hdoc hvalid hkey => exact .inl h
  | reloadFailed hsource hdoc hvalid hfail hb => exact .inl h
  | reloadApplied hsource hdoc hvalid howed hb =>
    left
    subst howed
    dsimp only at h
    generalize Backend.reloadAction _ = action at h
    cases action with
    | persistedOnly => exact h.mono (by simp [reloadOwes])
    | rebuild => exact RetryOwed.of_concat h rfl
    | bringDown => exact RetryOwed.of_concat h rfl
  | down he hmark hb hts hh => exact .inl (h.mono hts)
  | logout hmark hb => exact .inl h
  | tornDown he hb => exact .inl h
  | profileActivated he hne hb => exact .inl h
  | profileEmptied he hb => exact .inl h
  | policyMoved => exact .inl h
  | policyTick =>
    rw [Backend.exitNodePolicyChanged_eq, Backend.sysPolicyChanged_eq] at h
    exact .inl h
  | timerDropped => exact .inl h
  | timerClaimed harmed hprofile => exact .inl (RetryOwed.of_concat h rfl)
  | retried hretry => exact .inr ⟨hretry, rfl⟩
  | resumeKeyed htask hkey hts hh hr => exact .inl ⟨_, List.mem_of_getElem? htask, rfl⟩
  | engine => exact .inl h

/-- A section that outdates the retries leaves them owed. -/
theorem retryOwed_of_outdates {H : Host} {d d' : Daemon} {e : Event} (h : Outdates H d e)
    (howed : RetryOwed d.tasks) (hstep : Daemon.step H d e = some d') : RetryOwed d'.tasks := by
  obtain ⟨owed, htasks, -⟩ := step_tasks hstep
  have hkept (hpicks : e.picks = none) : RetryOwed d'.tasks := by
    rw [htasks, hpicks]
    exact howed.mono (List.subset_append_left _ _)
  -- the task that is picked up is no retry
  have hother {i : Nat} {t : Task} (hpicks : e.picks = some i) (htask : d.tasks[i]? = some t)
      (ht : t.isRetry = false) : RetryOwed d'.tasks := by
    obtain ⟨pre, post, hsplit, herase⟩ := split_at htask
    obtain ⟨u, hu, hretry⟩ := howed
    rw [hsplit] at hu
    rw [htasks, hpicks]
    refine ⟨u, List.mem_append_left _ ?_, hretry⟩
    show u ∈ d.tasks.eraseIdx i
    rw [herase]
    rcases List.mem_append.mp hu with hu | hu
    · exact List.mem_append_left _ hu
    · rcases List.mem_cons.mp hu with rfl | hu
      · rw [ht] at hretry
        cases hretry
      · exact List.mem_append_right _ hu
  cases e with
  | finish i built io =>
    dsimp only [Daemon.step] at hstep
    split at hstep
    · rename_i htask
      exact hother rfl htask rfl
    · cases hstep
  | bringDown i io =>
    dsimp only [Daemon.step] at hstep
    split at hstep
    · rename_i htask
      exact hother rfl htask rfl
    · cases hstep
  | preflight i io => cases h.1
  | rebuild i io => cases h.1
  | reconnect i io => cases h.1
  | resumeCheck i envAuthkey io => cases h.1
  | resume i io => cases h.1
  | _ => exact hkept rfl

/-- **A step keeps the promise of the retries exactly when it outdates none that is owed.** -/
theorem retriesStand_step_iff {H : Host} {d d' : Daemon} {e : Event} (h : RetriesStand d)
    (hstep : Daemon.step H d e = some d') : RetriesStand d' ↔ Clear H d e := by
  constructor
  · intro hstands howed houtdates
    exact not_awaits_of_outdates houtdates hstep
      (hstands (retryOwed_of_outdates houtdates howed hstep))
  · intro hclear howed
    rcases retryOwed_step hstep howed with hbefore | ⟨hretries, hsame⟩
    · exact awaits_step (h hbefore) (hclear hbefore) hstep
    · rw [hsame]
      exact awaits_of_retries hretries

/-! ## Every retry -/

/-- A retry that begins now was owed, and what is owed may begin. -/
theorem retriesRightly_of_stand {H : Host} {d d' : Daemon} {e : Event} (h : RetriesStand d)
    (hstep : Daemon.step H d e = some d') : RetriesRightly d e := by
  rintro i io rfl
  dsimp only [Daemon.step] at hstep
  split at hstep
  · rename_i authkey htask
    obtain ⟨hintended, hengine⟩ := h ⟨_, List.mem_of_getElem? htask, rfl⟩
    refine ⟨hintended, ?_⟩
    rintro (hup | hup) <;> obtain ⟨dev, hdev, hstate⟩ := Option.map_eq_some_iff.mp hup
    · exact hengine dev hdev (.inl hstate)
    · exact hengine dev hdev (.inr hstate)
  · cases hstep

/-- **Each retry of a reload begins where the intent is up and no engine is running or starting**,
    in every run in which no section outdates a retry between its decision and its bring-up; and
    those are the runs in all of whose states every retry that is owed may begin. -/
theorem reload_retries_rightly {H : Host} {policy : List PolicySource} {s : Daemon.BootInput}
    {d₀ d : Daemon} {es : List Event} (hboot : Daemon.boot H policy s = .ok d₀) :
    (Run (Daemon.step H) (Clear H) d₀ es d → Run (Daemon.step H) RetriesRightly d₀ es d) ∧
      (Run (Daemon.step H) (Clear H) d₀ es d ↔ Run (Daemon.step H) (fun _ _ => True) d₀ es d ∧
        ∀ es₁ es₂ d₁, es = es₁ ++ es₂ → Run (Daemon.step H) (fun _ _ => True) d₀ es₁ d₁ →
          RetriesStand d₁) := by
  have hstart : RetriesStand d₀ := by
    rintro ⟨t, ht, hretry⟩
    obtain ⟨pending, authkey, origin, rfl⟩ := boot_tasks hboot t ht
    cases hretry
  have hexact (d : Daemon) (e : Event) (d' : Daemon) (h : RetriesStand d)
      (hstep : Daemon.step H d e = some d') : RetriesStand d' ↔ Clear H d e :=
    retriesStand_step_iff h hstep
  refine ⟨fun hrun => ?_, Run.throughout_iff hexact hstart⟩
  refine (Run.exchange (P := RetriesStand)
    (fun _ _ _ h hclear hstep => (hexact _ _ _ h hstep).mpr hclear) ?_ hrun hstart).mp hrun
  exact fun _ _ _ h hclear hstep => ⟨fun _ => retriesRightly_of_stand h hstep, fun _ => hclear⟩

/-! ## A reload overtaken -/

/-- A node that is to run and whose engine does not come up at boot. -/
def failedBoot : Daemon.BootInput where
  disk := { emptyDisk with
    prefsFile := fun _ => some { Prefs.default with wantRunning := true } }

/-- A reload that nothing overtakes retries the bring-up. -/
theorem reload_retries_rightly_alone :
    ∃ d₀ d, Daemon.boot plainHost [] failedBoot = .ok d₀ ∧
      Run (Daemon.step plainHost) RetriesRightly d₀
        [.sighup {}, .resumeCheck 0 none {}, .resume 0 {}] d := by
  obtain ⟨d₀, d, hboot, hfollow⟩ : ∃ d₀ d, Daemon.boot plainHost [] failedBoot = .ok d₀ ∧
      follow (Daemon.step plainHost) d₀ [.sighup {}, .resumeCheck 0 none {}, .resume 0 {}] =
        some d := ⟨_, _, rfl, rfl⟩
  refine ⟨d₀, d, hboot, (reload_retries_rightly hboot).1 (run_of_follow ?_ hfollow)⟩
  intro e he d howed houtdates
  simp only [List.mem_cons, List.not_mem_nil, or_false] at he
  rcases he with rfl | rfl | rfl <;> cases houtdates.1

/-- **A `down` between the decision and the bring-up is undone**: the retry brings up the node that
    the operator just took down. -/
theorem reload_resurrects_downed_node :
    ¬ ∀ (d₀ d : Daemon) (es : List Event), Daemon.boot plainHost [] failedBoot = .ok d₀ →
      Run (Daemon.step plainHost) (fun _ _ => True) d₀ es d →
      Run (Daemon.step plainHost) RetriesRightly d₀ es d := by
  intro hclaim
  obtain ⟨d₀, d₁, d₂, hboot, hbefore, hstep, hoff⟩ : ∃ d₀ d₁ d₂,
      Daemon.boot plainHost [] failedBoot = .ok d₀ ∧
      follow (Daemon.step plainHost) d₀ [.sighup {}, .down none {}, .resumeCheck 0 none {}] =
        some d₁ ∧
      Daemon.step plainHost d₁ (.resume 0 {}) = some d₂ ∧ d₁.backend.prefs.wantRunning = false :=
    ⟨_, _, _, rfl, rfl, rfl, rfl⟩
  have hrun : Run (Daemon.step plainHost) (fun _ _ => True) d₀ _ d₁ :=
    run_of_follow (fun _ _ _ => trivial) hbefore
  obtain ⟨u, hfirst, hlast⟩ := (hclaim d₀ d₂ _ hboot (hrun.append (.single trivial hstep))).split
  obtain rfl := hfirst.deterministic hrun
  cases hlast with
  | cons hright _ _ =>
    have hon := (hright 0 {} rfl).1.1
    rw [hoff] at hon
    cases hon

end Tailnetd
