/-
  The pinned exit node and the override.

  A policy that pins an exit node writes it over the stored one at every reconcile, unless an
  operator was allowed to pick another.  The exemption is one flag; the node it was granted for is
  in the prefs, and in the log.  The three belong together: while the flag is set, the prefs hold
  the node of the last override granted.  Every section that edits the exit node keeps that, since
  it records the verdict of the gate with the edit — but one: a config merge writes the document's
  node without asking the gate, and leaves the flag as it is.
-/
import Tailnetd.PolicyFields
import Tailnetd.Boot

namespace Tailnetd

open Machine

/-! ## The last override granted -/

/-- The node this entry of the log grants as an override. -/
def Did.override? : Did → Option String
  | .exitNodeOverride v => some v
  | _ => none

/-- The node of the last override granted. -/
def lastOverride (log : List Did) : Option String := (log.filterMap Did.override?).head?

/-- An edit that is no override grants nothing. -/
theorem lastOverride_grantOf {edit : ExitNodeEdit} (hedit : edit ≠ .override)
    (named : Option (Option String)) (log : List Did) :
    lastOverride (Daemon.grantOf named edit ++ log) = lastOverride log := by
  cases edit with
  | untouched => rfl
  | noOverride => rfl
  | override => exact absurd rfl hedit

/-! ## The invariant -/

/-- The override that stands is the last one granted, and its node is the one in the prefs. -/
def OverrideHeld (d : Daemon) : Prop :=
  d.backend.overrideExitNodePolicy = true →
    ∃ v, d.backend.prefs.exitNode = some v ∧ lastOverride d.log = some v

/-- A reload that takes in a document naming another exit node than the prefs hold. -/
inductive Redirects (H : Host) (d : Daemon) : Event → Prop
  | reload {c : ConfigVAlpha} {contents : Option String} {io : Io} {path v : String}
      (hsource : d.backend.configSource = some (.file path))
      (hvalid : c.validate H d.backend.prefs = .ok ()) (hnamed : c.exitNode = some v)
      (hother : d.backend.prefs.exitNode ≠ some v) : Redirects H d (.reload (.ok c) contents io)

/-- No override stands when a reload names another exit node. -/
def KeepsOverride (H : Host) (d : Daemon) (e : Event) : Prop :=
  d.backend.overrideExitNodePolicy = true → ¬ Redirects H d e

/-- Nothing that the invariant reads has moved, and no override is new. -/
theorem OverrideHeld.congr {d d' : Daemon} (h : OverrideHeld d)
    (hflag : d'.backend.overrideExitNodePolicy = true → d.backend.overrideExitNodePolicy = true)
    (hnode : d'.backend.prefs.exitNode = d.backend.prefs.exitNode)
    (hlog : lastOverride d'.log = lastOverride d.log) : OverrideHeld d' := by
  intro hstands
  obtain ⟨v, hv, hlast⟩ := h (hflag hstands)
  exact ⟨v, hnode.trans hv, hlog.trans hlast⟩

/-- Where no override stands there is nothing to hold. -/
theorem OverrideHeld.of_ended {d : Daemon} (h : d.backend.overrideExitNodePolicy = false) :
    OverrideHeld d := by
  intro hstands
  rw [h] at hstands
  cases hstands

/-! ## Edits record their verdict -/

/-- A `begin_up` that names no exit node leaves the exit node alone. -/
theorem checkUp_unnamed {E : Env} {b : Backend} {o : UpOptions} {netmap : ExitNodeFacts}
    {tags : Option (List String)} {edit : ExitNodeEdit} (hnamed : o.exitNode = none)
    (hcheck : b.checkUp E o netmap = .ok (tags, edit)) : edit = .untouched := by
  obtain ⟨-, hverdict⟩ := Backend.checkUp_verdict hcheck
  rw [hnamed] at hverdict
  cases hverdict
  rfl

/-- After the edits of an `up` an override stands only for the node it named. -/
theorem upResult_override {E : Env} {b : Backend} {o : UpOptions} {netmap : ExitNodeFacts}
    {tags : Option (List String)} {edit : ExitNodeEdit}
    (hcheck : b.checkUp E o netmap = .ok (tags, edit))
    (hstands : (b.upResult E o tags edit).overrideExitNodePolicy = true) :
    ∃ v, edit = .override ∧ o.exitNode = some (some v) ∧
      (b.upResult E o tags edit).prefs.exitNode = some v := by
  obtain ⟨-, hverdict⟩ := Backend.checkUp_verdict hcheck
  rw [Backend.upResult, Backend.applyUp_eq] at hstands ⊢
  have hedit : edit = .override := of_decide_eq_true hstands
  rcases Backend.exitNodeVerdict_cases hverdict with ⟨h, -⟩ | ⟨h, -⟩ | ⟨-, v, pinned, hnamed, -⟩
  · rw [h] at hedit
    cases hedit
  · rw [h] at hedit
    cases hedit
  · refine ⟨v, hedit, hnamed, ?_⟩
    rw [policy_exitNode, if_pos hstands]
    show (o.exitNode.getD _) = some v
    rw [hnamed]
    rfl

/-- A `set` keeps a standing override with its node, ends it, or grants one for the node it
    names. -/
theorem setResult_override {E : Env} {b : Backend} {o : SetOptions} {netmap : ExitNodeFacts}
    {tags : Option (List String)} {edit : ExitNodeEdit}
    (hcheck : b.checkSet E o netmap = .ok (tags, edit))
    (hstands : (b.setResult E o tags edit).overrideExitNodePolicy = true) :
    (edit ≠ .override ∧ b.overrideExitNodePolicy = true ∧
      (b.setResult E o tags edit).prefs.exitNode = b.prefs.exitNode) ∨
    ∃ v, edit = .override ∧ o.exitNode = some (some v) ∧
      (b.setResult E o tags edit).prefs.exitNode = some v := by
  obtain ⟨-, hverdict⟩ := Backend.checkSet_verdict hcheck
  rw [Backend.setResult, Backend.applySet_eq] at hstands ⊢
  have hnode : (applySettingsToPrefs E.settings ((o.withTags tags).applyOverrides b.prefs)
      { alwaysOn := b.overrideAlwaysOn, exitNode := b.overrideAfter edit }).1.exitNode =
      o.exitNode.getD b.prefs.exitNode := by
    rw [policy_exitNode, if_pos hstands]
    rfl
  rcases Backend.exitNodeVerdict_cases hverdict with ⟨rfl, hnamed⟩ | ⟨rfl, -⟩ |
    ⟨rfl, v, pinned, hnamed, -⟩
  · -- the edit does not name the exit node, so both stay
    left
    rw [hnamed] at hnode
    exact ⟨by simp, hstands, hnode⟩
  · cases hstands
  · right
    rw [hnamed] at hnode
    exact ⟨v, rfl, hnamed, hnode⟩

/-- The `begin_up` sections keep the invariant. -/
theorem overrideHeld_upShift {H : Host} {d d' : Daemon} {origin : Origin}
    {authkey : Option String} {o : UpOptions} {netmap : ExitNodeFacts} {io : Io} {ts : List Task}
    (h : OverrideHeld d) (hup : UpShift H d origin authkey o netmap io ts d') :
    OverrideHeld d' := by
  cases hup with
  | keyKept hforce hremove => exact h.congr id rfl rfl
  | failed hcheck hfail hb =>
    obtain ⟨disk, ticks, key, -, rfl⟩ := hb
    intro hstands
    obtain ⟨v, rfl, hnamed, hnode⟩ := upResult_override hcheck hstands
    refine ⟨v, hnode, ?_⟩
    rw [hnamed]
    rfl
  | begun hcheck hconfig hkey hb =>
    obtain ⟨disk, ticks, key, -, rfl⟩ := hb
    intro hstands
    obtain ⟨v, rfl, hnamed, hnode⟩ := upResult_override hcheck hstands
    refine ⟨v, hnode, ?_⟩
    rw [hnamed]
    rfl

/-- A `set` keeps the invariant, whatever becomes of the engine. -/
theorem overrideHeld_set {H : Host} {d d' : Daemon} {o : SetOptions} {netmap : ExitNodeFacts}
    {tags : Option (List String)} {edit : ExitNodeEdit} (h : OverrideHeld d)
    (hcheck : d.backend.checkSet (d.env H) o netmap = .ok (tags, edit))
    (hflag : d'.backend.overrideExitNodePolicy =
      (d.backend.setResult (d.env H) o tags edit).overrideExitNodePolicy)
    (hnode : d'.backend.prefs.exitNode =
      (d.backend.setResult (d.env H) o tags edit).prefs.exitNode)
    (hlog : d'.log = Daemon.grantOf o.exitNode edit ++ d.log) : OverrideHeld d' := by
  intro hstands
  rw [hflag] at hstands
  rw [hnode, hlog]
  rcases setResult_override hcheck hstands with ⟨hedit, hbefore, hsame⟩ | ⟨v, rfl, hnamed, hv⟩
  · rw [hsame, lastOverride_grantOf hedit]
    exact h hbefore
  · refine ⟨v, hv, ?_⟩
    rw [hnamed]
    rfl

/-- A config merge that does not redirect a standing override leaves its node. -/
theorem merge_exitNode {H : Host} {d : Daemon} {c : ConfigVAlpha} {contents : Option String}
    {io : Io} {path : String} (hsource : d.backend.configSource = some (.file path))
    (hvalid : c.validate H d.backend.prefs = .ok ())
    (hgood : KeepsOverride H d (.reload (.ok c) contents io))
    (hstands : d.backend.overrideExitNodePolicy = true) :
    (c.merge d.backend.prefs).exitNode = d.backend.prefs.exitNode := by
  show c.exitNode.or d.backend.prefs.exitNode = d.backend.prefs.exitNode
  cases hnamed : c.exitNode with
  | none => rfl
  | some v =>
    by_contra hother
    exact hgood hstands (.reload hsource hvalid hnamed fun heq => hother heq.symm)

/-- So does the reconcile after it. -/
theorem configured_exitNode {H : Host} {d : Daemon} {c : ConfigVAlpha} {contents : Option String}
    {io : Io} {path : String} (hsource : d.backend.configSource = some (.file path))
    (hvalid : c.validate H d.backend.prefs = .ok ())
    (hgood : KeepsOverride H d (.reload (.ok c) contents io))
    (hstands : d.backend.overrideExitNodePolicy = true) :
    (d.backend.configured (d.env H) c).prefs.exitNode = d.backend.prefs.exitNode := by
  unfold Backend.configured Backend.adoptPrefs Backend.reconcileSysPolicy
  rw [policy_exitNode, if_pos hstands]
  exact merge_exitNode hsource hvalid hgood hstands

/-- **Every event but a redirecting reload keeps the override with its node.** -/
theorem overrideHeld_step {H : Host} {d d' : Daemon} {e : Event} (h : OverrideHeld d)
    (hgood : KeepsOverride H d e) (hstep : Daemon.step H d e = some d') : OverrideHeld d' := by
  cases step_shift hstep with
  | kept he hb hts hh hr =>
    obtain ⟨disk, ticks, key, -, rfl⟩ := hb
    exact h.congr id rfl rfl
  | preflightFailed hfail hb hts hh =>
    obtain ⟨disk, ticks, key, -, rfl⟩ := hb
    exact h.congr id rfl rfl
  | preflightPassed hcause hb hts hh =>
    obtain ⟨disk, ticks, key, -, rfl⟩ := hb
    exact h.congr id rfl rfl
  | rebuildRefused hcheck hts hh => exact h.congr id rfl rfl
  | started hstart hts hh hup => exact overrideHeld_upShift h hup
  | installed hgen hb hts hr hpre hh =>
    obtain ⟨disk, ticks, key, -, rfl⟩ := hb
    exact h.congr id rfl rfl
  | handedBack hgen hb hts hr hpre hh =>
    obtain ⟨disk, ticks, key, -, rfl⟩ := hb
    exact h.congr id rfl rfl
  | buildFailed hb hts hr hpre hh =>
    obtain ⟨disk, ticks, key, -, rfl⟩ := hb
    exact h.congr id rfl rfl
  | setFailed hcheck hfail hb =>
    obtain ⟨disk, ticks, key, -, rfl⟩ := hb
    exact overrideHeld_set h hcheck rfl rfl rfl
  | setPersisted hcheck hdev hb =>
    obtain ⟨disk, ticks, key, -, rfl⟩ := hb
    exact overrideHeld_set h hcheck rfl rfl rfl
  | setRebuild hcheck hdev hneeds hb =>
    obtain ⟨disk, ticks, key, -, rfl⟩ := hb
    exact overrideHeld_set h hcheck rfl rfl rfl
  | setLive hcheck hdev hneeds hb =>
    obtain ⟨disk, ticks, key, -, rfl⟩ := hb
    exact overrideHeld_set h hcheck rfl rfl rfl
  | reloadKeyFailed hsource hdoc hvalid hkey =>
    subst hdoc
    intro hstands
    obtain ⟨v, hv, hlast⟩ := h hstands
    exact ⟨v, (merge_exitNode hsource hvalid hgood hstands).trans hv, hlast⟩
  | reloadFailed hsource hdoc hvalid hfail hb =>
    obtain ⟨disk, ticks, key, -, rfl⟩ := hb
    subst hdoc
    intro hstands
    obtain ⟨v, hv, hlast⟩ := h hstands
    exact ⟨v, (configured_exitNode hsource hvalid hgood hstands).trans hv, hlast⟩
  | reloadApplied hsource hdoc hvalid howed hb =>
    obtain ⟨disk, ticks, key, -, rfl⟩ := hb
    subst hdoc
    intro hstands
    obtain ⟨v, hv, hlast⟩ := h hstands
    exact ⟨v, (configured_exitNode hsource hvalid hgood hstands).trans hv, hlast⟩
  | down he hmark hb hts hh =>
    obtain ⟨disk, ticks, key, -, rfl⟩ := hb
    refine .of_ended ?_
    show (d.backend.downResult (d.env H)).overrideExitNodePolicy = false
    rw [Backend.downResult_eq]
  | logout hmark hb =>
    obtain ⟨disk, ticks, key, -, rfl⟩ := hb
    refine .of_ended ?_
    show (d.backend.logoutResult (d.env H)).overrideExitNodePolicy = false
    rw [Backend.logoutResult_eq]
  | tornDown he hb =>
    obtain ⟨disk, ticks, key, -, rfl⟩ := hb
    exact h.congr id rfl rfl
  | profileActivated he hne hb =>
    obtain ⟨disk, ticks, key, -, rfl⟩ := hb
    exact .of_ended rfl
  | profileEmptied he hb =>
    obtain ⟨disk, ticks, key, -, rfl⟩ := hb
    exact .of_ended rfl
  | policyMoved => exact h.congr id rfl rfl
  | policyTick =>
    rw [Backend.exitNodePolicyChanged_eq, Backend.sysPolicyChanged_eq]
    refine h.congr (fun hstands => ?_) rfl rfl
    exact (Bool.and_eq_true_iff.mp hstands).2
  | timerDropped => exact h.congr id rfl rfl
  | timerClaimed harmed hprofile => exact h.congr id rfl rfl
  | retried hretry => exact h.congr id rfl rfl
  | resumeKeyed htask hkey hts hh hr => exact h.congr id rfl rfl
  | engine => exact h.congr id rfl rfl

/-! ## Reconcile points -/

namespace Backend

/-- The policy has had the last word: without an override, the pinned exit node is in the prefs. -/
def Pinned (E : Env) (b : Backend) : Prop :=
  ∀ pin, policyExitNodeIn E.settings = some pin → b.overrideExitNodePolicy = false →
    b.prefs.exitNode = some pin

/-- A reconcile pins. -/
theorem reconcile_pinned (E : Env) (b : Backend) : (b.reconcileSysPolicy E).Pinned E := by
  intro pin hpin hflag
  unfold reconcileSysPolicy at hflag ⊢
  rw [policy_exitNode, hpin, if_neg (by rw [hflag]; exact Bool.false_ne_true)]
  rfl

theorem Pinned.congr {E : Env} {b b' : Backend} (h : b.Pinned E)
    (hflag : b'.overrideExitNodePolicy = b.overrideExitNodePolicy)
    (hnode : b'.prefs.exitNode = b.prefs.exitNode) : b'.Pinned E := by
  intro pin hpin hoff
  rw [hnode]
  exact h pin hpin (hflag ▸ hoff)

theorem Pinned.diskOnly {E : Env} {b b' : Backend} (h : b.Pinned E) (hb : DiskOnly b b') :
    b'.Pinned E := by
  obtain ⟨disk, ticks, key, -, rfl⟩ := hb
  exact h

theorem upResult_pinned (E : Env) (b : Backend) (o : UpOptions) (tags : Option (List String))
    (edit : ExitNodeEdit) : (b.upResult E o tags edit).Pinned E :=
  reconcile_pinned E _

theorem setResult_pinned (E : Env) (b : Backend) (o : SetOptions) (tags : Option (List String))
    (edit : ExitNodeEdit) : (b.setResult E o tags edit).Pinned E :=
  reconcile_pinned E _

theorem emptyProfile_pinned (E : Env) (b : Backend) : (b.emptyProfile E).Pinned E := by
  have hpinned := reconcile_pinned E ({ b with
    prefs := Prefs.default
    everConfigured := false
    bootAttemptedUp := false }).resetAlwaysOnOverride.resetExitNodePolicyOverride
  -- only a tick follows the reconcile
  exact hpinned.congr rfl rfl

/-- A successful `begin_up` ends with a reconcile. -/
theorem beginUp_pinned {E : Env} {b : Backend} {o : UpOptions} {wif : Option WifCreds}
    {netmap : ExitNodeFacts} {io : Io} (hok : (b.beginUp E o wif netmap io).1.isOk = true) :
    (b.beginUp E o wif netmap io).2.Pinned E := by
  have hcases := beginUp_cases E b o wif netmap io
  generalize b.beginUp E o wif netmap io = out at hcases hok ⊢
  cases hcases with
  | refused hcheck => cases hok
  | keyKept hreauth hforce hremove => cases hok
  | failed hcheck hreauth hfail hb => cases hok
  | @begun tags edit key config b' hcheck hreauth hconfig hkey hb =>
    have hpinned : (b.upResult E o tags edit).bumpGeneration.Pinned E :=
      (upResult_pinned E b o tags edit).congr rfl rfl
    exact hpinned.diskOnly hb

/-- A `begin_set` that got past its checks ends with a reconcile. -/
theorem beginSet_pinned {E : Env} {b : Backend} {o : SetOptions} {netmap : ExitNodeFacts}
    {io : Io} (hok : (b.beginSet E o netmap io).1.isOk = true) :
    (b.beginSet E o netmap io).2.Pinned E := by
  have hcases := beginSet_cases E b o netmap io
  generalize b.beginSet E o netmap io = out at hcases hok ⊢
  cases hcases with
  | refused hcheck => cases hok
  | failed hcheck hfail hb => exact (setResult_pinned E b o _ _).diskOnly hb
  | persistedOnly hcheck hdev hb => exact (setResult_pinned E b o _ _).diskOnly hb
  | rebuild hcheck hdev hneeds hb => exact (setResult_pinned E b o _ _).diskOnly hb
  | live hcheck hdev hneeds hresult hb =>
    -- the pushed setters change the engine only
    refine Pinned.diskOnly ?_ hb
    exact (setResult_pinned E b o _ _).congr rfl rfl

/-- An applied document ends with a reconcile. -/
theorem reloadConfig_pinned {E : Env} {b : Backend} {document : Except Failure ConfigVAlpha}
    {contents : Option String} {io : Io} {action : ReloadAction}
    (hok : (b.reloadConfig E document contents io).1 = .ok (some action)) :
    (b.reloadConfig E document contents io).2.Pinned E := by
  have hcases := reloadConfig_cases E b document contents io
  generalize b.reloadConfig E document contents io = out at hcases hok ⊢
  cases hcases with
  | kept hresult => exact absurd hok (hresult action)
  | keyFailed hsource hdoc hvalid hkey => cases hok
  | failed hsource hdoc hvalid hfail hb => cases hok
  | applied hsource hdoc hvalid hb => exact (reconcile_pinned E _).diskOnly hb

/-- A profile activation or reset ends with a reconcile. -/
theorem profile_pinned {E : Env} {b : Backend} {outcome : Outcome SwitchOutcome}
    (hcase : ProfileCase E b outcome) {id : String} {state : State}
    (hok : outcome.1 = .ok (.switched id state)) : outcome.2.Pinned E := by
  cases hcase with
  | kept hresult hb => exact absurd hok (hresult id state)
  | failed hb => cases hok
  | activated hne hb => exact (reconcile_pinned E _).diskOnly hb
  | emptied hb => exact (emptyProfile_pinned E _).diskOnly hb

end Backend

namespace Daemon

/-- The successful reconcile points: the sections that end with a reconcile, where they succeed. -/
def reconciles (H : Host) (d : Daemon) : Event → Bool
  | .up o _ wif netmap io => (d.backend.beginUp (d.env H) o wif netmap io).1.isOk
  | .rebuild _ io => (d.backend.beginUp (d.env H) {} none {} io).1.isOk
  | .reconnect _ io => (d.backend.beginUp (d.env H) {} none {} io).1.isOk
  | .resume _ io => (d.backend.beginUp (d.env H) {} none {} io).1.isOk
  | .set o netmap io => (d.backend.beginSet (d.env H) o netmap io).1.isOk
  | .reload document contents io =>
    match (d.backend.reloadConfig (d.env H) document contents io).1 with
    | .ok (some _) => true
    | _ => false
  | .switchProfile target io => switched (d.backend.switchProfile (d.env H) target io).1
  | .createProfile id io => switched (d.backend.createProfile (d.env H) id io).1
  | .switchToEmptyProfile draw io =>
    switched (d.backend.switchToEmptyProfile (d.env H) draw io).1
  | _ => false

/-- **A successful reconcile point pins.** -/
theorem pinned_of_reconciles {H : Host} {d d' : Daemon} {e : Event}
    (hrec : d.reconciles H e = true) (hstep : step H d e = some d') :
    d'.backend.Pinned (d.env H) := by
  have hprofile : ∀ {outcome : Outcome SwitchOutcome},
      Backend.ProfileCase (d.env H) d.backend outcome → switched outcome.1 = true →
      (d.changeProfile outcome).backend.Pinned (d.env H) := by
    intro outcome hcase hok
    obtain ⟨id, state, hresult⟩ := switched_ok hok
    rw [changeProfile_backend]
    exact Backend.profile_pinned hcase hresult
  cases e with
  | up o authkey wif netmap io =>
    cases hstep
    unfold driveUp
    rw [beginUp_backend]
    exact Backend.beginUp_pinned hrec
  | rebuild i io =>
    dsimp only [step] at hstep
    split at hstep
    · cases hstep
      rw [beginUp_backend]
      exact Backend.beginUp_pinned hrec
    · cases hstep
  | reconnect i io =>
    dsimp only [step] at hstep
    split at hstep
    · cases hstep
      unfold driveUp
      rw [beginUp_backend]
      exact Backend.beginUp_pinned hrec
    · cases hstep
  | resume i io =>
    dsimp only [step] at hstep
    split at hstep
    · cases hstep
      unfold driveUp
      rw [beginUp_backend]
      exact Backend.beginUp_pinned hrec
    · cases hstep
  | set o netmap io =>
    cases hstep
    rw [driveSet_backend]
    exact Backend.beginSet_pinned hrec
  | reload document contents io =>
    cases hstep
    rw [driveReloadConfig_backend]
    dsimp only [reconciles] at hrec
    split at hrec
    · rename_i action hok
      exact Backend.reloadConfig_pinned hok
    · cases hrec
  | switchProfile target io =>
    cases hstep
    exact hprofile (Backend.switchProfile_cases _ _ _ _) hrec
  | createProfile id io =>
    cases hstep
    exact hprofile (Backend.createProfile_cases _ _ _ _) hrec
  | switchToEmptyProfile draw io =>
    cases hstep
    exact hprofile (Backend.switchToEmptyProfile_cases _ _ _ _) hrec
  | finish i built io => cases hrec
  | preflight i io => cases hrec
  | bringDown i io => cases hrec
  | down reason io => cases hrec
  | logout reason io => cases hrec
  | deleteProfile target io => cases hrec
  | policyMoved policy => cases hrec
  | policyTick => cases hrec
  | timerFired armed => cases hrec
  | sighup io => cases hrec
  | resumeCheck i envAuthkey io => cases hrec
  | engine state => cases hrec

/-! ## The boot -/

/-- A boot leaves the pinned node and no override: the load, the config and the auto-start each end
    with a reconcile under no exemption. -/
theorem boot_pinned {H : Host} {policy : List PolicySource} {s : BootInput} {d : Daemon}
    (h : boot H policy s = .ok d) :
    d.backend.overrideExitNodePolicy = false ∧ d.backend.Pinned (d.env H) := by
  -- the auto-start's last section is the only event of a boot
  have hreach : Reachable H (fun _ e => ∃ i built io, e = .finish i built io) d :=
    ⟨policy, s, d, [], h, .nil d⟩
  have hidle : ∀ d, Idle H d →
      d.backend.overrideExitNodePolicy = false ∧ d.backend.Pinned (d.env H) := by
    intro d hd
    refine ⟨hd.backend.overrideExitNodePolicy, ?_⟩
    intro pin hpin hflag
    obtain ⟨p, hp⟩ := hd.backend.exitNode
    rw [hp, policy_exitNode, hpin]
    rfl
  refine hreach.invariant (P := fun d => d.backend.overrideExitNodePolicy = false ∧
    d.backend.Pinned (d.env H)) (fun _ i built io => ⟨i, built, io, rfl⟩) hidle ?_ ?_
  · rintro d d' authkey io hd hup
    cases hup with
    | keyKept hforce hremove => exact hidle d hd
    | failed hcheck hfail hb =>
      have hpinned := (Backend.reconcile_pinned (d.env H) _).diskOnly hb
      obtain ⟨disk, ticks, key, -, rfl⟩ := hb
      obtain rfl := checkUp_unnamed rfl hcheck
      exact ⟨rfl, hpinned⟩
    | begun hcheck hconfig hkey hb =>
      obtain ⟨disk, ticks, key, -, rfl⟩ := hb
      obtain rfl := checkUp_unnamed rfl hcheck
      exact ⟨rfl, (Backend.upResult_pinned (d.env H) d.backend {} _ _).congr rfl rfl⟩
  · rintro d e d' ⟨hflag, hpinned⟩ ⟨i, built, io, rfl⟩ hstep
    cases step_shift hstep with
    | kept he hb hts hh hr =>
      obtain ⟨disk, ticks, key, -, rfl⟩ := hb
      exact ⟨hflag, hpinned⟩
    | started hstart hts hh hup => cases hstart
    | installed hgen hb hts hr hpre hh =>
      obtain ⟨disk, ticks, key, -, rfl⟩ := hb
      exact ⟨hflag, hpinned⟩
    | handedBack hgen hb hts hr hpre hh =>
      obtain ⟨disk, ticks, key, -, rfl⟩ := hb
      exact ⟨hflag, hpinned⟩
    | buildFailed hb hts hr hpre hh =>
      obtain ⟨disk, ticks, key, -, rfl⟩ := hb
      exact ⟨hflag, hpinned⟩
    | down he hmark hb hts hh => rcases he with ⟨_, _, he⟩ | ⟨_, _, he⟩ <;> cases he
    | tornDown he hb => rcases he with he | ⟨_, _, he⟩ <;> cases he
    | profileActivated he hne hb => cases he
    | profileEmptied he hb => cases he

end Daemon

/-! ## The pin holds -/

/-- The exit node in the prefs is the pinned one, or the one of the last override granted, which
    stands. -/
def HoldsExitNode (pin : String) (d : Daemon) : Prop :=
  d.backend.prefs.exitNode = some pin ∨
  d.backend.overrideExitNodePolicy = true ∧
    ∃ v, d.backend.prefs.exitNode = some v ∧ lastOverride d.log = some v

/-- An override holds in every state reached by reloads that do not redirect one. -/
theorem overrideHeld_run {H : Host} {d : Daemon} (h : Daemon.Reachable H (KeepsOverride H) d) :
    OverrideHeld d := by
  have hidle : ∀ d, Idle H d → OverrideHeld d := fun d hd =>
    .of_ended hd.backend.overrideExitNodePolicy
  refine h.invariant ?_ hidle ?_ ?_
  · rintro d i built io - hredirects
    cases hredirects
  · rintro d d' authkey io hd hup
    exact overrideHeld_upShift (hidle d hd) hup
  · rintro d e d' hheld hgood hstep
    exact overrideHeld_step hheld hgood hstep

/-- **While the policy pins an exit node, every successful reconcile point leaves the pinned node,
    or the node of the last override granted with the override standing**, in every run in which no
    reload names another exit node while an override stands.  A boot leaves the pinned node. -/
theorem exit_node_pinned_or_overridden {H : Host} {d : Daemon}
    (h : Daemon.Reachable H (KeepsOverride H) d) :
    (∀ policy s pin, Daemon.boot H policy s = .ok d →
      policyExitNodeIn (d.env H).settings = some pin → d.backend.prefs.exitNode = some pin) ∧
    ∀ e d' pin, KeepsOverride H d e → Daemon.step H d e = some d' →
      d.reconciles H e = true → policyExitNodeIn (d.env H).settings = some pin →
      HoldsExitNode pin d' := by
  constructor
  · intro policy s pin hboot hpin
    obtain ⟨hflag, hpinned⟩ := Daemon.boot_pinned hboot
    exact hpinned pin hpin hflag
  · intro e d' pin hgood hstep hrec hpin
    cases hflag : d'.backend.overrideExitNodePolicy with
    | false => exact .inl (Daemon.pinned_of_reconciles hrec hstep pin hpin hflag)
    | true => exact .inr ⟨hflag, overrideHeld_step (overrideHeld_run h) hgood hstep hflag⟩

/-! ## A redirected override -/

/-- A policy that pins an exit node and lets an operator pick another. -/
def pinnedPolicy : List PolicySource :=
  [⟨[⟨"ExitNodeIP", some "100.64.0.1"⟩, ⟨"ExitNode.AllowOverride", some "true"⟩], none⟩]

/-- An operator picks another node than the pinned one. -/
def pickEgress : Event := .set { exitNode := some (some "100.64.0.9") } {} {}

/-- A `set` of something else. -/
def acceptRoutes : Event := .set { acceptRoutes := some true } {} {}

/-- A reload that names the node of the `--config` document again. -/
def reloadSpare : Event := .reload (.ok { exitNode := some "100.64.0.7" }) none {}

/-- On a pinned node, an operator's pick survives a `set` of something else. -/
theorem exit_node_pinned_or_overridden_set :
    ∃ d d', Daemon.replay plainHost pinnedPolicy firstBoot [pickEgress] = some d ∧
      Daemon.step plainHost d acceptRoutes = some d' ∧
      d'.backend.prefs.exitNode = some "100.64.0.9" ∧ HoldsExitNode "100.64.0.1" d' := by
  have hset : ∀ o netmap io d, KeepsOverride plainHost d (.set o netmap io) := by
    intro o netmap io d hstands hredirects
    cases hredirects
  obtain ⟨d, d', hd, hstep, hrec, hpin, hnode⟩ : ∃ d d',
      Daemon.replay plainHost pinnedPolicy firstBoot [pickEgress] = some d ∧
      Daemon.step plainHost d acceptRoutes = some d' ∧
      d.reconciles plainHost acceptRoutes = true ∧
      policyExitNodeIn (d.env plainHost).settings = some "100.64.0.1" ∧
      d'.backend.prefs.exitNode = some "100.64.0.9" :=
    ⟨_, _, rfl, rfl, rfl, rfl, rfl⟩
  have hreach : Daemon.Reachable plainHost (KeepsOverride plainHost) d := by
    refine Daemon.reachable_replay ?_ hd
    intro e he
    rw [List.mem_singleton.mp he]
    exact hset _ _ _
  exact ⟨d, d', hd, hstep, hnode,
    (exit_node_pinned_or_overridden hreach).2 _ d' _ (hset _ _ _ d) hstep hrec hpin⟩

/-- A start with a `--config` document that names an exit node of its own. -/
def spareBoot : Daemon.BootInput :=
  { disk := emptyDisk
    config := some (.file "/etc/tailscaled.json", { exitNode := some "100.64.0.7" }, none) }

/-- **A reload puts an unpinned node in force under another node's override**: the flag granted for
    the operator's pick keeps the policy from writing over the document's node. -/
theorem reload_redirects_override :
    ¬ ∀ (d : Daemon) (e : Event) (d' : Daemon) (pin : String),
      Daemon.Reachable plainHost (fun _ _ => True) d → Daemon.step plainHost d e = some d' →
      d.reconciles plainHost e = true → policyExitNodeIn (d.env plainHost).settings = some pin →
      HoldsExitNode pin d' := by
  intro hclaim
  obtain ⟨d, d', hd, hstep, hrec, hpin, hnode, hlast⟩ : ∃ d d',
      Daemon.replay plainHost pinnedPolicy spareBoot [pickEgress] = some d ∧
      Daemon.step plainHost d reloadSpare = some d' ∧
      d.reconciles plainHost reloadSpare = true ∧
      policyExitNodeIn (d.env plainHost).settings = some "100.64.0.1" ∧
      d'.backend.prefs.exitNode = some "100.64.0.7" ∧ lastOverride d'.log = some "100.64.0.9" :=
    ⟨_, _, rfl, rfl, rfl, rfl, rfl, rfl⟩
  have hreach : Daemon.Reachable plainHost (fun _ _ => True) d :=
    Daemon.reachable_replay (fun _ _ _ => trivial) hd
  rcases hclaim d reloadSpare d' _ hreach hstep hrec hpin with hpinned | ⟨-, v, hv, hgrant⟩
  · rw [hnode] at hpinned
    exact absurd hpinned (by decide)
  · rw [hnode] at hv
    rw [hlast, ← hv] at hgrant
    exact absurd hgrant (by decide)

end Tailnetd
