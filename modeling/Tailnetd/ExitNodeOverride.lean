/-
  How long an exit-node override stands.

  An override ends when the node connects or disconnects, when the profile changes, when the
  administrator moves the exit-node keys, or when an operator picks the pinned node.  `OverrideMove`
  says what one event does to it.  The connect edge is `begin_up`, and the daemon runs that section
  on its own behalf too: for the rebuild of a `set` or a reload, for the reconnect timer and for the
  retry of the auto-start.  Those take the override with them, so that a `set` which names an exit
  node together with a preference that needs a rebuild loses the node it has just named.
-/
import Tailnetd.ExitNodePin

namespace Tailnetd

open Machine

/-! ## What ends an override -/

/-- The events that may end a standing override. -/
inductive EndsOverride (H : Host) (d : Daemon) : Event → Prop
  | connect {o : UpOptions} {authkey : Option String} {wif : Option WifCreds}
      {netmap : ExitNodeFacts} {io : Io} : EndsOverride H d (.up o authkey wif netmap io)
  | down {reason : Option String} {io : Io} : EndsOverride H d (.down reason io)
  | logout {reason : Option String} {io : Io} : EndsOverride H d (.logout reason io)
  | profile {e : Event} (he : e.changesProfile = true) : EndsOverride H d e
  | keysMoved (hmoved : exitNodeKeysIn (d.env H).settings ≠ d.backend.exitNodeKeys) :
      EndsOverride H d .policyTick
  | pinnedNode {o : SetOptions} {netmap : ExitNodeFacts} {io : Io} {pin : String}
      (hpin : policyExitNodeIn (d.env H).settings = some pin)
      (hnamed : o.exitNode = some (some pin)) : EndsOverride H d (.set o netmap io)

/-- A section the daemon runs on its own behalf that reaches the connect edge or the disconnect
    edge. -/
inductive DaemonEdge (H : Host) (d : Daemon) : Event → Prop
  | rebuild {i : Nat} {io : Io} {cause : Cause} (htask : d.tasks[i]? = some (.rebuild cause))
      (hcheck : (d.backend.checkUp (d.env H) {} {}).isOk = true) : DaemonEdge H d (.rebuild i io)
  | reconnect {i : Nat} {io : Io} (htask : d.tasks[i]? = some .reconnect)
      (hcheck : (d.backend.checkUp (d.env H) {} {}).isOk = true) : DaemonEdge H d (.reconnect i io)
  | resume {i : Nat} {io : Io} {authkey : Option String}
      (htask : d.tasks[i]? = some (.resume authkey))
      (hcheck : (d.backend.checkUp (d.env H) {} {}).isOk = true) : DaemonEdge H d (.resume i io)
  | bringDown {i : Nat} {io : Io} (htask : d.tasks[i]? = some .bringDown) :
      DaemonEdge H d (.bringDown i io)

/-- No override stands when the daemon reaches an edge on its own behalf. -/
def LeavesOverride (H : Host) (d : Daemon) (e : Event) : Prop :=
  d.backend.overrideExitNodePolicy = true → ¬ DaemonEdge H d e

/-- A `set` that names an exit node while the policy pins none. -/
def NamesUnpinned (H : Host) (d : Daemon) (e : Event) : Prop :=
  policyExitNodeIn (d.env H).settings = none ∧
    ∃ o netmap io, e = .set o netmap io ∧ o.exitNode.isSome = true

/-- What an event does to the override. -/
inductive OverrideMove (H : Host) (d : Daemon) (e : Event) (d' : Daemon) : Prop
  | same (h : d'.backend.overrideExitNodePolicy = d.backend.overrideExitNodePolicy)
  | granted {pin : String} (hpin : policyExitNodeIn (d.env H).settings = some pin)
      (h : d'.backend.overrideExitNodePolicy = true)
  | ended (why : EndsOverride H d e ∨ DaemonEdge H d e ∨ NamesUnpinned H d e)
      (h : d'.backend.overrideExitNodePolicy = false)

/-- A `begin_up` that got past its checks ends the override, or grants one while a node is
    pinned. -/
theorem overrideMove_up {H : Host} {d d' : Daemon} {e : Event} {o : UpOptions}
    {netmap : ExitNodeFacts} {tags : Option (List String)} {edit : ExitNodeEdit}
    (why : EndsOverride H d e ∨ DaemonEdge H d e)
    (hcheck : d.backend.checkUp (d.env H) o netmap = .ok (tags, edit))
    (hflag : d'.backend.overrideExitNodePolicy =
      (d.backend.upResult (d.env H) o tags edit).overrideExitNodePolicy) :
    OverrideMove H d e d' := by
  obtain ⟨-, hverdict⟩ := Backend.checkUp_verdict hcheck
  rw [Backend.upResult, Backend.applyUp_eq] at hflag
  have hended : EndsOverride H d e ∨ DaemonEdge H d e ∨ NamesUnpinned H d e :=
    why.imp_right .inl
  rcases Backend.exitNodeVerdict_cases hverdict with ⟨rfl, -⟩ | ⟨rfl, -⟩ | ⟨rfl, v, pin, -, hpin, -⟩
  · exact .ended hended hflag
  · exact .ended hended hflag
  · exact .granted hpin hflag

/-- A section that starts an engine is the operator's connect, or an edge of the daemon's own. -/
theorem starts_edge {H : Host} {d : Daemon} {e : Event} {origin : Origin}
    {authkey : Option String} {o : UpOptions} {netmap : ExitNodeFacts} {io : Io}
    {tags : Option (List String)} {edit : ExitNodeEdit}
    (hstart : Starts H d e origin authkey o netmap io)
    (hcheck : d.backend.checkUp (d.env H) o netmap = .ok (tags, edit)) :
    EndsOverride H d e ∨ DaemonEdge H d e := by
  cases hstart with
  | operator => exact .inl .connect
  | rebuild htask => exact .inr (.rebuild htask (by rw [hcheck]; rfl))
  | reconnect htask => exact .inr (.reconnect htask (by rw [hcheck]; rfl))
  | resume htask => exact .inr (.resume htask (by rw [hcheck]; rfl))

/-- A `set` that got past its checks keeps the override, grants one while a node is pinned, or ends
    it by naming the pinned node. -/
theorem overrideMove_set {H : Host} {d d' : Daemon} {o : SetOptions} {netmap : ExitNodeFacts}
    {io : Io} {tags : Option (List String)} {edit : ExitNodeEdit}
    (hcheck : d.backend.checkSet (d.env H) o netmap = .ok (tags, edit))
    (hflag : d'.backend.overrideExitNodePolicy =
      (d.backend.setResult (d.env H) o tags edit).overrideExitNodePolicy) :
    OverrideMove H d (.set o netmap io) d' := by
  obtain ⟨-, hverdict⟩ := Backend.checkSet_verdict hcheck
  rw [Backend.setResult, Backend.applySet_eq] at hflag
  rcases Backend.exitNodeVerdict_cases hverdict with ⟨rfl, -⟩ | ⟨rfl, hnamed, hpin⟩ |
    ⟨rfl, v, pin, -, hpin, -⟩
  · exact .same hflag
  · refine .ended ?_ hflag
    cases hpolicy : policyExitNodeIn (d.env H).settings with
    | none => exact .inr (.inr ⟨hpolicy, o, netmap, io, rfl, hnamed⟩)
    | some pin =>
      rcases hpin with hnone | hsame
      · cases hpolicy.symm.trans hnone
      · exact .inl (.pinnedNode hpolicy (hsame.trans (congrArg some hpolicy)))
  · exact .granted hpin hflag

/-- **What each event does to the override.** -/
theorem override_step {H : Host} {d d' : Daemon} {e : Event}
    (hstep : Daemon.step H d e = some d') : OverrideMove H d e d' := by
  cases step_shift hstep with
  | kept he hb hts hh hr =>
    obtain ⟨disk, ticks, key, -, rfl⟩ := hb
    exact .same rfl
  | preflightFailed hfail hb hts hh =>
    obtain ⟨disk, ticks, key, -, rfl⟩ := hb
    exact .same rfl
  | preflightPassed hcause hb hts hh =>
    obtain ⟨disk, ticks, key, -, rfl⟩ := hb
    exact .same rfl
  | rebuildRefused hcheck hts hh => exact .same rfl
  | started hstart hts hh hup =>
    cases hup with
    | keyKept hforce hremove => exact .same rfl
    | failed hcheck hfail hb =>
      obtain ⟨disk, ticks, key, -, rfl⟩ := hb
      exact overrideMove_up (starts_edge hstart hcheck) hcheck rfl
    | begun hcheck hconfig hkey hb =>
      obtain ⟨disk, ticks, key, -, rfl⟩ := hb
      exact overrideMove_up (starts_edge hstart hcheck) hcheck rfl
  | installed hgen hb hts hr hpre hh =>
    obtain ⟨disk, ticks, key, -, rfl⟩ := hb
    exact .same rfl
  | handedBack hgen hb hts hr hpre hh =>
    obtain ⟨disk, ticks, key, -, rfl⟩ := hb
    exact .same rfl
  | buildFailed hb hts hr hpre hh =>
    obtain ⟨disk, ticks, key, -, rfl⟩ := hb
    exact .same rfl
  | setFailed hcheck hfail hb =>
    obtain ⟨disk, ticks, key, -, rfl⟩ := hb
    exact overrideMove_set hcheck rfl
  | setPersisted hcheck hdev hb =>
    obtain ⟨disk, ticks, key, -, rfl⟩ := hb
    exact overrideMove_set hcheck rfl
  | setRebuild hcheck hdev hneeds hb =>
    obtain ⟨disk, ticks, key, -, rfl⟩ := hb
    exact overrideMove_set hcheck rfl
  | setLive hcheck hdev hneeds hb =>
    obtain ⟨disk, ticks, key, -, rfl⟩ := hb
    exact overrideMove_set hcheck rfl
  | reloadKeyFailed hsource hdoc hvalid hkey => exact .same rfl
  | reloadFailed hsource hdoc hvalid hfail hb =>
    obtain ⟨disk, ticks, key, -, rfl⟩ := hb
    exact .same rfl
  | reloadApplied hsource hdoc hvalid howed hb =>
    obtain ⟨disk, ticks, key, -, rfl⟩ := hb
    exact .same rfl
  | down he hmark hb hts hh =>
    obtain ⟨disk, ticks, key, -, rfl⟩ := hb
    have hended : (d.backend.downResult (d.env H)).overrideExitNodePolicy = false := by
      rw [Backend.downResult_eq]
    rcases he with ⟨reason, io, rfl⟩ | ⟨i, io, rfl⟩
    · exact .ended (.inl .down) hended
    · refine .ended (.inr (.inl ?_)) hended
      -- the section was enabled, so its task stood there
      dsimp only [Daemon.step] at hstep
      split at hstep
      · rename_i htask
        exact .bringDown htask
      · cases hstep
  | logout hmark hb =>
    obtain ⟨disk, ticks, key, -, rfl⟩ := hb
    refine .ended (.inl .logout) ?_
    show (d.backend.logoutResult (d.env H)).overrideExitNodePolicy = false
    rw [Backend.logoutResult_eq]
  | tornDown he hb =>
    obtain ⟨disk, ticks, key, -, rfl⟩ := hb
    exact .same rfl
  | profileActivated he hne hb =>
    obtain ⟨disk, ticks, key, -, rfl⟩ := hb
    exact .ended (.inl (.profile he)) rfl
  | profileEmptied he hb =>
    obtain ⟨disk, ticks, key, -, rfl⟩ := hb
    exact .ended (.inl (.profile he)) rfl
  | policyMoved => exact .same rfl
  | policyTick =>
    rw [Backend.exitNodePolicyChanged_eq, Backend.sysPolicyChanged_eq]
    by_cases hkeys : exitNodeKeysIn (d.env H).settings = d.backend.exitNodeKeys
    · refine .same ?_
      show (decide _ && d.backend.overrideExitNodePolicy) = d.backend.overrideExitNodePolicy
      rw [decide_eq_true hkeys]
      rfl
    · refine .ended (.inl (.keysMoved hkeys)) ?_
      show (decide _ && d.backend.overrideExitNodePolicy) = false
      rw [decide_eq_false hkeys]
      rfl
  | timerDropped => exact .same rfl
  | timerClaimed harmed hprofile => exact .same rfl
  | retried hretry => exact .same rfl
  | resumeKeyed htask hkey hts hh hr => exact .same rfl
  | engine => exact .same rfl

/-! ## The keys under which it was granted -/

/-- The pin depends on the exit-node keys. -/
theorem policyExitNodeIn_congr {settings settings' : List PolicySetting}
    (h : exitNodeKeysIn settings = exitNodeKeysIn settings') :
    policyExitNodeIn settings = policyExitNodeIn settings' := by
  have hid : configuredString settings "ExitNodeID" = configuredString settings' "ExitNodeID" :=
    congrArg ExitNodeKeys.id h
  have hip : configuredString settings "ExitNodeIP" = configuredString settings' "ExitNodeIP" :=
    congrArg ExitNodeKeys.ip h
  unfold policyExitNodeIn
  rw [hid, hip]

/-- The administrator has moved the exit-node keys since the override that stands at the end of the
    run was granted. -/
def KeysMovedSince (H : Host) (d₀ : Daemon) (es : List Event) (d : Daemon) : Prop :=
  ∃ es₁ e es₂ t t', es = es₁ ++ e :: es₂ ∧
    Run (Daemon.step H) (fun _ _ => True) d₀ es₁ t ∧
    t.backend.overrideExitNodePolicy = false ∧ Daemon.step H t e = some t' ∧
    t'.backend.overrideExitNodePolicy = true ∧
    Run (Daemon.step H) (fun d _ => d.backend.overrideExitNodePolicy = true) t' es₂ d ∧
    exitNodeKeysIn (t.env H).settings ≠ exitNodeKeysIn (d.env H).settings

/-- An override is granted while a node is pinned; if none is any more, the keys have moved. -/
theorem keysMoved_of_unpinned {H : Host} {good : Daemon → Event → Prop} {d₀ d : Daemon}
    {es : List Event} (hrun : Run (Daemon.step H) good d₀ es d)
    (hstart : d₀.backend.overrideExitNodePolicy = false)
    (hstands : d.backend.overrideExitNodePolicy = true)
    (hpin : policyExitNodeIn (d.env H).settings = none) : KeysMovedSince H d₀ es d := by
  have hoff : ¬ d₀.backend.overrideExitNodePolicy = true := by
    rw [hstart]
    exact Bool.false_ne_true
  obtain ⟨es₁, e, es₂, t, t', hes, hbefore, ht, -, hstep, ht', hafter⟩ :=
    hrun.last_rise (P := fun d => d.backend.overrideExitNodePolicy = true) hoff hstands
  refine ⟨es₁, e, es₂, t, t', hes, hbefore.mono fun _ _ _ => trivial,
    Bool.eq_false_iff.mpr ht, hstep, ht', hafter, ?_⟩
  intro hkeys
  cases override_step hstep with
  | same h => exact ht (h ▸ ht')
  | granted hgrant h =>
    rw [policyExitNodeIn_congr hkeys, hpin] at hgrant
    cases hgrant
  | ended why h =>
    rw [h] at ht'
    cases ht'

/-! ## The rebuild of a `set` -/

/-- The task at the end of the list is picked up there. -/
theorem picked_last {ts : List Task} {t u : Task} (h : (ts ++ [t])[ts.length]? = some u) :
    u = t ∧ (ts ++ [t]).eraseIdx ts.length = ts := by
  constructor
  · rw [List.getElem?_concat_length] at h
    exact (Option.some.inj h).symm
  · rw [List.eraseIdx_append_of_length_le (Nat.le_refl _), Nat.sub_self]
    exact List.append_nil ts

/-- Nothing stands past the end of the list. -/
theorem not_picked {ts us : List Task} {u : Task} (hus : us = ts)
    (h : us[ts.length]? = some u) : False := by
  rw [hus, List.getElem?_eq_none (Nat.le_refl _)] at h
  cases h

/-- A `set` owes a preflight, or nothing new. -/
theorem driveSet_tasks (H : Host) (d : Daemon) (o : SetOptions) (netmap : ExitNodeFacts)
    (io : Io) :
    (d.driveSet H o netmap io).policy = d.policy ∧
      ((d.driveSet H o netmap io).tasks = d.tasks ∨
        (d.driveSet H o netmap io).tasks = d.tasks ++ [.preflight .set]) := by
  unfold Daemon.driveSet
  dsimp only
  split
  · exact ⟨rfl, .inr rfl⟩
  · exact ⟨rfl, .inl rfl⟩

/-- A preflight owes a rebuild, or nothing new. -/
theorem preflight_tasks (H : Host) (d : Daemon) (cause : Cause) (io : Io) :
    (d.preflight H cause io).policy = d.policy ∧
      ((d.preflight H cause io).tasks = d.tasks ∨
        (d.preflight H cause io).tasks = d.tasks ++ [.rebuild cause]) := by
  unfold Daemon.preflight
  split
  · exact ⟨rfl, .inl rfl⟩
  · exact ⟨rfl, .inr rfl⟩

/-- The config a bring-up starts from names the exit node of the prefs. -/
theorem configOf_exitNode {H : Host} {p : Prefs} {listenPort : Option UInt16} {key : KeyState}
    {config : Config} (h : configOf H p listenPort key = .ok config) :
    config.exitNode = p.exitNode.map ExitNodeSelector.parse := by
  unfold configOf at h
  split at h
  · cases h
  · split at h
    · cases h
    · split at h
      · cases h
      · split at h
        · cases h
        · cases h
          rfl

theorem withWif_exitNode (wif : Option WifCreds) (c : Config) :
    (Backend.withWif wif c).exitNode = c.exitNode := by
  cases wif <;> rfl

/-- **A rebuild's `begin_up` goes back to the pinned node**: it owes its handshake only if it put
    the pinned node into the prefs and into the config it starts from. -/
theorem rebuild_repins {H : Host} {d d' : Daemon} {ts : List Task} {cause : Cause} {io : Io}
    {pin : String} (hpin : policyExitNodeIn (d.env H).settings = some pin)
    (htasks : d.tasks = ts ++ [.rebuild cause])
    (hstep : Daemon.step H d (.rebuild ts.length io) = some d') :
    d'.tasks = ts ∨
    ∃ pending authkey origin, d'.tasks = ts ++ [.handshake pending authkey origin] ∧
      pending.generation = d'.backend.generation ∧
      pending.config.exitNode = some (ExitNodeSelector.parse pin) ∧
      d'.backend.prefs.exitNode = some pin ∧ d'.backend.overrideExitNodePolicy = false := by
  dsimp only [Daemon.step] at hstep
  split at hstep
  · rename_i cause' htask
    cases hstep
    rw [htasks] at htask
    obtain ⟨-, herase⟩ := picked_last htask
    rw [show d.take ts.length = { d with tasks := ts } by
      unfold Daemon.take
      rw [htasks, herase]]
    rcases beginUp_shift H d (.rebuild cause') none {} none {} io ts with ⟨-, heq⟩ | hup
    · left
      rw [heq]
    · generalize Daemon.beginUp H { d with tasks := ts } (.rebuild cause') none {} none {} io = d'
        at hup ⊢
      cases hup with
      | keyKept hforce => cases hforce
      | failed hcheck hfail hb => exact .inl rfl
      | @begun wif tags edit key config b' hcheck hconfig hkey hb =>
        right
        obtain rfl := checkUp_unnamed rfl hcheck
        have hnode : (d.backend.upResult (d.env H) {} tags .untouched).prefs.exitNode = some pin :=
          Backend.upResult_pinned (d.env H) d.backend {} tags .untouched pin hpin rfl
        obtain ⟨disk, ticks, key, -, rfl⟩ := hb
        refine ⟨_, _, _, rfl, ?_, ?_, hnode, rfl⟩
        · exact congrArg (· + 1) (Backend.upResult_generation _ _ _ _ _).symm
        · show (Backend.withWif _ _).exitNode = _
          rw [withWif_exitNode, configOf_exitNode hconfig, hnode]
          rfl
  · cases hstep

/-- A current bring-up that comes back with an engine installs it, with the config it started
    from. -/
theorem finish_current {H : Host} {d d' : Daemon} {ts : List Task} {pending : PendingUp}
    {authkey : Option String} {origin : Origin} {state : DeviceState} {io : Io}
    (htasks : d.tasks = ts ++ [.handshake pending authkey origin])
    (hgen : pending.generation = d.backend.generation)
    (hstep : Daemon.step H d (.finish ts.length (some state) io) = some d') :
    d'.backend.device = some ⟨d.nextDevice, pending.config, state⟩ ∧
      d'.backend.prefs.exitNode = d.backend.prefs.exitNode := by
  dsimp only [Daemon.step] at hstep
  split at hstep
  · rename_i pending' authkey' origin' htask
    rw [htasks] at htask
    obtain ⟨htask, -⟩ := picked_last htask
    cases htask
    cases hstep
    dsimp only [Daemon.finish, Daemon.take]
    -- the environment is the policy's, whatever the tasks and the engines
    generalize henv : Daemon.env H _ = E
    obtain rfl : d.env H = E := henv
    have hcases := Backend.finishSection_cases (d.env H) d.backend pending
      (.ok ⟨d.nextDevice, pending.config, state⟩) io
    generalize d.backend.finishSection (d.env H) pending
      (.ok ⟨d.nextDevice, pending.config, state⟩) io = out at hcases ⊢
    obtain ⟨result, b1⟩ := out
    rcases hcases with ⟨hne, -⟩ | ⟨-, e, hdev, -⟩ | ⟨-, dev, hdev, hres, hb⟩
    · exact absurd hgen hne
    · cases hdev
    · cases hdev
      cases hres
      have hprefs : b1.prefs = { d.backend.prefs with hasLoggedIn := true } := hb.prefs
      refine ⟨hb.device, ?_⟩
      show b1.prefs.exitNode = d.backend.prefs.exitNode
      rw [hprefs]
  · cases hstep

/-- The four sections of a `set` that rebuilds, with no other event in between. -/
def setSections (d : Daemon) (o : SetOptions) (netmap : ExitNodeFacts) (io₁ io₂ io₃ io₄ : Io)
    (state : DeviceState) : List Event :=
  [.set o netmap io₁, .preflight d.tasks.length io₂, .rebuild d.tasks.length io₃,
    .finish d.tasks.length (some state) io₄]

/-- **A `set` that rebuilds leaves the pinned node**, whatever exit node it named. -/
theorem set_rebuild_repins {H : Host} {d d' : Daemon} {o : SetOptions} {netmap : ExitNodeFacts}
    {io₁ io₂ io₃ io₄ : Io} {state : DeviceState} {pin : String}
    (hpin : policyExitNodeIn (d.env H).settings = some pin)
    (hrun : follow (Daemon.step H) d (setSections d o netmap io₁ io₂ io₃ io₄ state) = some d') :
    d'.backend.prefs.exitNode = some pin ∧
      ∃ dev, d'.backend.device = some dev ∧
        dev.config.exitNode = some (ExitNodeSelector.parse pin) := by
  obtain ⟨d₁, hset, hrun⟩ := Option.bind_eq_some_iff.mp hrun
  obtain ⟨d₂, hpreflight, hrun⟩ := Option.bind_eq_some_iff.mp hrun
  obtain ⟨d₃, hrebuild, hrun⟩ := Option.bind_eq_some_iff.mp hrun
  obtain ⟨d₄, hfinish, hrun⟩ := Option.bind_eq_some_iff.mp hrun
  obtain rfl : d₄ = d' := Option.some.inj hrun
  -- each section leaves the next one's task at the end of the list, or the next one is not enabled
  have h₁ : d₁.policy = d.policy ∧ d₁.tasks = d.tasks ++ [.preflight .set] := by
    cases hset
    obtain ⟨hpolicy, htasks⟩ := driveSet_tasks H d o netmap io₁
    refine ⟨hpolicy, htasks.resolve_left fun hnone => ?_⟩
    dsimp only [Daemon.step] at hpreflight
    split at hpreflight
    · rename_i htask
      exact not_picked hnone htask
    · cases hpreflight
  have h₂ : d₂.policy = d.policy ∧ ∃ cause, d₂.tasks = d.tasks ++ [.rebuild cause] := by
    dsimp only [Daemon.step] at hpreflight
    split at hpreflight
    · rename_i cause htask
      cases hpreflight
      rw [h₁.2] at htask
      obtain ⟨-, herase⟩ := picked_last htask
      have htake : (d₁.take d.tasks.length).tasks = d.tasks := by
        unfold Daemon.take
        rw [h₁.2]
        exact herase
      obtain ⟨hpolicy, htasks⟩ := preflight_tasks H (d₁.take d.tasks.length) cause io₂
      rw [htake] at htasks
      refine ⟨hpolicy.trans h₁.1, cause, htasks.resolve_left fun hnone => ?_⟩
      dsimp only [Daemon.step] at hrebuild
      split at hrebuild
      · rename_i htask
        exact not_picked hnone htask
      · cases hrebuild
    · cases hpreflight
  obtain ⟨hpolicy, cause, htasks⟩ := h₂
  have hpin₂ : policyExitNodeIn (d₂.env H).settings = some pin := by
    rw [show d₂.env H = d.env H from congrArg (Env.mk H) hpolicy]
    exact hpin
  rcases rebuild_repins hpin₂ htasks hrebuild with hnone |
    ⟨pending, authkey, origin, howed, hgen, hconfig, hnode, -⟩
  · exfalso
    dsimp only [Daemon.step] at hfinish
    split at hfinish
    · rename_i htask
      exact not_picked hnone htask
    · cases hfinish
  · obtain ⟨hdev, hsame⟩ := finish_current howed hgen hfinish
    exact ⟨hsame.trans hnode, _, hdev, hconfig⟩

/-! ## How long an override stands -/

/-- **An override stands until an operator's connect or disconnect, a profile change, a change of
    the exit-node keys or a pick of the pinned node ends it**, in every run in which the daemon
    reaches no edge on its own behalf while one stands.
    The rebuild of a `set` is such an edge: a `set` that names another exit node and needs a rebuild
    never leaves the node it named. -/
theorem override_stands_until {H : Host} {policy : List PolicySource} {s : Daemon.BootInput}
    {d₀ : Daemon} (hboot : Daemon.boot H policy s = .ok d₀) :
    (∀ es d e d', Run (Daemon.step H) (LeavesOverride H) d₀ es d →
      d.backend.overrideExitNodePolicy = true → LeavesOverride H d e →
      Daemon.step H d e = some d' → d'.backend.overrideExitNodePolicy = false →
      EndsOverride H d e ∨
        (∃ o netmap io, e = .set o netmap io ∧ o.exitNode.isSome = true) ∧
          KeysMovedSince H d₀ es d) ∧
    ∀ d o netmap io₁ io₂ io₃ io₄ state d' pin,
      policyExitNodeIn (d.env H).settings = some pin →
      follow (Daemon.step H) d (setSections d o netmap io₁ io₂ io₃ io₄ state) = some d' →
      d'.backend.prefs.exitNode = some pin ∧
        ∃ dev, d'.backend.device = some dev ∧
          dev.config.exitNode = some (ExitNodeSelector.parse pin) := by
  constructor
  · intro es d e d' hrun hstands hgood hstep hended
    cases override_step hstep with
    | same h =>
      rw [hended, hstands] at h
      cases h
    | granted hpin h =>
      rw [hended] at h
      cases h
    | ended why h =>
      rcases why with hends | hedge | ⟨hpin, hnames⟩
      · exact .inl hends
      · exact absurd hedge (hgood hstands)
      · exact .inr ⟨hnames, keysMoved_of_unpinned hrun (Daemon.boot_pinned hboot).1 hstands hpin⟩
  · intro d o netmap io₁ io₂ io₃ io₄ state d' pin hpin hrun
    exact set_rebuild_repins hpin hrun

/-- An operator's pick stands until the operator goes back to the pinned node. -/
theorem override_stands_until_back :
    ∃ d₀ d d', Daemon.boot plainHost pinnedPolicy firstBoot = .ok d₀ ∧
      follow (Daemon.step plainHost) d₀ [pickEgress] = some d ∧
      d.backend.overrideExitNodePolicy = true ∧
      Daemon.step plainHost d (.set { exitNode := some (some "100.64.0.1") } {} {}) = some d' ∧
      d'.backend.overrideExitNodePolicy = false ∧
      (EndsOverride plainHost d (.set { exitNode := some (some "100.64.0.1") } {} {}) ∨
        KeysMovedSince plainHost d₀ [pickEgress] d) := by
  have hset : ∀ o netmap io d, LeavesOverride plainHost d (.set o netmap io) := by
    intro o netmap io d hstands hedge
    cases hedge
  obtain ⟨d₀, d, d', hboot, hpick, hstands, hback, hended⟩ : ∃ d₀ d d',
      Daemon.boot plainHost pinnedPolicy firstBoot = .ok d₀ ∧
      follow (Daemon.step plainHost) d₀ [pickEgress] = some d ∧
      d.backend.overrideExitNodePolicy = true ∧
      Daemon.step plainHost d (.set { exitNode := some (some "100.64.0.1") } {} {}) = some d' ∧
      d'.backend.overrideExitNodePolicy = false :=
    ⟨_, _, _, rfl, rfl, rfl, rfl, rfl⟩
  refine ⟨d₀, d, d', hboot, hpick, hstands, hback, hended, ?_⟩
  have hrun : Run (Daemon.step plainHost) (LeavesOverride plainHost) d₀ [pickEgress] d := by
    refine run_of_follow ?_ hpick
    intro e he
    rw [List.mem_singleton.mp he]
    exact hset _ _ _
  exact ((override_stands_until hboot).1 _ d _ d' hrun hstands (hset _ _ _ d) hback hended).imp_right
    And.right

/-- A netmap in which the operator's pick is an exit node. -/
def egressNetmap : ExitNodeFacts := { peers := [⟨"egress.ts.net.", "100.64.0.9", none, true⟩] }

/-- An operator's pick together with a preference that needs a rebuild. -/
def pickAndShield : SetOptions :=
  { exitNode := some (some "100.64.0.9"), shieldsUp := some true }

/-- A node that is up. -/
def bringUp : List Event := [.up {} none none {} {}, .finish 0 (some .running) {}]

/-- **The rebuild of a `set` ends the override the `set` was granted**, and leaves the pinned node
    instead of the one it named. -/
theorem rebuild_ends_override :
    (¬ ∀ (d₀ : Daemon) (es : List Event) (d : Daemon) (e : Event) (d' : Daemon),
      Daemon.boot plainHost pinnedPolicy firstBoot = .ok d₀ →
      Run (Daemon.step plainHost) (fun _ _ => True) d₀ es d →
      d.backend.overrideExitNodePolicy = true → Daemon.step plainHost d e = some d' →
      d'.backend.overrideExitNodePolicy = false →
      EndsOverride plainHost d e ∨
        (∃ o netmap io, e = .set o netmap io ∧ o.exitNode.isSome = true) ∧
          KeysMovedSince plainHost d₀ es d) ∧
    ∃ d d', Daemon.replay plainHost pinnedPolicy firstBoot bringUp = some d ∧
      follow (Daemon.step plainHost) d
        (setSections d pickAndShield egressNetmap {} {} {} {} .running) = some d' ∧
      d'.backend.prefs.exitNode = some "100.64.0.1" := by
  constructor
  · intro hclaim
    obtain ⟨d₀, d, d', hboot, hrun, hstands, hstep, hended⟩ : ∃ d₀ d d',
        Daemon.boot plainHost pinnedPolicy firstBoot = .ok d₀ ∧
        follow (Daemon.step plainHost) d₀
          (bringUp ++ [.set pickAndShield egressNetmap {}, .preflight 0 {}]) = some d ∧
        d.backend.overrideExitNodePolicy = true ∧
        Daemon.step plainHost d (.rebuild 0 {}) = some d' ∧
        d'.backend.overrideExitNodePolicy = false :=
      ⟨_, _, _, rfl, rfl, rfl, rfl, rfl⟩
    have hreplayed := run_of_follow (fun _ _ _ => trivial) hrun
    rcases hclaim d₀ _ d _ d' hboot hreplayed hstands hstep hended with
      hends | ⟨⟨o, netmap, io, he, -⟩, -⟩
    · cases hends with
      | profile he => cases he
    · cases he
  · exact ⟨_, _, rfl, rfl, rfl⟩

end Tailnetd
