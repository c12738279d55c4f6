/-
  Runs in which the engine keeps up with the prefs.

  The prefs and the engine start out together at a boot, and again whenever a section takes the
  engine away under a fresh generation; from there on they stay together as long as every section
  keeps them so.  What went wrong before such a start is forgotten: the next bring-up is built from
  the prefs.

  The policy is taken to be constant, so that a policy tick brings nothing new; `KeysKnown` carries
  that along the run.
-/
import Tailnetd.LiveConfig

namespace Tailnetd

open Machine Epoch

/-! ## The policy keys -/

/-- The two backends know the same policy keys. -/
def SameKeys (b b' : Backend) : Prop :=
  b'.alwaysOnKeys = b.alwaysOnKeys ∧ b'.exitNodeKeys = b.exitNodeKeys

theorem DiskOnly.sameKeys {b b' : Backend} (h : DiskOnly b b') : SameKeys b b' := by
  obtain ⟨disk, ticks, key, -, rfl⟩ := h
  exact ⟨rfl, rfl⟩

theorem SameKeys.trans {a b c : Backend} (h : SameKeys a b) (h' : SameKeys b c) : SameKeys a c :=
  ⟨h'.1.trans h.1, h'.2.trans h.2⟩

theorem sameKeys_upResult (E : Env) (b : Backend) (o : UpOptions) (tags : Option (List String))
    (edit : ExitNodeEdit) : SameKeys b (b.upResult E o tags edit) := by
  rw [Backend.upResult, Backend.applyUp_eq]
  exact ⟨rfl, rfl⟩

theorem sameKeys_upShift {H : Host} {d d' : Daemon} {origin : Origin} {authkey : Option String}
    {o : UpOptions} {netmap : ExitNodeFacts} {io : Io} {ts : List Task}
    (hup : UpShift H d origin authkey o netmap io ts d') :
    SameKeys d.backend d'.backend ∧ d'.policy = d.policy := by
  cases hup with
  | keyKept hforce hremove => exact ⟨⟨rfl, rfl⟩, rfl⟩
  | @failed tags edit b' hcheck hfail hb hreauth =>
    exact ⟨(sameKeys_upResult (d.env H) d.backend o tags edit).trans hb.sameKeys, rfl⟩
  | @begun wif tags edit key config b' hcheck hconfig hkey hb hreauth =>
    have hsame := sameKeys_upResult (d.env H) d.backend o tags edit
    exact ⟨SameKeys.trans (b := (d.backend.upResult (d.env H) o tags edit).bumpGeneration)
      hsame hb.sameKeys, rfl⟩

theorem KeysKnown.same {H : Host} {d d' : Daemon} (h : KeysKnown H d)
    (hkeys : SameKeys d.backend d'.backend) (hpolicy : d'.policy = d.policy) : KeysKnown H d' := by
  have hsettings : (d'.env H).settings = (d.env H).settings := congrArg mergeSources hpolicy
  unfold KeysKnown
  rw [hsettings, hkeys.1, hkeys.2]
  exact h

/-- Under a constant policy a tick brings nothing new. -/
theorem keysKnown_step {H : Host} {d d' : Daemon} {e : Event} (h : KeysKnown H d)
    (hassumed : Assumed d e) (hstep : Daemon.step H d e = some d') : KeysKnown H d' := by
  have hset {o : SetOptions} {tags : Option (List String)} {edit : ExitNodeEdit}
      {device : Option Device} {b' : Backend}
      (hb : DiskOnly { d.backend.setResult (d.env H) o tags edit with device := device } b') :
      SameKeys d.backend b' := by
    obtain ⟨disk, ticks, key, -, rfl⟩ := hb
    rw [Backend.setResult, Backend.applySet_eq]
    exact ⟨rfl, rfl⟩
  cases step_shift hstep with
  | kept he hb hts hh hr => exact h.same hb.sameKeys rfl
  | preflightFailed hfail hb hts hh => exact h.same hb.sameKeys rfl
  | preflightPassed hcause hb hts hh => exact h.same hb.sameKeys rfl
  | rebuildRefused hcheck hts hh => exact h
  | started hstart hts hh hup =>
    obtain ⟨hsame, hpolicy⟩ := sameKeys_upShift hup
    exact h.same hsame hpolicy
  | installed hgen hb hts hr hpre hh => exact h.same hb.sameKeys rfl
  | handedBack hgen hb hts hr hpre hh => exact h.same hb.sameKeys rfl
  | buildFailed hb hts hr hpre hh => exact h.same hb.sameKeys rfl
  | setFailed hcheck hfail hb => exact h.same (hset hb) rfl
  | setPersisted hcheck hdev hb => exact h.same (hset hb) rfl
  | setRebuild hcheck hdev hneeds hb => exact h.same (hset hb) rfl
  | setLive hcheck hdev hneeds hb => exact h.same (hset hb) rfl
  | reloadKeyFailed hsource hdoc hvalid hkey => exact h
  | reloadFailed hsource hdoc hvalid hfail hb hkey => exact h.same hb.sameKeys rfl
  | reloadApplied hsource hdoc hvalid howed hb hkey => exact h.same hb.sameKeys rfl
  | down he hmark hb hts hh =>
    rw [Backend.downResult_eq] at hb
    exact h.same hb.sameKeys rfl
  | logout hmark hb =>
    rw [Backend.logoutResult_eq] at hb
    exact h.same hb.sameKeys rfl
  | tornDown he hb => exact h.same hb.sameKeys rfl
  | profileActivated he hne hb => exact h.same hb.sameKeys rfl
  | profileEmptied he hb => exact h.same hb.sameKeys rfl
  | policyMoved =>
    rw [show _ = d.policy from hassumed]
    exact h
  | policyTick =>
    rw [Backend.exitNodePolicyChanged_eq, Backend.sysPolicyChanged_eq]
    exact ⟨rfl, rfl⟩
  | timerDropped => exact h
  | timerClaimed harmed hprofile => exact h
  | retried hretry => exact h
  | resumeKeyed htask hkey hts hh hr => exact h
  | engine => exact h

/-- A boot reads the policy keys once, when it loads. -/
theorem loaded_keys {H : Host} {policy : List PolicySource} {s : Daemon.BootInput}
    {key : Option String} {d : Daemon} (h : Daemon.loaded H policy s = .ok (key, d)) :
    KeysKnown H d := by
  obtain ⟨b, b₁, changed, b₂, hload, hconfig, htun, rfl⟩ := Daemon.loaded_cases h
  have hb : b.alwaysOnKeys = alwaysOnKeysIn (mergeSources policy) ∧
      b.exitNodeKeys = exitNodeKeysIn (mergeSources policy) := by
    unfold Backend.load at hload
    dsimp only at hload
    split at hload
    · cases hload
    · cases hload
      exact ⟨rfl, rfl⟩
  have hconfigured : SameKeys b b₁ := by
    rcases Daemon.bootConfig_cases hconfig with ⟨-, rfl⟩ | ⟨_, _, _, b', -, happly, rfl⟩
    · exact ⟨rfl, rfl⟩
    · exact (Backend.applyConfig_ok happly).2.2.sameKeys
  have hflagged : SameKeys b₁ b₂ := by
    rcases Daemon.bootTun_cases htun with rfl | ⟨enabled, name, rfl⟩
    · exact ⟨rfl, rfl⟩
    · exact (Backend.persistPrefs_diskOnly _ s.tunIo).sameKeys
  have hall := hconfigured.trans hflagged
  exact ⟨hall.1.trans hb.1, hall.2.trans hb.2⟩

theorem boot_keys {H : Host} {policy : List PolicySource} {s : Daemon.BootInput} {d : Daemon}
    (h : Daemon.boot H policy s = .ok d) : KeysKnown H d := by
  refine Daemon.boot_rule (P := KeysKnown H) (fun _ _ hloaded => loaded_keys hloaded) ?_ ?_ h
  · rintro key d₀ authkey - - h₀
    rcases beginUp_shift H d₀.attempted .boot
        (authkey.or (d₀.attempted.backend.policyAuthKey (d₀.attempted.env H))) {} none {}
        s.startIo d₀.attempted.tasks with ⟨-, heq⟩ | hup
    · rw [show d₀.attempted.driveUp H .boot authkey {} none {} s.startIo = d₀.attempted from heq]
      exact h₀
    · obtain ⟨hsame, hpolicy⟩ := sameKeys_upShift hup
      exact KeysKnown.same (d := d₀.attempted) h₀ hsame hpolicy
  · intro d₁ d₂ h₁ hstep
    exact keysKnown_step h₁ (show Assumed _ (.finish _ _ _) from trivial) hstep

/-! ## Runs -/

/-- Where the engine and the prefs start out together: a boot, or a section that took the engine
    away under a fresh generation — a bring-up that began, a down, a logout, a profile change. -/
inductive FreshStart (H : Host) : Daemon → Prop
  | boot {policy : List PolicySource} {s : Daemon.BootInput} {d : Daemon}
      (hboot : Daemon.boot H policy s = .ok d) : FreshStart H d
  | cleared {d d' : Daemon} {e : Event} (hreach : Daemon.Reachable H Assumed d)
      (hassumed : Assumed d e) (hstep : Daemon.step H d e = some d')
      (hgen : d'.backend.generation ≠ d.backend.generation) (hdev : d'.backend.device = none) :
      FreshStart H d'

/-- What holds along the runs. -/
structure Together (H : Host) (d : Daemon) : Prop where
  sound : Sound (slotOf d)
  keys : KeysKnown H d
  inStep : InStep H d

theorem together_step {H : Host} {d d' : Daemon} {e : Event} (h : Together H d)
    (hgood : KeepsInStep H d e) (hstep : Daemon.step H d e = some d') : Together H d' where
  sound := sound_step h.sound hstep
  keys := keysKnown_step h.keys hgood.1 hstep
  inStep := inStep_step h.sound (fun _ => h.keys) h.inStep hgood.1 (hgood.2 d' hstep) hstep

/-- A boot ends in step, whatever became of its auto-start. -/
theorem inStep_boot {H : Host} {policy : List PolicySource} {s : Daemon.BootInput} {d : Daemon}
    (h : Daemon.boot H policy s = .ok d) : InStep H d := by
  obtain ⟨d₁, hbooted, heq⟩ := Daemon.boot_cases h
  have hidle {d₀ : Daemon} (hd : Idle H d₀) : ¬ (slotOf d₀).Live := by
    rw [slotOf_idle hd]
    rintro (hholder | hticket)
    · cases hholder
    · cases hticket
  have h₁ : Sound (slotOf d₁) ∧ InStep H d₁ := by
    cases hbooted with
    | idle hd =>
      refine ⟨?_, .idle (hidle hd)⟩
      rw [slotOf_idle hd]
      exact sound_empty _
    | @begun d₀ _ authkey io hd hup =>
      have hsound : Sound (slotOf d₀) := by
        rw [slotOf_idle hd]
        exact sound_empty _
      refine ⟨sound_upShift rfl hsound hup, ?_⟩
      exact inStep_upShift hsound (.idle (hidle hd)) rfl
        (fun hunder => absurd hunder.live (hidle hd)) hup
  rcases heq with rfl | hstep
  · exact h₁.2
  · exact inStep_step h₁.1 (fun he => by cases he) h₁.2
      (show Assumed _ (.finish _ _ _) from trivial) (keeps_finish hstep) hstep

/-- A section that took the engine away under a fresh generation leaves the daemon in step. -/
theorem inStep_cleared {H : Host} {d d' : Daemon} {e : Event} (hsound : Sound (slotOf d))
    (hstep : Daemon.step H d e = some d') (hgen : d'.backend.generation ≠ d.backend.generation)
    (hdev : d'.backend.device = none) : InStep H d' := by
  have hset {o : SetOptions} {tags : Option (List String)} {edit : ExitNodeEdit} :
      (d.backend.setResult (d.env H) o tags edit).generation = d.backend.generation := by
    rw [Backend.setResult, Backend.applySet_eq]
  cases step_shift hstep with
  | kept he hb hts hh hr => exact absurd hb.generation hgen
  | preflightFailed hfail hb hts hh => exact absurd hb.generation hgen
  | preflightPassed hcause hb hts hh => exact absurd hb.generation hgen
  | rebuildRefused hcheck hts hh => exact absurd rfl hgen
  | started hstart hts hh hup =>
    cases hup with
    | keyKept hforce hremove => exact absurd rfl hgen
    | failed hcheck hfail hb hreauth =>
      exact absurd (hb.generation.trans (Backend.upResult_generation _ _ _ _ _)) hgen
    | @begun wif tags edit key config b' hcheck hconfig hkey hb hreauth =>
      refine inStep_begun hsound wif hconfig hb rfl ?_
      rw [handshakes_append, hh]
      rfl
  | installed hcur hb hts hr hpre hh =>
    have hsome := hb.device.symm.trans hdev
    cases hsome
  | handedBack hstale hb hts hr hpre hh => exact absurd hb.generation hgen
  | buildFailed hb hts hr hpre hh => exact absurd hb.generation hgen
  | setFailed hcheck hfail hb => exact absurd (hb.generation.trans hset) hgen
  | setPersisted hcheck hdev hb => exact absurd (hb.generation.trans hset) hgen
  | setRebuild hcheck hdev hneeds hb => exact absurd (hb.generation.trans hset) hgen
  | setLive hcheck hdev hneeds hb => exact absurd (hb.generation.trans hset) hgen
  | reloadKeyFailed hsource hdoc hvalid hkey => exact absurd rfl hgen
  | reloadFailed hsource hdoc hvalid hfail hb hkey => exact absurd hb.generation hgen
  | reloadApplied hsource hdoc hvalid howed hb hkey => exact absurd hb.generation hgen
  | down he hmark hb hts hh =>
    obtain ⟨disk, ticks, key, -, rfl⟩ := hb
    refine .idle (not_live_of_torn hsound ?_ ?_ hh) <;> rw [Backend.downResult_eq]
  | logout hmark hb =>
    obtain ⟨disk, ticks, key, -, rfl⟩ := hb
    refine .idle (not_live_of_torn hsound ?_ ?_ rfl) <;> rw [Backend.logoutResult_eq]
  | tornDown he hb =>
    obtain ⟨disk, ticks, key, -, rfl⟩ := hb
    exact .idle (not_live_of_torn hsound rfl rfl rfl)
  | profileActivated he hne hb =>
    obtain ⟨disk, ticks, key, -, rfl⟩ := hb
    exact .idle (not_live_of_torn hsound rfl rfl rfl)
  | profileEmptied he hb =>
    obtain ⟨disk, ticks, key, -, rfl⟩ := hb
    exact .idle (not_live_of_torn hsound rfl rfl rfl)
  | policyMoved => exact absurd rfl hgen
  | policyTick =>
    rw [Backend.exitNodePolicyChanged_eq, Backend.sysPolicyChanged_eq] at hgen
    exact absurd rfl hgen
  | timerDropped => exact absurd rfl hgen
  | timerClaimed harmed hprofile => exact absurd rfl hgen
  | retried hretry => exact absurd rfl hgen
  | resumeKeyed htask hkey hts hh hr => exact absurd rfl hgen
  | engine => exact absurd rfl hgen

theorem FreshStart.together {H : Host} {d : Daemon} (h : FreshStart H d) : Together H d := by
  cases h with
  | boot hboot => exact ⟨boot_sound hboot, boot_keys hboot, inStep_boot hboot⟩
  | @cleared d₀ _ e hreach hassumed hstep hgen hdev =>
    have hsound : Sound (slotOf d₀) := slot_run hreach
    have hkeys : KeysKnown H d₀ := by
      obtain ⟨policy, s, d₁, es, hboot, hrun⟩ := hreach
      exact hrun.invariant (fun _ _ _ h hgood hstep => keysKnown_step h hgood hstep) (boot_keys hboot)
    exact ⟨sound_step hsound hstep, keysKnown_step hkeys hassumed hstep,
      inStep_cleared hsound hstep hgen hdev⟩

/-- **The engine runs with the prefs**, in every state reached from a fresh start by sections that
    keep them together, whenever no rebuild is owed: whatever config could be built from the prefs
    now, the engine acts on the same fields, and the SSH server is there exactly when it is asked
    for. -/
theorem engine_runs_prefs {H : Host} {d₀ d : Daemon} {es : List Event} {dev : Device}
    (hstart : FreshStart H d₀) (hrun : Run (Daemon.step H) (KeepsInStep H) d₀ es d)
    (hdev : d.backend.device = some dev) (howed : ¬ RebuildPending d.tasks) :
    (∀ listenPort file io c, (buildConfig H d.backend.prefs listenPort file io).1 = .ok c →
      c.acted = dev.config.acted) ∧
    RunsOn H d.backend.prefs dev.config.acted ∧ d.backend.sshTask = d.backend.prefs.sshEnabled := by
  have hall : Together H d := hrun.invariant
    (fun _ _ _ h hgood hstep => together_step h hgood hstep) hstart.together
  obtain ⟨hacted, hssh⟩ := hall.inStep.running dev hdev howed
  refine ⟨?_, actedOf_eq_ok.mp hacted, hssh⟩
  intro listenPort file io c hbuilt
  have hsame := (buildConfig_acted hbuilt).symm.trans hacted
  exact Except.ok.inj hsame

/-- Without tasks, an event other than a reload keeps them together, but for a blanked hostname. -/
theorem keepsInStep_idle {H : Host} {d : Daemon} {e : Event} (htasks : d.tasks = [])
    (hassumed : Assumed d e) (hreload : e.reloads = false)
    (hnamed : ∀ d', Daemon.step H d e = some d' → e.namesHostname = true →
      d.backend.device.isSome = true → d'.backend.prefs.hostname.isSome = true) :
    KeepsInStep H d e := by
  refine ⟨hassumed, fun d' hstep => ⟨?_, ?_, ?_, hnamed d' hstep⟩⟩
  · rintro ⟨pending, hpending, -⟩
    rw [htasks] at hpending
    cases hpending
  · intro he
    rw [hreload] at he
    cases he
  · rintro dev ⟨t, ht, -⟩
    rw [htasks] at ht
    cases ht

/-- A running node is renamed. -/
def renamed : List Event :=
  [.up {} none none {} {}, .finish 0 (some .running) {}, .set { hostname := some "laptop" } {} {}]

/-- The rename reaches the engine. -/
theorem engine_runs_prefs_renamed :
    ∃ d dev, Daemon.replay plainHost [] firstBoot renamed = some d ∧
      d.backend.device = some dev ∧ d.backend.prefs.hostname = some "laptop" ∧
      RunsOn plainHost d.backend.prefs dev.config.acted := by
  obtain ⟨d₀, d₁, d₂, d, dev, hboot, hup, hfinish, hset, hidle, hidle', htasks, hdev, hname⟩ :
      ∃ d₀ d₁ d₂ d dev, Daemon.boot plainHost [] firstBoot = .ok d₀ ∧
      Daemon.step plainHost d₀ (.up {} none none {} {}) = some d₁ ∧
      Daemon.step plainHost d₁ (.finish 0 (some .running) {}) = some d₂ ∧
      Daemon.step plainHost d₂ (.set { hostname := some "laptop" } {} {}) = some d ∧
      d₀.tasks = [] ∧ d₂.tasks = [] ∧ d.tasks = [] ∧ d.backend.device = some dev ∧
      d.backend.prefs.hostname = some "laptop" :=
    ⟨_, _, _, _, _, rfl, rfl, rfl, rfl, rfl, rfl, rfl, rfl, rfl⟩
  have hrun : Run (Daemon.step plainHost) (KeepsInStep plainHost) d₀ renamed d := by
    refine .cons (keepsInStep_idle hidle ⟨rfl, rfl⟩ rfl (by rintro _ _ ⟨⟩)) hup ?_
    refine .cons ⟨trivial, fun _ hstep => keeps_finish hstep⟩ hfinish ?_
    refine .single (keepsInStep_idle hidle' ⟨rfl, rfl, rfl⟩ rfl ?_) hset
    intro d' hstep _ _
    obtain rfl := Option.some.inj (hset.symm.trans hstep)
    rw [hname]
    rfl
  have howed : ¬ RebuildPending d.tasks := by
    rw [htasks]
    rintro ⟨t, ht, -⟩
    cases ht
  refine ⟨d, dev, ?_, hdev, hname, (engine_runs_prefs (.boot hboot) hrun hdev howed).2.1⟩
  unfold Daemon.replay
  rw [hboot]
  simp only [renamed, follow, hup, hfinish, hset, Option.bind_some]

/-- A `set` that needs a rebuild, whose preflight cannot read the node key. -/
def refusedRebuild : List Event :=
  [.up {} none none {} {}, .finish 0 (some .running) {}, .set { shieldsUp := some true } {} {},
    .preflight 0 { key := { ok := false } }]

/-- **A refused rebuild leaves the engine as it was**, the prefs keeping what was set: the node
    stays up until the next bring-up. -/
theorem refused_rebuild_keeps_engine :
    ¬ ∀ (d : Daemon) (dev : Device), Daemon.Reachable plainHost Assumed d →
      d.backend.device = some dev → ¬ RebuildPending d.tasks →
      ∀ listenPort file io c, (buildConfig plainHost d.backend.prefs listenPort file io).1 = .ok c →
        c.acted = dev.config.acted := by
  intro hclaim
  obtain ⟨d, dev, c, hd, hdev, htasks, hbuilt, hopen, hshut⟩ : ∃ d dev c,
      Daemon.replay plainHost [] firstBoot refusedRebuild = some d ∧ d.backend.device = some dev ∧
      d.tasks = [] ∧ (buildConfig plainHost d.backend.prefs none none {}).1 = .ok c ∧
      dev.config.blockIncoming = false ∧ c.blockIncoming = true :=
    ⟨_, _, _, rfl, rfl, rfl, rfl, rfl, rfl⟩
  have hreach : Daemon.Reachable plainHost Assumed d := by
    refine Daemon.reachable_replay ?_ hd
    intro e he d'
    simp only [refusedRebuild, List.mem_cons, List.not_mem_nil, or_false] at he
    rcases he with rfl | rfl | rfl | rfl
    · exact ⟨rfl, rfl⟩
    · exact trivial
    · exact ⟨rfl, rfl, rfl⟩
    · exact trivial
  have howed : ¬ RebuildPending d.tasks := by
    rw [htasks]
    rintro ⟨t, ht, -⟩
    cases ht
  have hsame := congrArg Acted.blockIncoming (hclaim d dev hreach hdev howed none none {} c hbuilt)
  have hcontra : true = false := hshut.symm.trans (hsame.trans hopen)
  cases hcontra

end Tailnetd
