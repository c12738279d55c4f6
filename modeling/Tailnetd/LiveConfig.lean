/-
  The prefs and the engine that runs under them.

  A bring-up freezes the prefs in the engine's config, and the engine is installed a whole handshake
  later.  In between, and ever after, an edit has to reach the engine some other way: a live `set`
  pushes it, and what cannot be pushed asks for a rebuild.  Where every edit finds its way, an
  installed engine runs with the prefs, unless a rebuild is still owed.

  An edit does not find its way when it lands inside a handshake: the section sees no engine and
  takes the node for down, and the bring-up it ran into installs the config from before the edit.
  By design, a rebuild that its checks refuse leaves the engine as it was, and a reload that turns
  the node off leaves it to the section that tears it down.  `Keeps` says that a section is none of
  these.
-/
import Tailnetd.EngineFields
import Tailnetd.Routes
import Tailnetd.Supersede

namespace Tailnetd

open Machine Epoch

/-! ## In step -/

/-- The standing exemptions from the policy. -/
def Backend.overrides (b : Backend) : PolicyOverrides where
  alwaysOn := b.overrideAlwaysOn
  exitNode := b.overrideExitNodePolicy

/-- The engine runs with what the prefs stand for, and so does its SSH server. -/
def RunsPrefs (H : Host) (b : Backend) (dev : Device) : Prop :=
  actedOf H b.prefs = .ok dev.config.acted ∧ b.sshTask = b.prefs.sshEnabled

/-- A bring-up will come up with what the prefs stand for. -/
def Comes (H : Host) (b : Backend) (pending : PendingUp) : Prop :=
  actedOf H b.prefs = .ok pending.config.acted ∧ (b.prefs.sshEnabled = true → H.featureSsh = true)

/-- A bring-up is in its handshake, and nothing has superseded it. -/
def Underway (d : Daemon) : Prop :=
  ∃ pending ∈ handshakes d.tasks, pending.generation = d.backend.generation

/-- The engine and the prefs are in step. -/
structure InStep (H : Host) (d : Daemon) : Prop where
  running : ∀ dev, d.backend.device = some dev → ¬ RebuildPending d.tasks → RunsPrefs H d.backend dev
  coming : ∀ pending ∈ handshakes d.tasks, pending.generation = d.backend.generation →
    Comes H d.backend pending
  /-- The policy would leave a live node's prefs alone. -/
  settled : (slotOf d).Live → Settled (d.env H).settings d.backend.prefs d.backend.overrides

theorem Underway.live {d : Daemon} (h : Underway d) : (slotOf d).Live := by
  obtain ⟨pending, hpending, hgen⟩ := h
  refine .inr ?_
  unfold slotOf
  rw [← hgen]
  exact List.mem_map_of_mem hpending

theorem live_of_device {d : Daemon} {dev : Device} (h : d.backend.device = some dev) :
    (slotOf d).Live := by
  refine .inl ?_
  unfold slotOf
  rw [h]
  rfl

theorem live_cases {d : Daemon} (h : (slotOf d).Live) :
    (∃ dev, d.backend.device = some dev) ∨ Underway d := by
  rcases h with hholder | hticket
  · left
    unfold slotOf at hholder
    exact Option.isSome_iff_exists.mp ((Option.isSome_map).symm.trans hholder)
  · right
    obtain ⟨pending, hpending, hgen⟩ := List.mem_map.mp hticket
    exact ⟨pending, hpending, hgen⟩

/-- While a bring-up is under way no engine is installed. -/
theorem Underway.device {d : Daemon} (h : Underway d) (hsound : Sound (slotOf d)) :
    d.backend.device = none := by
  obtain ⟨pending, hpending, hgen⟩ := h
  refine Option.map_eq_none_iff.mp (hsound.current_empty ?_)
  unfold slotOf
  rw [← hgen]
  exact List.mem_map_of_mem hpending

/-- A node that is not live is in step. -/
theorem InStep.idle {H : Host} {d : Daemon} (h : ¬ (slotOf d).Live) : InStep H d where
  running _ hdev := absurd (live_of_device hdev) h
  coming pending hpending hgen := absurd (Underway.live ⟨pending, hpending, hgen⟩) h
  settled hlive := absurd hlive h

/-- **A section that leaves the engine, the bring-ups and the engine's fields alone keeps them in
    step**, provided it gives up no rebuild that was needed. -/
theorem InStep.same {H : Host} {d d' : Daemon} (h : InStep H d)
    (hdev : ∀ dev', d'.backend.device = some dev' → ∃ dev, d.backend.device = some dev ∧
      dev'.config = dev.config ∧ d'.backend.sshTask = d.backend.sshTask)
    (hgen : d'.backend.generation = d.backend.generation)
    (hprefs : SameEngine d.backend.prefs d'.backend.prefs)
    (hover : d'.backend.overrides = d.backend.overrides) (hpolicy : d'.policy = d.policy)
    (hh : handshakes d'.tasks ⊆ handshakes d.tasks)
    (howed : ∀ dev, d.backend.device = some dev → d'.backend.device.isSome = true →
      ¬ RebuildPending d'.tasks → RunsPrefs H d.backend dev) : InStep H d' := by
  have hacted : actedOf H d'.backend.prefs = actedOf H d.backend.prefs :=
    actedOf_congr hprefs.symm
  constructor
  case running =>
    intro dev' hdev' hnone
    obtain ⟨dev, hdev₀, hconfig, hssh⟩ := hdev dev' hdev'
    obtain ⟨hruns, htask⟩ := howed dev hdev₀ (by rw [hdev']; rfl) hnone
    refine ⟨?_, ?_⟩
    · rw [hacted, hconfig]
      exact hruns
    · rw [hssh, ← hprefs.ssh]
      exact htask
  case coming =>
    intro pending hpending hcur
    obtain ⟨hcomes, hfeature⟩ := h.coming pending (hh hpending) (hcur.trans hgen)
    refine ⟨hacted.trans hcomes, ?_⟩
    rw [← hprefs.ssh]
    exact hfeature
  case settled =>
    intro hlive
    have hbefore : (slotOf d).Live := by
      rcases live_cases hlive with ⟨dev', hdev'⟩ | ⟨pending, hpending, hcur⟩
      · obtain ⟨dev, hdev₀, -⟩ := hdev dev' hdev'
        exact live_of_device hdev₀
      · exact Underway.live ⟨pending, hh hpending, hcur.trans hgen⟩
    have hsettings : (d'.env H).settings = (d.env H).settings := congrArg mergeSources hpolicy
    rw [hsettings, hover]
    exact (h.settled hbefore).congr hprefs

/-- An edit under the policy keeps them in step, when the bring-ups under way do not mind it and the
    engine runs with it. -/
theorem InStep.edited {H : Host} {d d' : Daemon} (h : InStep H d)
    (hgen : d'.backend.generation = d.backend.generation)
    (hh : handshakes d'.tasks = handshakes d.tasks)
    (hsame : Underway d → SameEngine d.backend.prefs d'.backend.prefs)
    (hsettled : Settled (d'.env H).settings d'.backend.prefs d'.backend.overrides)
    (hruns : ∀ dev', d'.backend.device = some dev' → ¬ RebuildPending d'.tasks →
      RunsPrefs H d'.backend dev') : InStep H d' where
  running := hruns
  coming pending hpending hcur := by
    rw [hh] at hpending
    rw [hgen] at hcur
    have hfields := hsame ⟨pending, hpending, hcur⟩
    obtain ⟨hcomes, hfeature⟩ := h.coming pending hpending hcur
    refine ⟨(actedOf_congr hfields.symm).trans hcomes, ?_⟩
    rw [← hfields.ssh]
    exact hfeature
  settled _ := hsettled

/-! ## The steps -/

/-- What is taken for granted: the persists and the live setters succeed, and the policy is
    constant. -/
def Assumed (d : Daemon) : Event → Prop
  | .up _ _ _ _ io => io.savePrefs = true ∧ io.saveProfiles = true
  | .rebuild _ io => io.savePrefs = true ∧ io.saveProfiles = true
  | .reconnect _ io => io.savePrefs = true ∧ io.saveProfiles = true
  | .resume _ io => io.savePrefs = true ∧ io.saveProfiles = true
  | .set _ _ io => io.savePrefs = true ∧ io.saveProfiles = true ∧ io.setterFails = none
  | .reload _ _ io => io.savePrefs = true ∧ io.saveProfiles = true
  | .policyMoved policy => policy = d.policy
  | _ => True

/-- The event is a config reload. -/
def Event.reloads : Event → Bool
  | .reload _ _ _ => true
  | _ => false

/-- The event is a `set` that names a hostname. -/
def Event.namesHostname : Event → Bool
  | .set o _ _ => o.hostname.isSome
  | _ => false

/-- The step from `d` to `d'` keeps the engine and the prefs together. -/
structure Keeps (H : Host) (d : Daemon) (e : Event) (d' : Daemon) : Prop where
  /-- A section that leaves a bring-up under way moves none of the engine's fields. -/
  underway : Underway d → d'.backend.generation = d.backend.generation →
    SameEngine d.backend.prefs d'.backend.prefs
  /-- Nor does a reload that leaves an engine installed and asks for no rebuild. -/
  reloaded : e.reloads = true → d.backend.device.isSome = true →
    d'.tasks ≠ d.tasks ++ [.preflight .reloadConfig] → SameEngine d.backend.prefs d'.backend.prefs
  /-- The last rebuild owed is not given up, unless the engine can do without it. -/
  dropped : ∀ dev, RebuildPending d.tasks → ¬ RebuildPending d'.tasks →
    d'.backend.device = some dev → RunsPrefs H d.backend dev
  /-- The policy does not blank a hostname that is set on a running engine. -/
  named : e.namesHostname = true → d.backend.device.isSome = true →
    d'.backend.prefs.hostname.isSome = true

/-- An event that is taken for granted to succeed, and keeps the engine and the prefs together. -/
def KeepsInStep (H : Host) (d : Daemon) (e : Event) : Prop :=
  Assumed d e ∧ ∀ d', Daemon.step H d e = some d' → Keeps H d e d'

/-- The operator renames the node while its `up` is still building the engine. -/
def renamedDuringUp : List Event :=
  [.up {} none none {} {}, .set { hostname := some "laptop" } {} {}, .finish 0 (some .running) {}]

/-- **Why a section must not move a bring-up under way** (`Keeps.underway`): a `set` finds no engine to
    push to, and the bring-up it ran into installs the config from before it. -/
theorem set_during_up_lost :
    ∃ d dev, Daemon.replay plainHost [] firstBoot renamedDuringUp = some d ∧
      d.backend.device = some dev ∧ d.tasks = [] ∧ d.backend.prefs.hostname = some "laptop" ∧
      dev.config.requestedHostname = none :=
  ⟨_, _, rfl, rfl, rfl, rfl, rfl⟩

/-- The policy keys the daemon last saw are those of the policy. -/
def KeysKnown (H : Host) (d : Daemon) : Prop :=
  d.backend.alwaysOnKeys = alwaysOnKeysIn (d.env H).settings ∧
    d.backend.exitNodeKeys = exitNodeKeysIn (d.env H).settings

/-- A bring-up that began is in step: its config is built from the prefs it leaves. -/
theorem inStep_begun {H : Host} {d d' : Daemon} (hsound : Sound (slotOf d))
    {o : UpOptions} {tags : Option (List String)} {edit : ExitNodeEdit} {key : KeyState}
    {config : Config} (wif : Option WifCreds)
    (hconfig : configOf H (d.backend.upResult (d.env H) o tags edit).prefs d.backend.listenPort key =
      .ok config)
    (hb : DiskOnly (d.backend.upResult (d.env H) o tags edit).bumpGeneration d'.backend)
    (hpolicy : d'.policy = d.policy)
    (hh : handshakes d'.tasks = handshakes d.tasks ++
      [⟨Backend.withWif wif config, d.backend.generation + 1⟩]) : InStep H d' := by
  have hdev : d'.backend.device = none := by
    rw [hb.device, Backend.upResult, Backend.applyUp_eq]
    rfl
  have hgen : d'.backend.generation = d.backend.generation + 1 := by
    rw [hb.generation]
    show (d.backend.upResult (d.env H) o tags edit).generation + 1 = _
    rw [Backend.upResult_generation]
  have hprefs : d'.backend.prefs = (d.backend.upResult (d.env H) o tags edit).prefs := hb.prefs
  constructor
  case running =>
    intro dev hsome
    rw [hdev] at hsome
    cases hsome
  case coming =>
    intro pending hpending hcur
    rw [hh, List.mem_append, List.mem_singleton] at hpending
    rcases hpending with hold | rfl
    · -- the bring-ups before it are stale now
      have hle := hsound.tickets_le pending.generation (List.mem_append_left _
        (show pending.generation ∈ (handshakes d.tasks).map (·.generation) from
          List.mem_map_of_mem hold))
      have hepoch : (slotOf d).epoch = d.backend.generation := rfl
      omega
    · obtain ⟨hacted, hfeature⟩ := configOf_acted hconfig
      unfold Comes
      rw [hprefs, withWif_acted]
      exact ⟨hacted, hfeature⟩
  case settled =>
    intro _
    have hsettings : (d'.env H).settings = (d.env H).settings := congrArg mergeSources hpolicy
    obtain ⟨disk, ticks, hasKey, -, hb'⟩ := hb
    rw [hsettings, hb', Backend.upResult, Backend.applyUp_eq]
    exact settled_policy _ _ _

/-- **A `begin_up` section that passed its checks**: begun it is in step, and failed it has taken
    the engine away. -/
theorem inStep_upShift {H : Host} {d d' : Daemon} {origin : Origin} {authkey : Option String}
    {o : UpOptions} {netmap : ExitNodeFacts} {io : Io} {ts : List Task}
    (hsound : Sound (slotOf d)) (h : InStep H d) (hh : handshakes ts = handshakes d.tasks)
    (hsame : Underway d → d'.backend.generation = d.backend.generation →
      SameEngine d.backend.prefs d'.backend.prefs)
    (hup : UpShift H d origin authkey o netmap io ts d') : InStep H d' := by
  cases hup with
  | keyKept hforce hremove =>
    exact h.same (fun _ hdev => by cases hdev) rfl (.refl _) rfl rfl
      (fun _ hmem => hh ▸ hmem) (fun _ _ hsome => by cases hsome)
  | failed hcheck hfail hb hreauth =>
    have hgen := hb.generation.trans (Backend.upResult_generation _ _ _ _ _)
    refine h.edited hgen hh (fun hunder => hsame hunder hgen) ?_ ?_
    · obtain ⟨disk, ticks, hasKey, -, rfl⟩ := hb
      rw [Backend.upResult, Backend.applyUp_eq]
      exact settled_policy _ _ _
    · intro dev hdev
      have hnone := hb.device.symm.trans hdev
      rw [Backend.upResult, Backend.applyUp_eq] at hnone
      cases hnone
  | @begun wif tags edit key config b' hcheck hconfig hkey hb hreauth =>
    refine inStep_begun hsound wif hconfig hb rfl ?_
    rw [handshakes_append, hh]
    rfl

/-- **A `set` that passed its checks**, whatever it made of the engine. -/
theorem inStep_set {H : Host} {d d' : Daemon} {o : SetOptions} {tags : Option (List String)}
    {edit : ExitNodeEdit} {device : Option Device} (h : InStep H d)
    (hb : DiskOnly { d.backend.setResult (d.env H) o tags edit with device := device } d'.backend)
    (hpolicy : d'.policy = d.policy) (hh : handshakes d'.tasks = handshakes d.tasks)
    (hsame : Underway d → d'.backend.generation = d.backend.generation →
      SameEngine d.backend.prefs d'.backend.prefs)
    (hruns : ∀ dev, device = some dev → ¬ RebuildPending d'.tasks → RunsPrefs H d'.backend dev) :
    InStep H d' := by
  have hgen : d'.backend.generation = d.backend.generation := by
    rw [hb.generation, Backend.setResult, Backend.applySet_eq]
  refine h.edited hgen hh (fun hunder => hsame hunder hgen) ?_ ?_
  · have hsettings : (d'.env H).settings = (d.env H).settings := congrArg mergeSources hpolicy
    obtain ⟨disk, ticks, hasKey, -, hb'⟩ := hb
    rw [hsettings, hb', Backend.setResult, Backend.applySet_eq]
    exact settled_policy _ _ _
  · intro dev hdev
    exact hruns dev (hb.device.symm.trans hdev)

/-- The bring-ups left when one comes back. -/
theorem handshakes_rest {ts us : List Task} {pre post : List PendingUp} {pending : PendingUp}
    (hpre : handshakes us = pre ++ pending :: post) (hh : handshakes ts = pre ++ post) :
    handshakes ts ⊆ handshakes us := by
  rw [hpre, hh]
  intro other hother
  rcases List.mem_append.mp hother with hin | hin
  · exact List.mem_append_left _ hin
  · exact List.mem_append_right _ (List.mem_cons_of_mem _ hin)

/-- **A live `set` leaves the engine in step**: the setters push what it names. -/
theorem runsPrefs_setLive {H : Host} {d : Daemon} {b' : Backend} {o : SetOptions}
    {netmap : ExitNodeFacts} {tags : Option (List String)} {edit : ExitNodeEdit} {dev : Device}
    (h : InStep H d) (hdev : d.backend.device = some dev) (hnone : ¬ RebuildPending d.tasks)
    (hcheck : d.backend.checkSet (d.env H) o netmap = .ok (tags, edit))
    (hneeds : (o.withTags tags).needsRebuild = false)
    (hnamed : o.hostname.isSome = true → b'.prefs.hostname.isSome = true)
    (hb : DiskOnly
      { d.backend.setResult (d.env H) o tags edit with
        device := some (Backend.pushOps dev
          (Backend.liveOps (d.env H) (o.withTags tags)
            (d.backend.setResult (d.env H) o tags edit).prefs) none) } b') :
    RunsPrefs H b' (Backend.pushOps dev
      (Backend.liveOps (d.env H) (o.withTags tags)
        (d.backend.setResult (d.env H) o tags edit).prefs) none) := by
  obtain ⟨hruns, htask⟩ := h.running dev hdev hnone
  have hverdict := (Backend.checkSet_verdict hcheck).2
  have hedit : (o.withTags tags).exitNode = none → edit = .untouched := by
    intro hexit
    rw [show o.exitNode = none from hexit] at hverdict
    cases hverdict
    rfl
  have hroutes : (parseAdvertiseRoutes H
      (d.backend.setResult (d.env H) o tags edit).prefs.advertiseRoutes).isOk = true := by
    rw [Backend.setResult, Backend.applySet_eq, policy_advertiseRoutes]
    exact (checkSet_routes hcheck).parse
  have hprefs : b'.prefs = (d.backend.setResult (d.env H) o tags edit).prefs := hb.prefs
  rw [hprefs] at hnamed
  obtain ⟨hacted, hssh⟩ := setLive_runs (E := d.env H) hedit hneeds
    (h.settled (live_of_device hdev)) hruns hroutes hnamed
  refine ⟨?_, ?_⟩
  · rw [hprefs]
    exact hacted
  · obtain ⟨disk, ticks, hasKey, -, rfl⟩ := hb
    show (d.backend.setResult (d.env H) o tags edit).sshTask = _
    rw [show (d.backend.setResult (d.env H) o tags edit).sshTask = d.backend.sshTask by
      rw [Backend.setResult, Backend.applySet_eq], htask]
    exact hssh.symm

/-- **The install of an engine that is still current**: it runs what its bring-up came with, and
    supersedes the bring-ups it leaves behind. -/
theorem inStep_installed {H : Host} {d : Daemon} {state : DeviceState} {pending : PendingUp}
    {b' : Backend} {ts : List Task} {n : Nat} {log : List Did} {pre post : List PendingUp}
    (hsound : Sound (slotOf d)) (h : InStep H d)
    (hgen : pending.generation = d.backend.generation)
    (hb : DiskOnly (d.backend.install (d.env H) ⟨d.nextDevice, pending.config, state⟩) b')
    (hpre : handshakes d.tasks = pre ++ pending :: post) (hh : handshakes ts = pre ++ post) :
    InStep H ⟨b', d.policy, ts, n, log⟩ := by
  have hpending : pending ∈ handshakes d.tasks := by
    rw [hpre]
    exact List.mem_append_right _ List.mem_cons_self
  obtain ⟨hcomes, hfeature⟩ := h.coming pending hpending hgen
  have hlive := Underway.live ⟨pending, hpending, hgen⟩
  have hmarks : SameEngine d.backend.prefs b'.prefs := by
    rw [hb.prefs]
    exact sameEngine_marks _ _ _ _
  obtain ⟨disk, ticks, hasKey, -, rfl⟩ := hb
  constructor
  case running =>
    rintro dev hdev -
    cases hdev
    refine ⟨(actedOf_congr hmarks.symm).trans hcomes, ?_⟩
    show (d.backend.prefs.sshEnabled && H.featureSsh) = d.backend.prefs.sshEnabled
    cases hssh : d.backend.prefs.sshEnabled with
    | false => rfl
    | true => rw [hfeature hssh]; rfl
  case coming =>
    intro other hother hcur
    have hmem : other ∈ handshakes d.tasks := handshakes_rest hpre hh hother
    have hle := hsound.tickets_le other.generation (List.mem_append_left _
      (show other.generation ∈ (handshakes d.tasks).map (·.generation) from
        List.mem_map_of_mem hmem))
    have hepoch : (slotOf d).epoch = d.backend.generation := rfl
    have hnext : other.generation = d.backend.generation + 1 := hcur
    omega
  case settled =>
    intro _
    exact (h.settled hlive).congr hmarks

/-- **A reload that was applied**: what it changes of the engine's preferences leaves a rebuild
    owed, so an engine that no rebuild is owed to runs the prefs as before. -/
theorem inStep_reloaded {H : Host} {d : Daemon} {c : ConfigVAlpha} {b' : Backend}
    {owed : List Task} {n : Nat} {log : List Did} (h : InStep H d)
    (howed : owed = reloadOwes (d.backend.configured (d.env H) c).reloadAction)
    (hb : DiskOnly (d.backend.configured (d.env H) c) b')
    (hunderway : Underway d → SameEngine d.backend.prefs b'.prefs)
    (hfields : d.backend.device.isSome = true →
      d.tasks ++ owed ≠ d.tasks ++ [.preflight .reloadConfig] →
        SameEngine d.backend.prefs b'.prefs) :
    InStep H ⟨b', d.policy, d.tasks ++ owed, n, log⟩ := by
  have hgen : b'.generation = d.backend.generation := hb.generation
  refine h.edited hgen ?_ (fun hunder => hunderway hunder) ?_ ?_
  · rw [handshakes_append, howed, handshakes_reloadOwes, List.append_nil]
  · obtain ⟨disk, ticks, hasKey, -, rfl⟩ := hb
    exact settled_policy _ _ _
  · intro dev hdev hnone
    have hdev₀ : d.backend.device = some dev := hb.device.symm.trans hdev
    -- what asks for a rebuild leaves it owed
    have hasks : d.tasks ++ owed ≠ d.tasks ++ [.preflight .reloadConfig] := by
      intro heq
      exact hnone (heq ▸ ⟨_, List.mem_append_right _ (List.mem_singleton_self _), rfl⟩)
    have hsame := hfields (by rw [hdev₀]; rfl) hasks
    have hbefore : ¬ RebuildPending d.tasks := by
      rintro ⟨t, ht, hrebuild⟩
      exact hnone ⟨t, List.mem_append_left _ ht, hrebuild⟩
    obtain ⟨hruns, htask⟩ := h.running dev hdev₀ hbefore
    refine ⟨(actedOf_congr hsame.symm).trans hruns, ?_⟩
    rw [← hsame.ssh, ← htask]
    obtain ⟨disk, ticks, hasKey, -, rfl⟩ := hb
    rfl

/-- **Every section that keeps them together keeps the engine and the prefs in step.** -/
theorem inStep_step {H : Host} {d d' : Daemon} {e : Event} (hsound : Sound (slotOf d))
    (hkeys : e = .policyTick → KeysKnown H d) (h : InStep H d) (hassumed : Assumed d e)
    (hkeeps : Keeps H d e d')
    (hstep : Daemon.step H d e = some d') : InStep H d' := by
  -- a section that leaves everything but the tasks alone
  have hsame {b' : Backend} {ts : List Task} {n : Nat} {log : List Did}
      (hb : DiskOnly d.backend b') (hh : handshakes ts ⊆ handshakes d.tasks)
      (howed : ∀ dev, d.backend.device = some dev → ¬ RebuildPending ts →
        RunsPrefs H d.backend dev) : InStep H ⟨b', d.policy, ts, n, log⟩ := by
    obtain ⟨disk, ticks, hasKey, -, rfl⟩ := hb
    exact h.same (fun dev hdev => ⟨dev, hdev, rfl, rfl⟩) rfl (.refl _) rfl rfl hh
      (fun dev hdev _ => howed dev hdev)
  have hadded {ts : List Task} {t : Task} (ht : t.pending? = none)
      (hh : handshakes ts = handshakes d.tasks) :
      handshakes (ts ++ [t]) ⊆ handshakes d.tasks := by
    rw [handshakes_append, show handshakes [t] = [] by simp [handshakes, ht], List.append_nil, hh]
    exact List.Subset.refl _
  have hgrows {ts : List Task} {t : Task} (hp : RebuildPending ts) : RebuildPending (ts ++ [t]) := by
    obtain ⟨u, hu, hrebuild⟩ := hp
    exact ⟨u, List.mem_append_left _ hu, hrebuild⟩
  -- one that gives up no rebuild
  have howes {ts : List Task} (hr : RebuildPending d.tasks → RebuildPending ts) :
      ∀ dev, d.backend.device = some dev → ¬ RebuildPending ts → RunsPrefs H d.backend dev :=
    fun dev hdev hnone => h.running dev hdev fun hp => hnone (hr hp)
  -- a `set` that leaves the engine to others
  have hset {o : SetOptions} {tags : Option (List String)} {edit : ExitNodeEdit} {b' : Backend}
      (hb : DiskOnly (d.backend.setResult (d.env H) o tags edit) b') :
      DiskOnly { d.backend.setResult (d.env H) o tags edit with device := d.backend.device } b' := by
    rw [← Backend.setResult_device (d.env H) d.backend o tags edit]
    exact hb
  cases step_shift hstep with
  | kept he hb hts hh hr => exact hsame hb (fun _ hmem => hh ▸ hmem) (howes hr)
  | preflightFailed hfail hb hts hh =>
    refine hsame hb (fun _ hmem => hh ▸ hmem) fun dev hdev hnone => ?_
    by_cases hp : RebuildPending d.tasks
    · exact hkeeps.dropped dev hp hnone (hb.device.trans hdev)
    · exact h.running dev hdev hp
  | preflightPassed hcause hb hts hh =>
    exact hsame hb (hadded rfl hh)
      (howes fun _ => ⟨_, List.mem_append_right _ (List.mem_singleton_self _), rfl⟩)
  | rebuildRefused hcheck hts hh =>
    refine hsame (.refl _) (fun _ hmem => hh ▸ hmem) fun dev hdev hnone => ?_
    by_cases hp : RebuildPending d.tasks
    · exact hkeeps.dropped dev hp hnone hdev
    · exact h.running dev hdev hp
  | started hstart hts hh hup => exact inStep_upShift hsound h hh hkeeps.underway hup
  | installed hgen hb hts hr hpre hh => exact inStep_installed hsound h hgen hb hpre hh
  | handedBack hgen hb hts hr hpre hh => exact hsame hb (handshakes_rest hpre hh) (howes hr)
  | buildFailed hb hts hr hpre hh => exact hsame hb (handshakes_rest hpre hh) (howes hr)
  | setFailed hcheck hfail hb =>
    obtain ⟨hsave, hprofiles, -⟩ := hassumed
    rw [hsave, hprofiles] at hfail
    rcases hfail with hfail | hfail <;> cases hfail
  | @setPersisted o netmap io tags edit b' hcheck hdev hb =>
    refine inStep_set h (hset hb) rfl rfl hkeeps.underway ?_
    intro dev hsome
    rw [hdev] at hsome
    cases hsome
  | @setRebuild o netmap io tags edit b' dev hcheck hdev hneeds hb =>
    refine inStep_set h (hset hb) rfl ?_ hkeeps.underway ?_
    · rw [handshakes_append]
      exact List.append_nil _
    · intro dev hsome hnone
      exact absurd ⟨_, List.mem_append_right _ (List.mem_singleton_self _), rfl⟩ hnone
  | @setLive o netmap io tags edit b' dev hcheck hdev hneeds hb =>
    obtain ⟨-, -, hpushed⟩ := hassumed
    rw [hpushed] at hb
    refine inStep_set h hb rfl rfl hkeeps.underway ?_
    intro dev' hsome hnone
    cases hsome
    refine runsPrefs_setLive h hdev hnone hcheck hneeds ?_ hb
    intro hname
    exact hkeeps.named hname (by rw [hdev]; rfl)
  | @reloadKeyFailed document contents io c f path hsource hdoc hvalid hkey =>
    by_cases hlive : (slotOf d).Live
    · have hfields : SameEngine d.backend.prefs (c.merge d.backend.prefs) := by
        rcases live_cases hlive with ⟨dev, hdev⟩ | hunder
        · exact hkeeps.reloaded rfl (by rw [hdev]; rfl) (by simp)
        · exact hkeeps.underway hunder rfl
      exact h.same (fun dev hdev => ⟨dev, hdev, rfl, rfl⟩) rfl hfields rfl rfl
        (List.Subset.refl _) (fun dev hdev _ hnone => h.running dev hdev hnone)
    · exact .idle hlive
  | reloadFailed hsource hdoc hvalid hfail hb hkey =>
    obtain ⟨hsave, hprofiles⟩ := hassumed
    rw [hsave, hprofiles] at hfail
    rcases hfail with hfail | hfail <;> cases hfail
  | @reloadApplied document contents io c path b' owed hsource hdoc hvalid howed hb hkey =>
    exact inStep_reloaded h howed hb (fun hunder => hkeeps.underway hunder hb.generation)
      fun hdev hasks => hkeeps.reloaded rfl hdev hasks
  | down he hmark hb hts hh =>
    obtain ⟨disk, ticks, key, -, rfl⟩ := hb
    refine .idle (not_live_of_torn hsound ?_ ?_ hh) <;> rw [Backend.downResult_eq]
  | logout hmark hb =>
    obtain ⟨disk, ticks, key, -, rfl⟩ := hb
    refine .idle (not_live_of_torn hsound ?_ ?_ rfl) <;> rw [Backend.logoutResult_eq]
  | tornDown he hb =>
    obtain ⟨disk, ticks, key, -, rfl⟩ := hb
    exact .idle (not_live_of_torn hsound rfl rfl rfl)
  | profileActivated he hne hb =>
    obtain ⟨disk, ticks, key, -, rfl⟩ := hb
    exact .idle (not_live_of_torn hsound rfl rfl rfl)
  | profileEmptied he hb =>
    obtain ⟨disk, ticks, key, -, rfl⟩ := hb
    exact .idle (not_live_of_torn hsound rfl rfl rfl)
  | policyMoved =>
    rw [show _ = d.policy from hassumed]
    exact h
  | policyTick =>
    obtain ⟨halways, hexit⟩ := hkeys rfl
    rw [Backend.exitNodePolicyChanged_eq, Backend.sysPolicyChanged_eq, ← halways, ← hexit]
    simpa using h
  | timerDropped => exact ⟨h.running, h.coming, h.settled⟩
  | timerClaimed harmed hprofile =>
    exact h.same (fun dev hdev => ⟨dev, hdev, rfl, rfl⟩) rfl (.refl _) rfl rfl (hadded rfl rfl)
      (fun dev hdev _ => howes hgrows dev hdev)
  | retried hretry => exact hsame (.refl _) (hadded rfl rfl) (howes hgrows)
  | resumeKeyed htask hkey hts hh hr =>
    exact hsame (.refl _) (hadded rfl hh) (howes fun hp => hgrows (hr hp))
  | engine =>
    refine h.same ?_ rfl (.refl _) rfl rfl (List.Subset.refl _)
      (fun dev hdev _ => h.running dev hdev)
    intro dev' hdev'
    obtain ⟨dev, hdev, rfl⟩ := Option.map_eq_some_iff.mp hdev'
    exact ⟨dev, hdev, rfl, rfl⟩

/-- The last section of a bring-up always keeps them together. -/
theorem keeps_finish {H : Host} {d d' : Daemon} {i : Nat} {built : Option DeviceState} {io : Io}
    (hstep : Daemon.step H d (.finish i built io) = some d') : Keeps H d (.finish i built io) d' := by
  have hkept {b' : Backend} {ts : List Task} {n : Nat} {log : List Did}
      (hb : DiskOnly d.backend b') (hr : RebuildPending d.tasks → RebuildPending ts) :
      Keeps H d (.finish i built io) ⟨b', d.policy, ts, n, log⟩ := by
    refine ⟨fun _ _ => ?_, by rintro ⟨⟩, fun dev hp hnone => absurd (hr hp) hnone, by rintro ⟨⟩⟩
    rw [hb.prefs]
    exact .refl _
  cases step_shift hstep with
  | kept he hb hts hh hr => exact hkept hb hr
  | started hstart hts hh hup => cases hstart
  | installed hgen hb hts hr hpre hh =>
    refine ⟨fun _ hcur => ?_, by rintro ⟨⟩, fun dev hp hnone => absurd (hr hp) hnone, by rintro ⟨⟩⟩
    exact absurd (hb.generation.symm.trans hcur) (Nat.succ_ne_self _)
  | handedBack hgen hb hts hr hpre hh => exact hkept hb hr
  | buildFailed hb hts hr hpre hh => exact hkept hb hr
  | down he hmark hb hts hh => rcases he with ⟨_, _, he⟩ | ⟨_, _, he⟩ <;> cases he
  | tornDown he hb => rcases he with he | ⟨_, _, he⟩ <;> cases he
  | profileActivated he hne hb => cases he
  | profileEmptied he hb => cases he

end Tailnetd
