/-
  The states a daemon can be in.

  A process boots (it loads the current profile, merges `--config`, takes `--tun`, and starts the
  engine when the intent says so) and then handles events.  `Reachable H good d` says that `d` is
  reached from some boot by events that satisfy `good`; `Reachable.invariant` is the rule every
  invariant is proved with: it holds of an idle daemon, the auto-start's `begin_up` keeps it, and
  every good event keeps it.
-/
import Tailnetd.Steps

namespace Tailnetd

open Machine

namespace Daemon

/-- A state reached from a boot by good events. -/
def Reachable (H : Host) (good : Daemon → Event → Prop) (d : Daemon) : Prop :=
  ∃ policy s d₀ es, boot H policy s = .ok d₀ ∧ Run (step H) good d₀ es d

end Daemon

/-! ## Before the first engine -/

/-- A backend that has started nothing and stands under the policy without exemptions. -/
structure Backend.Quiet (E : Env) (b : Backend) : Prop where
  device : b.device = none
  overrideAlwaysOn : b.overrideAlwaysOn = false
  overrideExitNodePolicy : b.overrideExitNodePolicy = false
  reconnect : b.reconnect = none
  /-- The exit node is the one the policy leaves. -/
  exitNode : ∃ p : Prefs, b.prefs.exitNode = (applySettingsToPrefs E.settings p {}).1.exitNode

/-- A daemon that has loaded its state and started nothing. -/
structure Idle (H : Host) (d : Daemon) : Prop where
  backend : d.backend.Quiet (d.env H)
  tasks : d.tasks = []
  log : d.log = []
  nextDevice : d.nextDevice = 0

namespace Backend

theorem Quiet.diskOnly {E : Env} {b b' : Backend} (h : b.Quiet E) (hb : DiskOnly b b') :
    b'.Quiet E := by
  obtain ⟨disk, ticks, key, -, rfl⟩ := hb
  exact ⟨h.device, h.overrideAlwaysOn, h.overrideExitNodePolicy, h.reconnect, h.exitNode⟩

theorem load_quiet {E : Env} {disk : Disk} {io : Io} {b : Backend} (h : load E disk io = .ok b) :
    b.Quiet E := by
  unfold load at h
  dsimp only at h
  split at h
  · cases h
  · cases h
    exact ⟨rfl, rfl, rfl, rfl, _, rfl⟩

/-- A merged config is reconciled with no exemption standing. -/
theorem Quiet.configured {E : Env} {b : Backend} (h : b.Quiet E) (c : ConfigVAlpha) :
    (b.configured E c).Quiet E := by
  refine ⟨h.device, h.overrideAlwaysOn, h.overrideExitNodePolicy, h.reconnect, c.merge b.prefs, ?_⟩
  unfold Backend.configured adoptPrefs reconcileSysPolicy
  dsimp only
  rw [h.overrideAlwaysOn, h.overrideExitNodePolicy]

/-- What `apply_tun_flag` can do: nothing, or write the TUN prefs and persist. -/
theorem applyTunFlag_outcomes (b : Backend) (flag : Option (Option String)) (io : Io) :
    (b.applyTunFlag flag io).2 = b ∨ ∃ enabled name, (b.applyTunFlag flag io).2 =
      ({ b with prefs := { b.prefs with tunEnabled := enabled, tunName := name } }.persistPrefs
        io).2 := by
  rcases flag with _ | name
  · dsimp only [applyTunFlag]
    split
    · exact .inl rfl
    · refine .inr ⟨false, b.prefs.tunName, ?_⟩
      split <;> rename_i heq <;> rw [heq]
  · dsimp only [applyTunFlag]
    split
    · exact .inl rfl
    · refine .inr ⟨true, name, ?_⟩
      split <;> rename_i heq <;> rw [heq]

/-- A config that applied: it is valid, its key resolves, and the rest is disk traffic. -/
theorem applyConfig_ok {E : Env} {b b' : Backend} {c : ConfigVAlpha} {contents : Option String}
    {io : Io} {key : Option String} (h : b.applyConfig E c contents io = (.ok key, b')) :
    c.validate E.host b.prefs = .ok () ∧ c.registrationKey contents = .ok key ∧
      DiskOnly (b.configured E c) b' := by
  rcases applyConfig_cases E b c contents io with ⟨e, -, happly⟩ | ⟨f, -, -, happly⟩ |
    ⟨key', hvalid, hkey, hb, hres⟩
  · rw [happly] at h
    cases h
  · rw [happly] at h
    cases h
  · rw [h] at hb hres
    rcases hres with hres | ⟨⟨f, hres⟩, -⟩ <;> cases hres
    exact ⟨hvalid, hkey, hb⟩

end Backend

namespace Daemon

/-! ## The parts of a boot -/

/-- `--config` at boot: none, or a document that applied. -/
theorem bootConfig_cases {E : Env} {b b' : Backend} {s : BootInput} {key : Option String}
    (h : bootConfig E b s = (.ok key, b')) :
    (s.config = none ∧ b' = b) ∨ ∃ source document contents b₁,
      s.config = some (source, document, contents) ∧
      b.applyConfig E document contents s.configIo = (.ok key, b₁) ∧
      b' = { b₁ with configSource := some source } := by
  unfold bootConfig at h
  split at h
  · rename_i hnone
    cases h
    exact .inl ⟨hnone, rfl⟩
  · rename_i source document contents hdocument
    split at h
    · cases h
    · rename_i b₁ happly
      cases h
      exact .inr ⟨source, document, contents, b₁, hdocument, happly, rfl⟩

/-- `--tun` at boot: nothing, or a write of the TUN prefs that is persisted. -/
theorem bootTun_cases {b b' : Backend} {s : BootInput} {changed : Bool}
    (h : bootTun b s = (.ok changed, b')) :
    b' = b ∨ ∃ enabled name, b' =
      ({ b with prefs := { b.prefs with tunEnabled := enabled, tunName := name } }.persistPrefs
        s.tunIo).2 := by
  unfold bootTun at h
  split at h
  · cases h
    exact .inl rfl
  · rename_i flag _
    have houtcomes := Backend.applyTunFlag_outcomes b flag s.tunIo
    rw [h] at houtcomes
    exact houtcomes

/-- The boot up to the auto-start: the state is loaded, `--config` and `--tun` are taken in. -/
def loaded (H : Host) (policy : List PolicySource) (s : BootInput) :
    Except Failure (Option String × Daemon) :=
  match Backend.load ⟨H, policy⟩ s.disk s.loadIo with
  | .error e => .error e
  | .ok b =>
    match bootConfig ⟨H, policy⟩ { b with listenPort := s.listenPort } s with
    | (.error e, _) => .error e
    | (.ok configAuthkey, b) =>
      match bootTun b s with
      | (.error e, _) => .error e
      | (.ok _, b) => .ok (configAuthkey, ⟨b, policy, [], 0, []⟩)

/-- **What was loaded**: the stored state, then `--config`, then `--tun`, and no task yet. -/
theorem loaded_cases {H : Host} {policy : List PolicySource} {s : BootInput} {key : Option String}
    {d : Daemon} (h : loaded H policy s = .ok (key, d)) :
    ∃ b b₁ changed b₂, Backend.load ⟨H, policy⟩ s.disk s.loadIo = .ok b ∧
      bootConfig ⟨H, policy⟩ { b with listenPort := s.listenPort } s = (.ok key, b₁) ∧
      bootTun b₁ s = (.ok changed, b₂) ∧ d = ⟨b₂, policy, [], 0, []⟩ := by
  unfold loaded at h
  split at h
  · cases h
  · rename_i b hload
    split at h
    · cases h
    · rename_i configAuthkey b₁ hconfig
      split at h
      · cases h
      · rename_i changed b₂ htun
        cases h
        exact ⟨b, b₁, changed, b₂, hload, hconfig, htun, rfl⟩

/-- A boot is the auto-start of what was loaded. -/
theorem boot_loaded {H : Host} {policy : List PolicySource} {s : BootInput} {d : Daemon}
    (h : boot H policy s = .ok d) :
    ∃ key d₀, loaded H policy s = .ok (key, d₀) ∧ d = autoStart H d₀ key s := by
  unfold boot at h
  split at h
  · cases h
  · rename_i b hload
    split at h
    · cases h
    · rename_i configAuthkey b1 hconfig
      split at h
      · cases h
      · rename_i changed b2 htun
        cases h
        refine ⟨configAuthkey, ⟨b2, policy, [], 0, []⟩, ?_, rfl⟩
        unfold loaded
        rw [hload]
        dsimp only
        rw [hconfig]
        dsimp only
        rw [htun]

/-- What was loaded, with the boot's attempt to bring it up recorded. -/
def attempted (d : Daemon) : Daemon := { d with backend := { d.backend with bootAttemptedUp := true } }

/-- An auto-start that began a bring-up finishes it. -/
theorem autoStart_finish (H : Host) (d : Daemon) (built : Option DeviceState) (io : Io) :
    (match d.tasks with
      | [.handshake pending _ _] => (d.take 0).finish H pending built io
      | _ => d) = d ∨
    step H d (.finish 0 built io) = some (match d.tasks with
      | [.handshake pending _ _] => (d.take 0).finish H pending built io
      | _ => d) := by
  split
  · rename_i pending authkey origin htasks
    right
    dsimp only [step]
    rw [htasks]
    rfl
  · exact .inl rfl

/-- An auto-start does nothing, or runs a `begin_up` section and perhaps the last one. -/
theorem autoStart_cases (H : Host) (d : Daemon) (key : Option String) (s : BootInput) :
    autoStart H d key s = d ∨
    (d.backend.wantsRunning = true ∧ ∃ authkey d₁,
      d₁ = d.attempted.driveUp H .boot authkey {} none {} s.startIo ∧
      (autoStart H d key s = d₁ ∨
        step H d₁ (.finish 0 s.built s.finishIo) = some (autoStart H d key s))) := by
  unfold autoStart
  split
  · exact .inl rfl
  · rename_i hwants
    right
    let authkey := resumeDecision (s.startIo.readKey && keyFileHasNodeKey d.backend.keyFile)
      (key.or s.envAuthkey)
    refine ⟨by simpa using hwants, authkey, d.attempted.driveUp H .boot authkey {} none {} s.startIo,
      rfl, ?_⟩
    exact autoStart_finish H _ s.built s.finishIo

/-- **The boot rule.**  What holds of a loaded daemon, is kept by the `begin_up` of its auto-start
    and by the last section of that bring-up holds when the boot is done. -/
theorem boot_rule {H : Host} {policy : List PolicySource} {s : BootInput} {P : Daemon → Prop}
    (load : ∀ key d₀, loaded H policy s = .ok (key, d₀) → P d₀)
    (begun : ∀ key d₀ authkey, loaded H policy s = .ok (key, d₀) → d₀.backend.wantsRunning = true →
      P d₀ → P (d₀.attempted.driveUp H .boot authkey {} none {} s.startIo))
    (finished : ∀ d₁ d₂, P d₁ → step H d₁ (.finish 0 s.built s.finishIo) = some d₂ → P d₂)
    {d : Daemon} (h : boot H policy s = .ok d) : P d := by
  obtain ⟨key, d₀, hloaded, rfl⟩ := boot_loaded h
  have h₀ := load key d₀ hloaded
  rcases autoStart_cases H d₀ key s with heq | ⟨hwants, authkey, d₁, rfl, hrest⟩
  · rw [heq]
    exact h₀
  · have h₁ := begun key d₀ authkey hloaded hwants h₀
    rcases hrest with heq | hstep
    · rw [heq]
      exact h₁
    · exact finished _ _ h₁ hstep

/-! ## What a boot leaves -/

theorem bootConfig_quiet {E : Env} {b b' : Backend} {s : BootInput} {key : Option String}
    (hb : b.Quiet E) (h : bootConfig E b s = (.ok key, b')) : b'.Quiet E := by
  rcases bootConfig_cases h with ⟨-, rfl⟩ | ⟨source, document, contents, b₁, -, happly, rfl⟩
  · exact hb
  · have hquiet := (hb.configured document).diskOnly (Backend.applyConfig_ok happly).2.2
    exact ⟨hquiet.device, hquiet.overrideAlwaysOn, hquiet.overrideExitNodePolicy, hquiet.reconnect,
      hquiet.exitNode⟩

theorem bootTun_quiet {E : Env} {b b' : Backend} {s : BootInput} {changed : Bool}
    (hb : b.Quiet E) (h : bootTun b s = (.ok changed, b')) : b'.Quiet E := by
  rcases bootTun_cases h with rfl | ⟨enabled, name, rfl⟩
  · exact hb
  · -- only the TUN prefs differ, and they are not the policy's
    have hquiet : Backend.Quiet E
        { b with prefs := { b.prefs with tunEnabled := enabled, tunName := name } } :=
      ⟨hb.device, hb.overrideAlwaysOn, hb.overrideExitNodePolicy, hb.reconnect, hb.exitNode⟩
    exact hquiet.diskOnly (Backend.persistPrefs_diskOnly _ _)

/-- What was loaded has started nothing. -/
theorem loaded_idle {H : Host} {policy : List PolicySource} {s : BootInput} {key : Option String}
    {d : Daemon} (h : loaded H policy s = .ok (key, d)) : Idle H d := by
  obtain ⟨b, b₁, changed, b₂, hload, hconfig, htun, rfl⟩ := loaded_cases h
  have hquiet := Backend.load_quiet hload
  have hport : Backend.Quiet ⟨H, policy⟩ { b with listenPort := s.listenPort } :=
    ⟨hquiet.device, hquiet.overrideAlwaysOn, hquiet.overrideExitNodePolicy, hquiet.reconnect,
      hquiet.exitNode⟩
  exact ⟨bootTun_quiet (bootConfig_quiet hport hconfig) htun, rfl, rfl, rfl⟩

/-- The daemon an auto-start begins from, and how far it gets: its `begin_up` ran, and perhaps the
    last section of the bring-up. -/
inductive Booted (H : Host) : Daemon → Prop
  | idle {d : Daemon} (hidle : Idle H d) : Booted H d
  | begun {d d' : Daemon} {authkey : Option String} {io : Io} (hidle : Idle H d)
      (hup : UpShift H d .boot authkey {} {} io d.tasks d') : Booted H d'

/-- **What a boot leaves**: a daemon whose auto-start has begun, or such a daemon after the last
    section of that bring-up. -/
theorem boot_cases {H : Host} {policy : List PolicySource} {s : BootInput} {d : Daemon}
    (h : boot H policy s = .ok d) :
    ∃ d₁, Booted H d₁ ∧ (d = d₁ ∨ step H d₁ (.finish 0 s.built s.finishIo) = some d) := by
  obtain ⟨key, d₀, hloaded, rfl⟩ := boot_loaded h
  have hidle := loaded_idle hloaded
  rcases autoStart_cases H d₀ key s with heq | ⟨-, authkey, d₁, rfl, hrest⟩
  · exact ⟨d₀, .idle hidle, .inl heq⟩
  · have hidle' : Idle H d₀.attempted :=
      ⟨⟨hidle.backend.device, hidle.backend.overrideAlwaysOn, hidle.backend.overrideExitNodePolicy,
        hidle.backend.reconnect, hidle.backend.exitNode⟩, hidle.tasks, hidle.log, hidle.nextDevice⟩
    refine ⟨_, ?_, hrest⟩
    rcases beginUp_shift H d₀.attempted .boot
        (authkey.or (d₀.attempted.backend.policyAuthKey (d₀.attempted.env H))) {} none {} s.startIo
        d₀.attempted.tasks with ⟨-, heq⟩ | hup
    · exact (congrArg (Booted H) heq).mpr (.idle hidle')
    · exact .begun hidle' hup

/-- **The invariant rule for reachable states.**  What holds of an idle daemon, is kept by the
    `begin_up` of the auto-start and by every good event holds in every state reached. -/
theorem Reachable.invariant {H : Host} {good : Daemon → Event → Prop} {P : Daemon → Prop}
    (hgood : ∀ d i built io, good d (.finish i built io))
    (idle : ∀ d, Idle H d → P d)
    (begun : ∀ d d' authkey io, Idle H d → UpShift H d .boot authkey {} {} io d.tasks d' → P d')
    (preserved : ∀ d e d', P d → good d e → step H d e = some d' → P d') {d : Daemon}
    (h : Reachable H good d) : P d := by
  obtain ⟨policy, s, d₀, es, hboot, hrun⟩ := h
  refine hrun.invariant preserved ?_
  obtain ⟨d₁, hbooted, heq⟩ := boot_cases hboot
  have h₁ : P d₁ := by
    cases hbooted with
    | idle hidle => exact idle d₁ hidle
    | begun hidle hup => exact begun _ d₁ _ _ hidle hup
  rcases heq with rfl | hstep
  · exact h₁
  · exact preserved d₁ _ d₀ h₁ (hgood _ _ _ _) hstep

end Daemon

/-! ## A concrete start -/

/-- A Linux host without optional features. -/
def plainHost : Host where
  os := "linux"
  disableSshServer := none
  euid := 1000
  featureSsh := false
  featureTun := false
  autoUpdateRefusal := none
  defaultTunName := none
  envControlServer := ⟨"https", "https://controlplane.tailscale.com/"⟩
  parseIpNet := fun _ => none
  parseUrl := fun _ => none

def emptyDisk : Disk := ⟨fun _ => none, fun _ => none, [], none⟩

/-- A first start: default prefs on an empty disk. -/
def firstBoot : Daemon.BootInput := { disk := emptyDisk }

/-- Boot, then replay a list of events. -/
def Daemon.replay (H : Host) (policy : List PolicySource) (s : BootInput) (es : List Event) :
    Option Daemon :=
  match boot H policy s with
  | .ok d => follow (step H) d es
  | .error _ => none

/-- What a replay reaches is reachable, under a condition its events meet in any state. -/
theorem Daemon.reachable_replay {H : Host} {good : Daemon → Event → Prop}
    {policy : List PolicySource} {s : BootInput} {es : List Event} {d : Daemon}
    (hgood : ∀ e ∈ es, ∀ d, good d e) (h : replay H policy s es = some d) :
    Reachable H good d := by
  unfold replay at h
  split at h
  · rename_i d₀ hboot
    exact ⟨policy, s, d₀, es, hboot, run_of_follow hgood h⟩
  · cases h

end Tailnetd
