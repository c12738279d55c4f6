/-
  Shields up against Funnel.

  `set_serve_config` refuses to publish a port while the shields are up: a node with both accepts
  nothing on the endpoint it advertises.  The refusal stands on this side only.  The shields are
  raised by `set`, by `up`, by a config document, by the policy's `AllowIncomingConnections`, and by
  the prefs of the profile that becomes current, and none of them looks at the stored serve config.
  `Raises` lists these ways with the profile that is current afterwards; a run in which none of them
  meets a published port keeps the two apart.
-/
import Tailnetd.PrefsMoves
import Tailnetd.PolicyFields
import Tailnetd.Serving

namespace Tailnetd

open Machine

/-! ## The shields under the policy -/

/-- The shields once the policy had its say: `AllowIncomingConnections` is their negation. -/
def shieldsAfter (settings : List PolicySetting) (p : Prefs) : Bool :=
  match configuredPreference settings "AllowIncomingConnections" with
  | some .always => false
  | some .never => true
  | _ => p.shieldsUp

theorem policy_shieldsUp (settings : List PolicySetting) (p : Prefs) (o : PolicyOverrides) :
    (applySettingsToPrefs settings p o).1.shieldsUp = shieldsAfter settings p := by
  have hallow : (!(applySettingsToPrefs settings p o).1.shieldsUp) =
      ((configuredPreference settings "AllowIncomingConnections").bind
        PreferenceOption.forced).getD (!p.shieldsUp) :=
    policy_preference
      (show allowIncomingConnections ∈ preferencePolicies by simp [preferencePolicies]) settings p o
  rw [← Bool.not_not (applySettingsToPrefs settings p o).1.shieldsUp, hallow]
  unfold shieldsAfter
  cases configuredPreference settings "AllowIncomingConnections" with
  | none => simp
  | some option => cases option <;> simp [PreferenceOption.forced]

/-- The shields are down, or nothing is published. -/
def KeptApart (s : ServingDaemon) : Prop :=
  ¬ (s.daemon.backend.prefs.shieldsUp = true ∧ s.published ≠ ∅)

/-! ## What raises the shields -/

/-- The section leaves the shields up, for the profile of this id. -/
inductive Raises (H : Host) (d : Daemon) : Event → String → Prop
  /-- The prefs that `up`, `set` or a document asks for have the shields up under the policy. -/
  | edit {e : Event} {p : Prefs} (he : e.changesProfile = false) (hasks : Asks H d e p)
      (hup : shieldsAfter (d.env H).settings p = true) : Raises H d e d.backend.currentProfile
  /-- A document with the shields up was merged, and its registration key did not resolve. -/
  | merged {document : Except Failure ConfigVAlpha} {contents : Option String} {io : Io}
      {c : ConfigVAlpha} {path : String} (hsource : d.backend.configSource = some (.file path))
      (hdoc : document = .ok c) (hvalid : c.validate H d.backend.prefs = .ok ())
      (hkey : (c.registrationKey contents).isOk = false)
      (hup : (c.merge d.backend.prefs).shieldsUp = true) :
      Raises H d (.reload document contents io) d.backend.currentProfile
  /-- The profile that becomes current has them up under the policy. -/
  | profile {e : Event} {id : String} {p : Prefs} (hlanding : d.landing e = some (id, p))
      (hswitch : d.switches H e = true) (hup : shieldsAfter (d.env H).settings p = true) :
      Raises H d e id

/-- The ports a profile publishes, by its stored config. -/
def publishedBy (s : ServingDaemon) (id : String) : Finset UInt16 :=
  funnelPorts (loadServe (s.serveFile id) true)

/-- No section raises the shields over a published port. -/
def RaisesOverNothing (H : Host) (s : ServingDaemon) : ServeEvent → Prop
  | .daemon e => ∀ id, Raises H s.daemon e id → publishedBy s id = ∅
  | .setServeConfig _ _ _ => True

/-- **A section of the daemon that raises the shields over nothing keeps the two apart.** -/
theorem keptApart_daemon {H : Host} {s : ServingDaemon} {e : Event} {d' : Daemon}
    (h : KeptApart s) (hgood : RaisesOverNothing H s (.daemon e))
    (hstep : s.daemon.step H e = some d') : KeptApart { s with daemon := d' } := by
  rintro ⟨hshields, hpublished⟩
  dsimp only at hshields
  have hraised {id : String} (hid : d'.backend.currentProfile = id)
      (hraises : Raises H s.daemon e id) : False := by
    apply hpublished
    have hnone := hgood id hraises
    rw [← hid] at hnone
    exact hnone
  rcases step_profile hstep with ⟨hswitch, id, p, hlanding, hid, hprefs⟩ | ⟨hstays, hid⟩
  · -- the prefs are those of the profile that became current
    rw [hprefs, policy_shieldsUp] at hshields
    exact hraised hid (.profile hlanding hswitch hshields)
  · have hkept (hold : s.daemon.backend.prefs.shieldsUp = true) : False := by
      refine h ⟨hold, ?_⟩
      unfold ServingDaemon.published ServingDaemon.serveConfig at hpublished ⊢
      rw [hid] at hpublished
      exact hpublished
    have hmove := step_prefs hstep
    generalize d'.backend.prefs = p' at hmove hshields
    cases hmove with
    | kept => exact hkept hshields
    | marked w l h' => exact hkept hshields
    | merged hsource hdoc hvalid hkey =>
      exact hraised hid (.merged hsource hdoc hvalid hkey hshields)
    | asked hasks o =>
      rw [policy_shieldsUp] at hshields
      cases hchange : e.changesProfile with
      | false => exact hraised hid (.edit hchange hasks hshields)
      | true =>
        -- a profile operation asks for nothing unless it changes the profile
        cases hasks with
        | up hstart hcheck hreauth => cases hstart <;> cases hchange
        | set hcheck => cases hchange
        | reload hsource hdoc hvalid hkey => cases hchange
        | profile hlanding hswitch =>
          rw [hstays] at hswitch
          cases hswitch

/-- A serve config is accepted only where the two stay apart. -/
theorem keptApart_setServeConfig {G : ServeEngine} {s : ServingDaemon} (h : KeptApart s)
    (cfg : ServeConfig) (netmapName : Option String) (io : ServeIo) :
    KeptApart (s.setServeConfig G cfg netmapName io).2 := by
  rcases ServingDaemon.setServeConfig_cases G s cfg netmapName io with ⟨f, heq⟩ |
    ⟨hguard, heq⟩ <;> rw [heq]
  · exact h
  · rintro ⟨hshields, hpublished⟩
    apply hpublished
    unfold ServingDaemon.published ServingDaemon.serveConfig
    dsimp only
    rw [Function.update_self]
    exact hguard hshields

/-- **Every step that raises the shields over nothing keeps the two apart.** -/
theorem keptApart_step {H : Host} {G : ServeEngine} {s t : ServingDaemon} {e : ServeEvent}
    (h : KeptApart s) (hgood : RaisesOverNothing H s e) (hstep : s.step H G e = some t) :
    KeptApart t := by
  cases e with
  | daemon e =>
    obtain ⟨d', hd, rfl⟩ := ServingDaemon.step_daemon hstep
    exact keptApart_daemon h hgood hd
  | setServeConfig cfg netmapName io =>
    cases hstep
    exact keptApart_setServeConfig h cfg netmapName io

/-! ## The start of the process -/

/-- What the process starts with raises the shields over nothing. -/
def BootRaisesOverNothing (H : Host) (policy : List PolicySource) (s : Daemon.BootInput)
    (files : String → Option ServeFile) : Prop :=
  ∀ p, BootAsks H policy s p → shieldsAfter (mergeSources policy) p = true →
    funnelPorts (loadServe (files (loadCurrentProfile (s.disk.readPointer s.loadIo))) true) = ∅

/-- The policy decides the shields once. -/
theorem shieldsAfter_idem (settings : List PolicySetting) {p q : Prefs}
    (h : q.shieldsUp = shieldsAfter settings p) :
    shieldsAfter settings q = shieldsAfter settings p := by
  unfold shieldsAfter at h ⊢
  split
  · rfl
  · rfl
  · rename_i halways hnever
    split at h
    · exact absurd ‹_› halways
    · exact absurd ‹_› hnever
    · exact h

/-- The shields a boot leaves up are those it asked for, under the policy: its auto-start names
    none. -/
theorem boot_shieldsUp {H : Host} {policy : List PolicySource} {s : Daemon.BootInput} {d : Daemon}
    (h : Daemon.boot H policy s = .ok d) :
    ∃ p, BootAsks H policy s p ∧
      d.backend.prefs.shieldsUp = shieldsAfter (mergeSources policy) p := by
  refine Daemon.boot_rule (P := fun d => ∃ p, BootAsks H policy s p ∧
    d.backend.prefs.shieldsUp = shieldsAfter (mergeSources policy) p) ?_ ?_ ?_ h
  · intro key d₀ hloaded
    obtain ⟨p, hasks, enabled, name, hprefs⟩ := loaded_prefs hloaded
    refine ⟨p, hasks, ?_⟩
    rw [hprefs]
    exact policy_shieldsUp (mergeSources policy) p {}
  · rintro key d₀ authkey hloaded - ⟨p, hasks, h₀⟩
    refine ⟨p, hasks, ?_⟩
    have hsettings : (d₀.env H).settings = mergeSources policy :=
      congrArg mergeSources (loaded_policy hloaded)
    rw [Daemon.driveUp, Daemon.beginUp_backend]
    rcases beginUp_prefs (d₀.env H) d₀.attempted.backend {} none {} s.startIo with hsame |
      ⟨tags, edit, overrides, -, hasked⟩
    · rw [show d₀.attempted.env H = d₀.env H from rfl, hsame]
      exact h₀
    · rw [show d₀.attempted.env H = d₀.env H from rfl, hasked, policy_shieldsUp, hsettings]
      exact shieldsAfter_idem (mergeSources policy) h₀
  · rintro d₁ d₂ ⟨p, hasks, h₁⟩ hstep
    refine ⟨p, hasks, ?_⟩
    have hmove := step_prefs hstep
    generalize d₂.backend.prefs = p' at hmove ⊢
    cases hmove with
    | kept => exact h₁
    | marked w l h' => exact h₁
    | asked hasks' o =>
      -- the last section of a bring-up asks for nothing
      cases hasks' with
      | up hstart hcheck hreauth => cases hstart
      | profile hlanding hswitch => cases hlanding

theorem boot_keptApart {H : Host} {policy : List PolicySource} {s : Daemon.BootInput}
    {files : String → Option ServeFile} {d : Daemon}
    (hstart : BootRaisesOverNothing H policy s files) (h : Daemon.boot H policy s = .ok d) :
    KeptApart ⟨d, files⟩ := by
  rintro ⟨hshields, hpublished⟩
  obtain ⟨p, hasks, hp⟩ := boot_shieldsUp h
  obtain ⟨b, hload, hown⟩ := Daemon.boot_ownFiles h
  obtain ⟨-, hprofile, -⟩ := Backend.load_eq hload
  have hnone := hstart p hasks (hp.symm.trans hshields)
  apply hpublished
  unfold ServingDaemon.published ServingDaemon.serveConfig
  rw [hown.profile, hprofile]
  exact hnone

/-! ## Runs -/

/-- **A node that blocks incoming connections publishes nothing**, in every run in which nothing
    raises the shields over a published port: neither the start of the process, nor an edit, a
    document, the policy or a profile that becomes current. -/
theorem shields_exclude_funnel {H : Host} {G : ServeEngine} {policy : List PolicySource}
    {s : Daemon.BootInput} {files : String → Option ServeFile} {d₀ : Daemon} {es : List ServeEvent}
    {t : ServingDaemon} (hboot : Daemon.boot H policy s = .ok d₀)
    (hstart : BootRaisesOverNothing H policy s files)
    (hrun : Run (ServingDaemon.step H G) (RaisesOverNothing H) ⟨d₀, files⟩ es t) :
    ¬ (t.daemon.backend.prefs.shieldsUp = true ∧ t.published ≠ ∅) :=
  hrun.invariant (P := KeptApart) (fun _ _ _ h hgood hstep => keptApart_step h hgood hstep)
    (boot_keptApart hstart hboot)

/-- A node that comes up and publishes a port has its shields down. -/
theorem shields_exclude_funnel_publishes :
    ∃ d₀ t, Daemon.boot plainHost [] firstBoot = .ok d₀ ∧
      follow (ServingDaemon.step plainHost proxyEngine) ⟨d₀, fun _ => none⟩ publishes = some t ∧
      t.published = {443} ∧
      ¬ (t.daemon.backend.prefs.shieldsUp = true ∧ t.published ≠ ∅) := by
  obtain ⟨d₀, t, hboot, hrun, hpublished⟩ : ∃ d₀ t, Daemon.boot plainHost [] firstBoot = .ok d₀ ∧
      follow (ServingDaemon.step plainHost proxyEngine) ⟨d₀, fun _ => none⟩ publishes = some t ∧
      t.published = {443} := ⟨_, _, rfl, rfl, rfl⟩
  have hgood : Run (ServingDaemon.step plainHost proxyEngine) (RaisesOverNothing plainHost)
      ⟨d₀, fun _ => none⟩ publishes t := by
    -- the bring-up runs before anything is stored, and the write itself raises nothing
    obtain ⟨s₁, h₁, hrest₁⟩ := Option.bind_eq_some_iff.mp hrun
    obtain ⟨s₂, h₂, hrest₂⟩ := Option.bind_eq_some_iff.mp hrest₁
    obtain ⟨s₃, h₃, hrest₃⟩ := Option.bind_eq_some_iff.mp hrest₂
    obtain ⟨d₁, -, rfl⟩ := ServingDaemon.step_daemon h₁
    cases hrest₃
    exact .cons (fun _ _ => rfl) h₁ (.cons (fun _ _ => rfl) h₂ (.cons trivial h₃ (.nil t)))
  exact ⟨d₀, t, hboot, hrun, hpublished, shields_exclude_funnel hboot (fun _ _ _ => rfl) hgood⟩

/-- **Nobody else looks**: a `set` raises the shields of a node that publishes a port. -/
theorem shields_raised_over_funnel :
    ¬ ∀ (policy : List PolicySource) (s : Daemon.BootInput) (d₀ : Daemon) (es : List ServeEvent)
      (t : ServingDaemon), Daemon.boot plainHost policy s = .ok d₀ →
      Run (ServingDaemon.step plainHost proxyEngine) (fun _ _ => True) ⟨d₀, fun _ => none⟩ es t →
      ¬ (t.daemon.backend.prefs.shieldsUp = true ∧ t.published ≠ ∅) := by
  intro hclaim
  obtain ⟨d₀, t, hboot, hrun, hshields, hpublished⟩ : ∃ d₀ t,
      Daemon.boot plainHost [] firstBoot = .ok d₀ ∧
      follow (ServingDaemon.step plainHost proxyEngine) ⟨d₀, fun _ => none⟩
        (publishes ++ [.daemon (.set { shieldsUp := some true } {} {})]) = some t ∧
      t.daemon.backend.prefs.shieldsUp = true ∧ t.published = {443} :=
    ⟨_, _, rfl, rfl, rfl, rfl⟩
  refine hclaim _ _ d₀ _ t hboot (run_of_follow (fun _ _ _ => trivial) hrun) ⟨hshields, ?_⟩
  rw [hpublished]
  exact Finset.singleton_ne_empty 443

end Tailnetd
