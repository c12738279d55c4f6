/-
  What an `up` writes.

  `begin_up` checks first, then tears the engine down, edits and persists the prefs, and builds the
  engine's config last.  A request refused by a check at the top leaves everything as it was.  One
  refused by `build_config` does not: the engine is gone and the edited prefs are on disk.

  The edits themselves are a patch.  When the accidental-revert guard has nothing to report, the
  patch is the replace: `--reset` would leave the same prefs behind.
-/
import Tailnetd.PolicyFields
import Tailnetd.RevertGuard
import Tailnetd.Boot

namespace Tailnetd

open FieldWrites

/-! ## A refused `up` -/

/-- The part of the backend a refused `up` must not touch. -/
def Untouched (b b' : Backend) : Prop :=
  b'.device = b.device ∧ b'.prefs = b.prefs ∧ b'.prefsFile = b.prefsFile ∧
    b'.generation = b.generation

/-- The prefs a request asks for, once the policy had its word. -/
def askedPrefs (E : Env) (o : UpOptions) (edit : ExitNodeEdit) (p : Prefs) : Prefs :=
  (applySettingsToPrefs E.settings (Backend.upPrefs o p)
    { alwaysOn := false, exitNode := decide (edit = .override) }).1

/-- The request passes its checks and asks for nothing new: no engine is installed, and the prefs it
    asks for are the ones in memory and on disk. -/
def AsksNothingNew (E : Env) (b : Backend) (o : UpOptions) (netmap : ExitNodeFacts) : Prop :=
  ∃ tags edit, b.checkUp E o netmap = .ok (tags, edit) ∧ b.device = none ∧
    askedPrefs E (o.withTags tags) edit b.prefs = b.prefs ∧ b.prefsFile = some b.prefs

namespace Backend

theorem upResult_prefs (E : Env) (b : Backend) (o : UpOptions) (tags : Option (List String))
    (edit : ExitNodeEdit) :
    (b.upResult E o tags edit).prefs = askedPrefs E (o.withTags tags) edit b.prefs := by
  rw [upResult, applyUp_eq]
  rfl

/-- Listing a profile leaves the prefs files alone. -/
theorem registerCurrentProfile_prefsFile (b : Backend) (io : Io) :
    (b.registerCurrentProfile io).2.prefsFile = b.prefsFile := by
  unfold registerCurrentProfile
  split
  · rfl
  · split
    · rfl
    · split <;> rfl

/-- A persist that succeeds saved the prefs. -/
theorem persistPrefs_saved {b b' : Backend} {io : Io} (h : b.persistPrefs io = (.ok (), b')) :
    b'.prefsFile = some b.prefs := by
  have hreg := registerCurrentProfile_prefsFile (b.setPrefsFile (some b.prefs)) io
  unfold persistPrefs at h
  split at h
  · cases h
  · split at h
    · cases h
    · rename_i b1 heq
      rw [heq] at hreg
      cases h
      refine hreg.trans ?_
      simp [prefsFile, setPrefsFile]

/-- **How a refused `up` was refused**: by a check at the top, with everything as it was, or by a
    check of the finished intent, with the engine gone and the edited prefs saved. -/
theorem beginUp_refused {E : Env} {b b' : Backend} {o : UpOptions} {wif : Option WifCreds}
    {netmap : ExitNodeFacts} {io : Io} {m : String}
    (h : b.beginUp E o wif netmap io = (.error (.refused m), b')) :
    (b.checkUp E o netmap = .error m ∧ b' = b) ∨
    ∃ tags edit, b.checkUp E o netmap = .ok (tags, edit) ∧ b'.device = none ∧
      b'.prefs = askedPrefs E (o.withTags tags) edit b.prefs ∧
      b'.prefsFile = some (askedPrefs E (o.withTags tags) edit b.prefs) ∧
      b'.generation = b.generation := by
  unfold beginUp at h
  rcases hcheck : b.checkUp E o netmap with e | ⟨tags, edit⟩
  · rw [hcheck] at h
    cases h
    exact .inl ⟨rfl, rfl⟩
  · rw [hcheck] at h
    dsimp only at h
    refine .inr ⟨tags, edit, rfl, ?_⟩
    have hb1 := reauth_diskOnly b.stopDevice o io
    rcases hre : b.stopDevice.reauth o io with ⟨f | u, b1⟩
    · rw [hre] at h
      obtain ⟨⟨m', rfl⟩, -⟩ := reauth_error hre
      cases h
    · rw [hre] at h hb1
      dsimp only at h
      have hedit : DiskOnly (b.upResult E o tags edit)
          (b1.applyUp E (o.withTags tags) edit) := applyUp_diskOnly hb1 E _ edit
      rcases hp : (b1.applyUp E (o.withTags tags) edit).persistPrefs io with ⟨f | u, b2⟩
      · rw [hp] at h
        obtain ⟨⟨m', rfl⟩, -⟩ := persistPrefs_error hp
        cases h
      · rw [hp] at h
        dsimp only at h
        have hdisk := persistPrefs_diskOnly (b1.applyUp E (o.withTags tags) edit) io
        rw [hp] at hdisk
        have hb2 := hedit.trans hdisk
        have hsaved := persistPrefs_saved hp
        rw [hedit.prefs, upResult_prefs] at hsaved
        have hdev : (b.upResult E o tags edit).device = none := by
          rw [upResult, applyUp_eq]
          rfl
        rcases hc : b2.buildConfig E io with ⟨f | config, b3⟩
        · -- the key load may write the key file, and nothing else
          have hb3 : b3 = b2.setKeyFile
              (Tailnetd.buildConfig E.host b2.prefs b2.listenPort b2.keyFile io.key).2 :=
            (congrArg Prod.snd hc).symm
          rw [hc] at h
          cases h
          rw [hb3]
          exact ⟨hb2.device.trans hdev, hb2.prefs.trans (upResult_prefs E b o tags edit), hsaved,
            hb2.generation.trans (upResult_generation E b o tags edit)⟩
        · rw [hc] at h
          cases h

end Backend

/-- **Exactly when a refused `up` leaves everything as it was**: a check at the top refused it, or
    it asked for nothing new. -/
theorem refused_up_untouched_iff {E : Env} {b b' : Backend} {o : UpOptions}
    {wif : Option WifCreds} {netmap : ExitNodeFacts} {io : Io} {m : String}
    (h : b.beginUp E o wif netmap io = (.error (.refused m), b')) :
    Untouched b b' ↔
      ((∃ e, b.checkUp E o netmap = .error e) ∨ AsksNothingNew E b o netmap) := by
  rcases Backend.beginUp_refused h with ⟨hcheck, rfl⟩ |
    ⟨tags, edit, hcheck, hdev, hprefs, hfile, hgen⟩
  · exact iff_of_true ⟨rfl, rfl, rfl, rfl⟩ (.inl ⟨m, hcheck⟩)
  · constructor
    · rintro ⟨hdev', hprefs', hfile', -⟩
      refine .inr ⟨tags, edit, hcheck, hdev'.symm.trans hdev, hprefs.symm.trans hprefs', ?_⟩
      rw [← hfile', hfile, ← hprefs, hprefs']
    · rintro (⟨e, he⟩ | ⟨tags', edit', hcheck', hdev', hasked, hsaved⟩)
      · rw [hcheck] at he
        cases he
      · rw [hcheck] at hcheck'
        cases hcheck'
        refine ⟨hdev.trans hdev'.symm, hprefs.trans hasked, ?_, hgen⟩
        rw [hfile, hasked, hsaved]

/-- A malformed tag is refused at the top. -/
theorem refused_up_untouched_tag :
    ∃ d : Daemon, ∃ b' : Backend,
      Daemon.replay plainHost [] firstBoot
        [.up {} none none {} {}, .finish 0 (some .running) {}] = some d ∧
      Untouched d.backend b' := by
  obtain ⟨d, b', m, hd, hup, hcheck⟩ : ∃ d b' m,
      Daemon.replay plainHost [] firstBoot
        [.up {} none none {} {}, .finish 0 (some .running) {}] = some d ∧
      d.backend.beginUp ⟨plainHost, []⟩ { advertiseTags := some ["tag:"] } none {} {} =
        (.error (.refused m), b') ∧
      ∃ e, d.backend.checkUp ⟨plainHost, []⟩ { advertiseTags := some ["tag:"] } {} = .error e :=
    ⟨_, _, _, rfl, rfl, _, rfl⟩
  exact ⟨d, b', hd, (refused_up_untouched_iff hup).mpr (.inl hcheck)⟩

/-- **A refused `up` can drop a healthy tunnel**: `--tun` on a build without TUN is refused after
    the engine was torn down and the edit was saved. -/
theorem refused_up_drops_engine :
    ¬ ∀ (E : Env) (b b' : Backend) (o : UpOptions) (wif : Option WifCreds)
      (netmap : ExitNodeFacts) (io : Io) (m : String),
      b.beginUp E o wif netmap io = (.error (.refused m), b') → Untouched b b' := by
  intro hclaim
  obtain ⟨d, b', dev, m, -, hup, hdev, hgone⟩ : ∃ d b' dev m,
      Daemon.replay plainHost [] firstBoot
        [.up {} none none {} {}, .finish 0 (some .running) {}] = some d ∧
      d.backend.beginUp ⟨plainHost, []⟩ { tun := some true } none {} {} =
        (.error (.refused m), b') ∧
      d.backend.device = some dev ∧ b'.device = none := ⟨_, _, _, _, rfl, rfl, rfl, rfl⟩
  have hkept := (hclaim _ _ _ _ _ _ _ _ hup).1
  rw [hdev, hgone] at hkept
  cases hkept

/-! ## Patch and replace -/

/-- The same request with `--reset` added. -/
def UpOptions.withReset (o : UpOptions) : UpOptions := { o with reset := true }

/-- Completing the tags completes the named ones and names none. -/
theorem completeNamedTags_isSome {named tags : Option (List String)}
    (h : completeNamedTags named = .ok tags) : tags.isSome = named.isSome := by
  unfold completeNamedTags at h
  split at h
  · cases h
    rfl
  · split at h
    · cases h
    · cases h
      rfl

/-- The guard looks at whether the tags are named, not at what they are. -/
theorem guard_withTags {o : UpOptions} {tags : Option (List String)}
    (h : tags.isSome = o.advertiseTags.isSome) (p : Prefs) (hasLoggedIn : Bool) :
    checkAccidentalReverts p (o.withTags tags) hasLoggedIn =
      checkAccidentalReverts p o hasLoggedIn := by
  have hnone : tags.isNone = o.advertiseTags.isNone := by
    rw [← Option.not_isSome, ← Option.not_isSome, h]
  have hmention : (o.withTags tags).mentionsAnyPref = o.mentionsAnyPref := by
    simp only [UpOptions.mentionsAnyPref, UpOptions.withTags, h]
  have harms : revertArms p (o.withTags tags) = revertArms p o := by
    simp only [revertArms, UpOptions.withTags, RevertArm.texts, hnone]
  unfold checkAccidentalReverts
  rw [hmention, harms]

/-- What a patch and a replace of the same prefs have in common. -/
theorem askedPrefs_replace {E : Env} {o : UpOptions} {edit : ExitNodeEdit} {p : Prefs}
    (hreset : o.reset = false) (hmention : o.mentionsAnyPref = true)
    (hguard : dropPolicyPinned (checkAccidentalReverts p o true) (pinnedPrefsIn E.settings) = [])
    (hedit : edit = .override → o.exitNode.isSome = true) :
    askedPrefs E o edit p = askedPrefs E o.withReset edit p := by
  refine Prefs.ext_field fun n => ?_
  have hpatch : Backend.upPrefs o p =
      { o.applyOverrides p with wantRunning := true, loggedOut := false } := by
    unfold Backend.upPrefs
    rw [hreset]
    rfl
  have hreplace : Backend.upPrefs o.withReset p =
      { o.applyOverrides p.resetUpManagedToDefault with
        wantRunning := true, loggedOut := false } := rfl
  unfold askedPrefs
  rw [hpatch, hreplace]
  rcases guard_silent_gap hmention hguard n with hsame | ⟨hmanaged, hnamed, hpin⟩
  · -- the two agree before the policy, so they agree after it
    refine policy_congr ?_ E.settings _
    cases n <;> first | rfl | exact hsame
  · refine policy_pinned hpin ?_ ?_ _ _
    · rintro rfl
      exact absurd hmanaged (by decide)
    · -- an unnamed exit node cannot have been granted an override
      rintro rfl
      rw [decide_eq_false_iff_not]
      intro hover
      have := hedit hover
      simp only [UpOptions.names] at hnamed
      rw [hnamed] at this
      cases this

/-- **The accidental-revert guard is exactly the gap between patch and replace.**  When it reports
    nothing that the policy does not pin, the prefs an accepted `up` leaves behind are the prefs it
    would leave behind with `--reset`, in every field. -/
theorem silent_guard_replaces {E : Env} {b : Backend} {o : UpOptions} {netmap : ExitNodeFacts}
    {tags : Option (List String)} {edit : ExitNodeEdit} (hlogged : b.prefs.hasLoggedIn = true)
    (hreset : o.reset = false) (hmention : o.mentionsAnyPref = true)
    (hguard : dropPolicyPinned (checkAccidentalReverts b.prefs o b.prefs.hasLoggedIn)
      (pinnedPrefsIn E.settings) = [])
    (hcheck : b.checkUp E o netmap = .ok (tags, edit)) :
    (b.upResult E o tags edit).prefs = (b.upResult E o.withReset tags edit).prefs ∧
    ∀ (wif : Option WifCreds) (netmap' : ExitNodeFacts) (io io' : Io) (pending pending' : PendingUp)
      (b₁ b₂ : Backend), b.beginUp E o wif netmap io = (.ok pending, b₁) →
      b.beginUp E o.withReset wif netmap' io' = (.ok pending', b₂) → b₁.prefs = b₂.prefs := by
  obtain ⟨htags, hedit⟩ := Backend.checkUp_verdict hcheck
  have hsome := completeNamedTags_isSome htags
  have hresult : (b.upResult E o tags edit).prefs = (b.upResult E o.withReset tags edit).prefs := by
    rw [Backend.upResult_prefs, Backend.upResult_prefs]
    refine askedPrefs_replace (o := o.withTags tags) hreset ?_ ?_ ?_
    · simpa only [UpOptions.mentionsAnyPref, UpOptions.withTags, hsome] using hmention
    · rw [guard_withTags hsome, ← hlogged]
      exact hguard
    · rintro rfl
      rcases Backend.exitNodeVerdict_cases hedit with ⟨h, -⟩ | ⟨h, -⟩ | ⟨-, v, pinned, hnamed, -⟩
      · cases h
      · cases h
      · rw [UpOptions.withTags, hnamed]
        rfl
  refine ⟨hresult, ?_⟩
  intro wif netmap' io io' pending pending' b₁ b₂ h₁ h₂
  have hpatch : b₁.prefs = (b.upResult E o tags edit).prefs := by
    have hcases := Backend.beginUp_cases E b o wif netmap io
    rw [h₁] at hcases
    cases hcases with
    | begun hcheck' hreauth hconfig hkey hb =>
      rw [hcheck] at hcheck'
      cases hcheck'
      exact hb.prefs
  have hreplace : b₂.prefs = (b.upResult E o.withReset tags edit).prefs := by
    have hcases := Backend.beginUp_cases E b o.withReset wif netmap' io'
    rw [h₂] at hcases
    cases hcases with
    | begun hcheck' hreauth hconfig hkey hb =>
      -- the verdict on the tags and on the exit node is the same with `--reset`
      obtain ⟨htags', hedit'⟩ := Backend.checkUp_verdict hcheck'
      cases htags.symm.trans htags'
      cases hedit.symm.trans hedit'
      exact hb.prefs
  rw [hpatch, hreplace, hresult]

/-- `--accept-routes` on a node that logged in with every other preference at its default. -/
theorem silent_guard_replaces_acceptRoutes :
    ∃ d tags edit, Daemon.replay plainHost [] firstBoot
        [.up {} none none {} {}, .finish 0 (some .running) {}] = some d ∧
      (d.backend.upResult ⟨plainHost, []⟩ { acceptRoutes := some true } tags edit).prefs =
        (d.backend.upResult ⟨plainHost, []⟩
          (UpOptions.withReset { acceptRoutes := some true }) tags edit).prefs := by
  obtain ⟨d, tags, edit, hd, hlogged, hguard, hcheck⟩ : ∃ d tags edit,
      Daemon.replay plainHost [] firstBoot
        [.up {} none none {} {}, .finish 0 (some .running) {}] = some d ∧
      d.backend.prefs.hasLoggedIn = true ∧
      dropPolicyPinned (checkAccidentalReverts d.backend.prefs { acceptRoutes := some true }
        d.backend.prefs.hasLoggedIn) (pinnedPrefsIn (Env.settings ⟨plainHost, []⟩)) = [] ∧
      d.backend.checkUp ⟨plainHost, []⟩ { acceptRoutes := some true } {} = .ok (tags, edit) :=
    ⟨_, _, _, rfl, rfl, rfl, rfl⟩
  exact ⟨d, tags, edit, hd, (silent_guard_replaces hlogged rfl rfl hguard hcheck).1⟩

end Tailnetd
