/-
  What a step does to the prefs in memory.

  A section that edits the prefs first composes the prefs that are asked for (`Asks`) and then gives
  the policy the last word.  Besides, a disconnect and an engine that came up move the three marks
  of the intent and the login, and a reload whose registration key does not resolve stops between
  the merge and the policy.  `step_prefs` says that this is all; `step_profile` says which profile
  the prefs then belong to.
-/
import Tailnetd.Files

namespace Tailnetd

namespace Daemon

/-- The profile a profile operation goes to, and the prefs it finds there. -/
def landing (d : Daemon) : Event → Option (String × Prefs)
  | .switchProfile target io =>
    (resolveTargetToId target (d.backend.disk.loadProfiles io)).map fun id =>
      (id, (d.backend.disk.prefsFile id).getD Prefs.default)
  | .createProfile id _ => some (id, (d.backend.disk.prefsFile id).getD Prefs.default)
  | .switchToEmptyProfile draw io =>
    if !d.backend.prefs.hasLoggedIn then some (d.backend.currentProfile, Prefs.default)
    else
      match unusedProfileId (d.backend.takenProfiles io) draw 256 with
      | .ok (some id) => some (id, Prefs.default)
      | _ => none
  | _ => none

end Daemon

/-- The prefs a section asks for, before the policy has its say. -/
inductive Asks (H : Host) (d : Daemon) : Event → Prefs → Prop
  /-- A `begin_up` section whose checks passed and whose key discard, if any, worked. -/
  | up {e : Event} {origin : Origin} {authkey : Option String} {o : UpOptions}
      {netmap : ExitNodeFacts} {io : Io} {tags : Option (List String)} {edit : ExitNodeEdit}
      (hstart : Starts H d e origin authkey o netmap io)
      (hcheck : d.backend.checkUp (d.env H) o netmap = .ok (tags, edit))
      (hreauth : o.forceReauth = true → io.removeKey = true) :
      Asks H d e (Backend.upPrefs (o.withTags tags) d.backend.prefs)
  | set {o : SetOptions} {netmap : ExitNodeFacts} {io : Io} {tags : Option (List String)}
      {edit : ExitNodeEdit} (hcheck : d.backend.checkSet (d.env H) o netmap = .ok (tags, edit)) :
      Asks H d (.set o netmap io) ((o.withTags tags).applyOverrides d.backend.prefs)
  | reload {document : Except Failure ConfigVAlpha} {contents : Option String} {io : Io}
      {c : ConfigVAlpha} {path : String} (hsource : d.backend.configSource = some (.file path))
      (hdoc : document = .ok c) (hvalid : c.validate H d.backend.prefs = .ok ())
      (hkey : (c.registrationKey contents).isOk = true) :
      Asks H d (.reload document contents io) (c.merge d.backend.prefs)
  | profile {e : Event} {id : String} {p : Prefs} (hlanding : d.landing e = some (id, p))
      (hswitch : d.switches H e = true) : Asks H d e p

/-- What a section leaves in the prefs. -/
inductive PrefsMove (H : Host) (d : Daemon) : Event → Prefs → Prop
  | kept {e : Event} : PrefsMove H d e d.backend.prefs
  /-- A disconnect, or an engine that came up. -/
  | marked {e : Event} (w l h : Bool) : PrefsMove H d e
      { d.backend.prefs with wantRunning := w, loggedOut := l, hasLoggedIn := h }
  /-- A reload whose registration key did not resolve. -/
  | merged {document : Except Failure ConfigVAlpha} {contents : Option String} {io : Io}
      {c : ConfigVAlpha} {path : String} (hsource : d.backend.configSource = some (.file path))
      (hdoc : document = .ok c) (hvalid : c.validate H d.backend.prefs = .ok ())
      (hkey : (c.registrationKey contents).isOk = false) :
      PrefsMove H d (.reload document contents io) (c.merge d.backend.prefs)
  | asked {e : Event} {p : Prefs} (hasks : Asks H d e p) (o : PolicyOverrides) :
      PrefsMove H d e (applySettingsToPrefs (d.env H).settings p o).1

namespace Daemon

/-! ## Profile operations -/

/-- Where a profile operation goes when it changes the profile, and that it moves neither the prefs
    nor the profile otherwise. -/
def Lands (H : Host) (d : Daemon) (e : Event) (b' : Backend) : Prop :=
  (d.switches H e = true ∧ ∃ id p, d.landing e = some (id, p) ∧ b'.currentProfile = id ∧
    b'.prefs = (applySettingsToPrefs (d.env H).settings p {}).1) ∨
  (d.switches H e = false ∧ b'.currentProfile = d.backend.currentProfile ∧
    b'.prefs = d.backend.prefs)

/-- An activation lands on its target, with the prefs found there. -/
theorem activateProfile_lands {H : Host} {d : Daemon} {e : Event} {b : Backend} {target : String}
    {register : Bool} {io : Io} {p : Prefs} (hb : DiskOnly d.backend b)
    (hlanding : d.landing e = some (target, p))
    (hp : p = (b.disk.prefsFile target).getD Prefs.default)
    (hswitch : d.switches H e =
      switched (b.activateProfile (d.env H) target register io).1) :
    d.Lands H e (b.activateProfile (d.env H) target register io).2 := by
  rcases Backend.activateProfile_outcomes (d.env H) b target register io with ⟨-, hres⟩ |
    ⟨-, f, profiles, hres⟩ | ⟨-, state, profiles, hres⟩ <;> rw [hres] at hswitch ⊢
  · exact .inr ⟨hswitch, hb.profile, hb.prefs⟩
  · exact .inr ⟨hswitch, hb.profile, hb.prefs⟩
  · subst hp
    exact .inl ⟨hswitch, target, _, hlanding, rfl, rfl⟩

/-- The files of a fresh id are gone before it is activated. -/
theorem removed_prefsFile {b : Backend} {id : String} {io : Io}
    (h : (b.removeProfileFiles id io).1 = .ok ()) :
    (b.removeProfileFiles id io).2.disk.prefsFile id = none ∧
      (b.removeProfileFiles id io).2.disk.keyFile id = none := by
  rcases Backend.removeProfileFiles_outcomes b id io with ⟨f, hrm⟩ | ⟨f, hrm⟩ | hrm <;> rw [hrm] at h ⊢
  · cases h
  · cases h
  · exact ⟨Function.update_self _ _ _, Function.update_self _ _ _⟩

/-- **Where the profile operations go.** -/
theorem changeProfile_lands {H : Host} {d d' : Daemon} {e : Event} (he : e.changesProfile = true)
    (hstep : step H d e = some d') : d.Lands H e d'.backend := by
  cases e with
  | switchProfile target io =>
    cases hstep
    rw [changeProfile_backend]
    have hswitch : d.switches H (.switchProfile target io) =
        switched (d.backend.switchProfile (d.env H) target io).1 := rfl
    rcases Backend.switchProfile_outcomes (d.env H) d.backend target io with ⟨f, hres⟩ |
      ⟨id, hresolved, -, hres⟩ <;> rw [hres] at hswitch ⊢
    · exact .inr ⟨hswitch, rfl, rfl⟩
    · refine activateProfile_lands (.refl _) ?_ rfl hswitch
      dsimp only [landing]
      rw [hresolved]
      rfl
  | createProfile id io =>
    cases hstep
    rw [changeProfile_backend]
    have hswitch : d.switches H (.createProfile id io) =
        switched (d.backend.createProfile (d.env H) id io).1 := rfl
    rcases Backend.createProfile_outcomes (d.env H) d.backend id io with ⟨f, hres⟩ |
      ⟨-, -, hres⟩ <;> rw [hres] at hswitch ⊢
    · exact .inr ⟨hswitch, rfl, rfl⟩
    · exact activateProfile_lands (.refl _) rfl rfl hswitch
  | switchToEmptyProfile draw io =>
    cases hstep
    rw [changeProfile_backend]
    have hswitch : d.switches H (.switchToEmptyProfile draw io) =
        switched (d.backend.switchToEmptyProfile (d.env H) draw io).1 := rfl
    rcases Backend.switchToEmptyProfile_outcomes (d.env H) d.backend draw io with ⟨hnew, hres⟩ |
      ⟨f, hres⟩ | ⟨id, hlogin, hdraw, -, -, -, -, ⟨f, hres⟩ | ⟨hremoved, hres⟩⟩
    · -- a profile that never logged in is emptied in place
      rw [hres] at hswitch ⊢
      rcases Backend.resetToEmptyProfile_outcomes (d.env H) d.backend io with hreset |
        ⟨f, profiles, hreset⟩ | ⟨state, profiles, hreset⟩ <;> rw [hreset] at hswitch ⊢
      · exact .inr ⟨hswitch, rfl, rfl⟩
      · exact .inr ⟨hswitch, rfl, rfl⟩
      · refine .inl ⟨hswitch, d.backend.currentProfile, Prefs.default, ?_, rfl, rfl⟩
        dsimp only [landing]
        rw [hnew]
        rfl
    · rw [hres] at hswitch ⊢
      exact .inr ⟨hswitch, rfl, rfl⟩
    · rw [hres] at hswitch ⊢
      have hb := Backend.removeProfileFiles_diskOnly d.backend id io
      exact .inr ⟨hswitch, hb.profile, hb.prefs⟩
    · rw [hres] at hswitch ⊢
      refine activateProfile_lands (p := Prefs.default)
        (Backend.removeProfileFiles_diskOnly d.backend id io) ?_ ?_ hswitch
      · dsimp only [landing]
        rw [hlogin, hdraw]
        rfl
      · rw [(removed_prefsFile hremoved).1]
        rfl
  | _ => cases he

end Daemon

/-! ## Every step -/

/-- A backend that differs on the disk only. -/
theorem PrefsMove.of_diskOnly {H : Host} {d : Daemon} {e : Event} {b b' : Backend}
    (hb : DiskOnly b b') (h : PrefsMove H d e b.prefs) : PrefsMove H d e b'.prefs := by
  rw [hb.prefs]
  exact h

/-- A `begin_up` section that passed its checks. -/
theorem UpShift.prefsMove {H : Host} {d d' : Daemon} {e : Event} {origin : Origin}
    {authkey : Option String} {o : UpOptions} {netmap : ExitNodeFacts} {io : Io} {ts : List Task}
    (hstart : Starts H d e origin authkey o netmap io)
    (h : UpShift H d origin authkey o netmap io ts d') : PrefsMove H d e d'.backend.prefs := by
  have hasked {tags : Option (List String)} {edit : ExitNodeEdit}
      (hcheck : d.backend.checkUp (d.env H) o netmap = .ok (tags, edit))
      (hreauth : o.forceReauth = true → io.removeKey = true) :
      PrefsMove H d e (d.backend.upResult (d.env H) o tags edit).prefs := by
    rw [Backend.upResult, Backend.applyUp_eq]
    exact .asked (.up hstart hcheck hreauth) _
  cases h with
  | keyKept hforce hremove => exact .kept
  | failed hcheck hfail hb hreauth => exact .of_diskOnly hb (hasked hcheck hreauth)
  | begun hcheck hconfig hkey hb hreauth => exact .of_diskOnly hb (hasked hcheck hreauth)

/-- **What a step leaves in the prefs**: what it found there, but for the marks of the intent and
    the login; a merged document whose key did not resolve; or what a section asked for, under the
    policy. -/
theorem step_prefs {H : Host} {d d' : Daemon} {e : Event} (hstep : Daemon.step H d e = some d') :
    PrefsMove H d e d'.backend.prefs := by
  by_cases hchange : e.changesProfile = true
  · rcases Daemon.changeProfile_lands hchange hstep with ⟨hswitch, id, p, hlanding, -, hprefs⟩ |
      ⟨-, -, hprefs⟩
    · exact hprefs ▸ .asked (.profile hlanding hswitch) {}
    · exact hprefs ▸ .kept
  · have hset {o : SetOptions} {netmap : ExitNodeFacts} {io : Io} {tags : Option (List String)}
        {edit : ExitNodeEdit}
        (hcheck : d.backend.checkSet (d.env H) o netmap = .ok (tags, edit)) :
        PrefsMove H d (.set o netmap io) (d.backend.setResult (d.env H) o tags edit).prefs := by
      rw [Backend.setResult, Backend.applySet_eq]
      exact .asked (.set hcheck) _
    cases step_shift hstep with
    | kept he hb hts hh hr => exact .of_diskOnly hb .kept
    | preflightFailed hfail hb hts hh => exact .of_diskOnly hb .kept
    | preflightPassed hcause hb hts hh => exact .of_diskOnly hb .kept
    | rebuildRefused hcheck hts hh => exact .kept
    | started hstart hts hh hup => exact hup.prefsMove hstart
    | installed hgen hb hts hr hpre hh =>
      exact .of_diskOnly hb (.marked d.backend.prefs.wantRunning d.backend.prefs.loggedOut true)
    | handedBack hgen hb hts hr hpre hh => exact .of_diskOnly hb .kept
    | buildFailed hb hts hr hpre hh => exact .of_diskOnly hb .kept
    | setFailed hcheck hfail hb => exact .of_diskOnly hb (hset hcheck)
    | setPersisted hcheck hdev hb => exact .of_diskOnly hb (hset hcheck)
    | setRebuild hcheck hdev hneeds hb => exact .of_diskOnly hb (hset hcheck)
    | setLive hcheck hdev hneeds hb => exact .of_diskOnly hb (hset hcheck)
    | reloadKeyFailed hsource hdoc hvalid hkey =>
      refine .merged hsource hdoc hvalid ?_
      rw [hkey]
      rfl
    | reloadFailed hsource hdoc hvalid hfail hb hkey =>
      exact .of_diskOnly hb (.asked (.reload hsource hdoc hvalid hkey) _)
    | reloadApplied hsource hdoc hvalid howed hb hkey =>
      exact .of_diskOnly hb (.asked (.reload hsource hdoc hvalid hkey) _)
    | down he hmark hb hts hh =>
      refine .of_diskOnly hb ?_
      rw [Backend.downResult_eq]
      exact .marked false d.backend.prefs.loggedOut d.backend.prefs.hasLoggedIn
    | logout hmark hb =>
      refine .of_diskOnly hb ?_
      rw [Backend.logoutResult_eq]
      exact .marked false true false
    | tornDown he hb => exact .of_diskOnly hb .kept
    | profileActivated he hne hb hswitch => exact absurd he hchange
    | profileEmptied he hb hswitch => exact absurd he hchange
    | policyMoved => exact .kept
    | policyTick =>
      rw [Backend.exitNodePolicyChanged_eq, Backend.sysPolicyChanged_eq]
      exact .kept
    | timerDropped => exact .kept
    | timerClaimed harmed hprofile => exact .kept
    | retried hretry => exact .kept
    | resumeKeyed htask hkey hts hh hr => exact .kept
    | engine => exact .kept

/-- Only a profile operation changes the profile. -/
theorem switches_eq_false {H : Host} {d : Daemon} {e : Event} (h : e.changesProfile = false) :
    d.switches H e = false := by
  cases e with
  | switchProfile => cases h
  | createProfile => cases h
  | switchToEmptyProfile => cases h
  | _ => rfl

/-- **Which profile a step leaves current**: the one a successful profile operation goes to, else
    the one it found. -/
theorem step_profile {H : Host} {d d' : Daemon} {e : Event} (hstep : Daemon.step H d e = some d') :
    (d.switches H e = true ∧ ∃ id p, d.landing e = some (id, p) ∧ d'.backend.currentProfile = id ∧
      d'.backend.prefs = (applySettingsToPrefs (d.env H).settings p {}).1) ∨
    (d.switches H e = false ∧ d'.backend.currentProfile = d.backend.currentProfile) := by
  by_cases hchange : e.changesProfile = true
  · rcases Daemon.changeProfile_lands hchange hstep with hlands | ⟨hswitch, hprofile, -⟩
    · exact .inl hlands
    · exact .inr ⟨hswitch, hprofile⟩
  · rw [Bool.not_eq_true] at hchange
    refine .inr ⟨switches_eq_false hchange, ?_⟩
    by_cases hdelete : ∃ target io, e = .deleteProfile target io
    · obtain ⟨target, io, rfl⟩ := hdelete
      cases hstep
      exact (Backend.deleteProfile_diskOnly d.backend target io).profile
    · exact (Daemon.step_ownFiles hchange (fun target io heq => hdelete ⟨target, io, heq⟩)
        hstep).profile

/-! ## The start of the process -/

/-- The prefs on the disk of the profile a boot starts on. -/
def Daemon.BootInput.stored (s : Daemon.BootInput) : Prefs :=
  (s.disk.prefsFile (loadCurrentProfile (s.disk.readPointer s.loadIo))).getD Prefs.default

/-- The prefs a boot asks for: the stored ones, or a valid document merged into them. -/
inductive BootAsks (H : Host) (policy : List PolicySource) (s : Daemon.BootInput) : Prefs → Prop
  | stored (hconfig : s.config = none) : BootAsks H policy s s.stored
  | config {source : ConfigSource} {document : ConfigVAlpha} {contents : Option String}
      (hconfig : s.config = some (source, document, contents))
      (hvalid : document.validate H
        (applySettingsToPrefs (mergeSources policy) s.stored {}).1 = .ok ()) :
      BootAsks H policy s
        (document.merge (applySettingsToPrefs (mergeSources policy) s.stored {}).1)

/-- The same prefs but for the TUN launch flag. -/
def SameButTun (p q : Prefs) : Prop :=
  ∃ enabled name, q = { p with tunEnabled := enabled, tunName := name }

theorem SameButTun.refl (p : Prefs) : SameButTun p p := ⟨p.tunEnabled, p.tunName, rfl⟩

theorem SameButTun.symm {p q : Prefs} (h : SameButTun p q) : SameButTun q p := by
  obtain ⟨enabled, name, rfl⟩ := h
  exact ⟨p.tunEnabled, p.tunName, rfl⟩

theorem bootConfig_prefs {H : Host} {policy : List PolicySource} {s : Daemon.BootInput}
    {b b' : Backend} {key : Option String} (hload : Backend.load ⟨H, policy⟩ s.disk s.loadIo = .ok b)
    (h : Daemon.bootConfig ⟨H, policy⟩ { b with listenPort := s.listenPort } s = (.ok key, b')) :
    ∃ p, BootAsks H policy s p ∧ b'.prefs = (applySettingsToPrefs (mergeSources policy) p {}).1 := by
  have hprefs : b.prefs = (applySettingsToPrefs (mergeSources policy) s.stored {}).1 :=
    (Backend.load_eq hload).2.2.1
  rcases Daemon.bootConfig_cases h with ⟨hnone, rfl⟩ |
    ⟨source, document, contents, b₁, hdocument, happly, rfl⟩
  · exact ⟨s.stored, .stored hnone, hprefs⟩
  · obtain ⟨hvalid, -, hb⟩ := Backend.applyConfig_ok happly
    have hasks : BootAsks H policy s (document.merge b.prefs) := by
      rw [hprefs]
      exact .config hdocument (hprefs ▸ hvalid)
    refine ⟨document.merge b.prefs, hasks, hb.prefs.trans ?_⟩
    obtain ⟨halways, hexit⟩ := Backend.load_overrides hload
    unfold Backend.configured Backend.adoptPrefs Backend.reconcileSysPolicy
    dsimp only
    rw [halways, hexit]
    rfl

theorem bootTun_prefs {b b' : Backend} {s : Daemon.BootInput} {changed : Bool}
    (h : Daemon.bootTun b s = (.ok changed, b')) : SameButTun b.prefs b'.prefs := by
  rcases Daemon.bootTun_cases h with rfl | ⟨enabled, name, rfl⟩
  · exact .refl _
  · exact ⟨enabled, name, (Backend.persistPrefs_diskOnly _ s.tunIo).prefs⟩

/-- **What the start of the process leaves in the prefs**: what it asked for, under the policy, and
    the launch flag. -/
theorem loaded_prefs {H : Host} {policy : List PolicySource} {s : Daemon.BootInput}
    {key : Option String} {d : Daemon} (h : Daemon.loaded H policy s = .ok (key, d)) :
    ∃ p, BootAsks H policy s p ∧
      SameButTun (applySettingsToPrefs (mergeSources policy) p {}).1 d.backend.prefs := by
  obtain ⟨b, b₁, changed, b₂, hload, hconfig, htun, rfl⟩ := Daemon.loaded_cases h
  obtain ⟨p, hasks, hprefs⟩ := bootConfig_prefs hload hconfig
  refine ⟨p, hasks, ?_⟩
  rw [← hprefs]
  exact bootTun_prefs htun

theorem loaded_policy {H : Host} {policy : List PolicySource} {s : Daemon.BootInput}
    {key : Option String} {d : Daemon} (h : Daemon.loaded H policy s = .ok (key, d)) :
    d.policy = policy := by
  obtain ⟨b, b₁, changed, b₂, -, -, -, rfl⟩ := Daemon.loaded_cases h
  rfl

/-- What a `begin_up` section of any origin leaves in the prefs. -/
theorem beginUp_prefs (E : Env) (b : Backend) (o : UpOptions) (wif : Option WifCreds)
    (netmap : ExitNodeFacts) (io : Io) :
    (b.beginUp E o wif netmap io).2.prefs = b.prefs ∨
    ∃ tags edit overrides, b.checkUp E o netmap = .ok (tags, edit) ∧
      (b.beginUp E o wif netmap io).2.prefs =
        (applySettingsToPrefs E.settings (Backend.upPrefs (o.withTags tags) b.prefs) overrides).1 := by
  have hcases := Backend.beginUp_cases E b o wif netmap io
  generalize b.beginUp E o wif netmap io = out at hcases ⊢
  have hasked {tags : Option (List String)} {edit : ExitNodeEdit} {b' : Backend}
      (hcheck : b.checkUp E o netmap = .ok (tags, edit))
      (hb : b'.prefs = (b.upResult E o tags edit).prefs) :
      ∃ tags edit overrides, b.checkUp E o netmap = .ok (tags, edit) ∧ b'.prefs =
        (applySettingsToPrefs E.settings (Backend.upPrefs (o.withTags tags) b.prefs) overrides).1 := by
    refine ⟨tags, edit, { exitNode := decide (edit = .override) }, hcheck, ?_⟩
    rw [hb, Backend.upResult, Backend.applyUp_eq]
    rfl
  cases hcases with
  | refused hcheck => exact .inl rfl
  | keyKept hreauth hforce hremove => exact .inl rfl
  | failed hcheck hreauth hfail hb => exact .inr (hasked hcheck hb.prefs)
  | begun hcheck hreauth hconfig hkey hb => exact .inr (hasked hcheck hb.prefs)

end Tailnetd
