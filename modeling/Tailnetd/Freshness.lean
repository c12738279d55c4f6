/-
  How empty a new profile is.

  Ids are reused: a removed one can be created again, and `switch_to_empty_profile` draws from the
  ids that are free.  A removal takes the prefs file and the key file of its id, nothing writes
  either while another profile is current, and an activation reads exactly these two, so the id
  comes back with default prefs and without a node key.  The reset in place empties the prefs of a
  profile that never logged in, and keeps its node key: the login that follows discards it before it
  registers.

  A third file, the serve config, belongs to the profile too.  No profile operation removes it.
-/
import Tailnetd.PrefsMoves
import Tailnetd.ProfileFiles
import Tailnetd.Serving

namespace Tailnetd

open Machine

/-- The profile has neither prefs nor a key on the disk. -/
def NoFiles (b : Backend) (id : String) : Prop :=
  b.disk.prefsFile id = none ∧ b.disk.keyFile id = none

/-- The current profile is as a new one: default prefs under the policy, and no node key. -/
structure StartsEmpty (settings : List PolicySetting) (b : Backend) : Prop where
  prefs : b.prefs = (applySettingsToPrefs settings Prefs.default {}).1
  everConfigured : b.everConfigured = false
  hasNodeKey : b.hasNodeKey = false
  noFiles : NoFiles b b.currentProfile

theorem SameFiles.noFiles {b b' : Backend} {id : String} (h : SameFiles b b' id) (hb : NoFiles b id) :
    NoFiles b' id :=
  ⟨h.1.trans hb.1, h.2.trans hb.2⟩

theorem OwnFiles.noFiles {b b' : Backend} {id : String} (h : OwnFiles b b')
    (hid : id ≠ b.currentProfile) (hb : NoFiles b id) : NoFiles b' id :=
  ⟨(h.prefsFiles id hid).trans hb.1, (h.keyFiles id hid).trans hb.2⟩

namespace Backend

/-! ## What the operations leave -/

/-- A removal brings no file back. -/
theorem removeProfileFiles_noFiles {b : Backend} {id : String} (gone : String) (io : Io)
    (h : NoFiles b id) : NoFiles (b.removeProfileFiles gone io).2 id := by
  by_cases heq : id = gone
  · subst heq
    rcases removeProfileFiles_outcomes b id io with ⟨f, hrm⟩ | ⟨f, hrm⟩ | hrm <;> rw [hrm]
    · exact h
    · exact ⟨Function.update_self _ _ _, h.2⟩
    · exact ⟨Function.update_self _ _ _, Function.update_self _ _ _⟩
  · exact (removeProfileFiles_files b heq io).noFiles h

/-- A profile that is reported removed was another one, and has no file left. -/
theorem deleteProfile_removed {b : Backend} {target id : String} {io : Io}
    (h : (b.deleteProfile target io).1 = .ok (.removed id)) :
    id ≠ b.currentProfile ∧ (b.deleteProfile target io).2.currentProfile = b.currentProfile ∧
      NoFiles (b.deleteProfile target io).2 id := by
  rcases deleteProfile_outcomes b target io with ⟨-, hnot⟩ |
    ⟨gone, -, hcur, -, ⟨f, hres⟩ | ⟨hremoved, result, profiles, hgone, hres⟩⟩
  · exact absurd h (hnot id)
  · rw [hres] at h
    cases h
  · rw [hres] at h ⊢
    obtain rfl := hgone id h
    exact ⟨hcur, (removeProfileFiles_current hcur io).1, Daemon.removed_prefsFile hremoved⟩

/-- An activation that gets through reads the prefs file and the key file of its target, and nothing
    else of it. -/
theorem activateProfile_startsEmpty {E : Env} {b : Backend} {target id : String} {register : Bool}
    {io : Io} {state : State}
    (h : (b.activateProfile E target register io).1 = .ok (.switched id state)) :
    id = target ∧ (b.activateProfile E target register io).2.currentProfile = target ∧
      (NoFiles b target → StartsEmpty E.settings (b.activateProfile E target register io).2) := by
  rcases activateProfile_outcomes E b target register io with ⟨-, hres⟩ | ⟨-, f, profiles, hres⟩ |
    ⟨-, state, profiles, hres⟩ <;> rw [hres] at h ⊢
  · cases h
  · cases h
  · cases h
    refine ⟨rfl, rfl, fun hnone => ⟨?_, ?_, ?_, hnone⟩⟩
    · show (applySettingsToPrefs E.settings ((b.disk.prefsFile target).getD Prefs.default) {}).1 = _
      rw [hnone.1]
      rfl
    · show (io.statPrefs && (b.disk.prefsFile target).isSome) = false
      rw [hnone.1, Option.isSome_none, Bool.and_false]
    · show (io.readKey && keyFileHasNodeKey (b.disk.keyFile target)) = false
      rw [hnone.2]
      exact Bool.and_false _

/-- **The move to a fresh id**: its files are removed first, so it starts empty. -/
theorem switchToEmptyProfile_fresh {E : Env} {b : Backend} {draw : Nat → Option (UInt8 × UInt8)}
    {io : Io} {id : String} {state : State} (hlogin : b.prefs.hasLoggedIn = true)
    (h : (b.switchToEmptyProfile E draw io).1 = .ok (.switched id state)) :
    id ≠ b.currentProfile ∧ (b.switchToEmptyProfile E draw io).2.currentProfile = id ∧
      StartsEmpty E.settings (b.switchToEmptyProfile E draw io).2 := by
  rcases switchToEmptyProfile_outcomes E b draw io with ⟨hnew, -⟩ | ⟨f, hres⟩ |
    ⟨fresh, -, -, -, -, hcur, -, ⟨f, hres⟩ | ⟨hremoved, hres⟩⟩
  · rw [hlogin] at hnew
    cases hnew
  · rw [hres] at h
    cases h
  · rw [hres] at h
    cases h
  · rw [hres] at h ⊢
    obtain ⟨rfl, hid, hempty⟩ := activateProfile_startsEmpty h
    exact ⟨hcur, hid, hempty (Daemon.removed_prefsFile hremoved)⟩

/-- **The reset in place**: default prefs and no prefs file, with the node key kept. -/
theorem switchToEmptyProfile_emptied {E : Env} {b : Backend} {draw : Nat → Option (UInt8 × UInt8)}
    {io : Io} {id : String} {state : State} (hnew : b.prefs.hasLoggedIn = false)
    (h : (b.switchToEmptyProfile E draw io).1 = .ok (.switched id state)) :
    (b.switchToEmptyProfile E draw io).2.currentProfile = b.currentProfile ∧
      (b.switchToEmptyProfile E draw io).2.prefs =
        (applySettingsToPrefs E.settings Prefs.default {}).1 ∧
      (b.switchToEmptyProfile E draw io).2.everConfigured = false ∧
      (b.switchToEmptyProfile E draw io).2.prefsFile = none ∧
      (b.switchToEmptyProfile E draw io).2.hasNodeKey = b.hasNodeKey ∧
      (b.switchToEmptyProfile E draw io).2.keyFile = b.keyFile := by
  rcases switchToEmptyProfile_outcomes E b draw io with ⟨-, hres⟩ | ⟨f, hres⟩ | ⟨id, hlogin, -⟩
  · rw [hres] at h ⊢
    have hedits := resetToEmptyProfile_edits E b io
    refine ⟨hedits.profile, ?_, ?_, ?_, hedits.cache, hedits.keyFile⟩
    all_goals
      rcases resetToEmptyProfile_outcomes E b io with hreset | ⟨f, profiles, hreset⟩ |
        ⟨state, profiles, hreset⟩ <;> rw [hreset] at h ⊢
    · cases h
    · cases h
    · rfl
    · cases h
    · cases h
    · rfl
    · cases h
    · cases h
    · exact Function.update_self _ _ _
  · rw [hres] at h
    cases h
  · rw [hnew] at hlogin
    cases hlogin

end Backend

/-! ## Runs -/

/-- **No step brings back a file of a profile that is not current.** -/
theorem step_noFiles {H : Host} {d d' : Daemon} {e : Event} {id : String}
    (hid : id ≠ d.backend.currentProfile) (h : NoFiles d.backend id)
    (hstep : Daemon.step H d e = some d') : NoFiles d'.backend id := by
  have hactivate {b : Backend} (target : String) (register : Bool) (io : Io) (hb : NoFiles b id) :
      NoFiles (b.activateProfile (d.env H) target register io).2 id :=
    (Backend.activateProfile_files (d.env H) b target register io id).noFiles hb
  by_cases hother : e.changesProfile = false ∧ ∀ target io, e ≠ .deleteProfile target io
  · exact (Daemon.step_ownFiles hother.1 hother.2 hstep).noFiles hid h
  · cases e with
    | switchProfile target io =>
      cases hstep
      rw [Daemon.changeProfile_backend]
      rcases Backend.switchProfile_outcomes (d.env H) d.backend target io with ⟨f, hres⟩ |
        ⟨id', -, -, hres⟩ <;> rw [hres]
      · exact h
      · exact hactivate id' true io h
    | createProfile id' io =>
      cases hstep
      rw [Daemon.changeProfile_backend]
      rcases Backend.createProfile_outcomes (d.env H) d.backend id' io with ⟨f, hres⟩ |
        ⟨-, -, hres⟩ <;> rw [hres]
      · exact h
      · exact hactivate id' true io h
    | switchToEmptyProfile draw io =>
      cases hstep
      rw [Daemon.changeProfile_backend]
      rcases Backend.switchToEmptyProfile_outcomes (d.env H) d.backend draw io with ⟨-, hres⟩ |
        ⟨f, hres⟩ | ⟨fresh, -, -, -, -, -, -, ⟨f, hres⟩ | ⟨-, hres⟩⟩ <;> rw [hres]
      · exact (Backend.resetToEmptyProfile_edits (d.env H) d.backend io).ownFiles.noFiles hid h
      · exact h
      · exact Backend.removeProfileFiles_noFiles fresh io h
      · exact hactivate fresh false io (Backend.removeProfileFiles_noFiles fresh io h)
    | deleteProfile target io =>
      cases hstep
      rcases Backend.deleteProfile_outcomes d.backend target io with ⟨hsame, -⟩ |
        ⟨gone, -, -, -, ⟨f, hres⟩ | ⟨-, result, profiles, -, hres⟩⟩
      · rw [hsame]
        exact h
      · rw [hres]
        exact Backend.removeProfileFiles_noFiles gone io h
      · rw [hres]
        exact Backend.removeProfileFiles_noFiles gone io h
    | _ => exact absurd ⟨rfl, fun _ _ => by simp⟩ hother

/-- **A profile without files comes back empty**: the step that makes it current leaves default
    prefs and no node key. -/
theorem step_startsEmpty {H : Host} {d d' : Daemon} {e : Event} {id : String}
    (hid : id ≠ d.backend.currentProfile) (h : NoFiles d.backend id)
    (hstep : Daemon.step H d e = some d') (hcur : d'.backend.currentProfile = id) :
    StartsEmpty (d.env H).settings d'.backend := by
  rcases step_profile hstep with ⟨hswitch, -⟩ | ⟨-, hstays⟩
  · have hfound {b : Backend} {target : String} {register : Bool} {io : Io}
        (hswitched : Daemon.switched (b.activateProfile (d.env H) target register io).1 = true)
        (hat : (b.activateProfile (d.env H) target register io).2.currentProfile = id)
        (hb : NoFiles b id) :
        StartsEmpty (d.env H).settings (b.activateProfile (d.env H) target register io).2 := by
      obtain ⟨id', state, hdone⟩ := Daemon.switched_ok hswitched
      obtain ⟨-, htarget, hempty⟩ := Backend.activateProfile_startsEmpty hdone
      exact hempty (htarget ▸ hat ▸ hb)
    cases e with
    | switchProfile target io =>
      cases hstep
      rw [Daemon.changeProfile_backend] at hcur ⊢
      dsimp only [Daemon.switches] at hswitch
      rcases Backend.switchProfile_outcomes (d.env H) d.backend target io with ⟨f, hres⟩ |
        ⟨id', -, -, hres⟩ <;> rw [hres] at hswitch hcur ⊢
      · cases hswitch
      · exact hfound hswitch hcur h
    | createProfile id' io =>
      cases hstep
      rw [Daemon.changeProfile_backend] at hcur ⊢
      dsimp only [Daemon.switches] at hswitch
      rcases Backend.createProfile_outcomes (d.env H) d.backend id' io with ⟨f, hres⟩ |
        ⟨-, -, hres⟩ <;> rw [hres] at hswitch hcur ⊢
      · cases hswitch
      · exact hfound hswitch hcur h
    | switchToEmptyProfile draw io =>
      cases hstep
      rw [Daemon.changeProfile_backend] at hcur ⊢
      obtain ⟨id', state, hdone⟩ := Daemon.switched_ok hswitch
      cases hlogin : d.backend.prefs.hasLoggedIn with
      | true => exact (Backend.switchToEmptyProfile_fresh hlogin hdone).2.2
      | false =>
        -- a reset stays on the current profile
        have hsame := (Backend.switchToEmptyProfile_emptied hlogin hdone).1
        exact absurd (hcur.symm.trans hsame) hid
    | _ => cases hswitch
  · exact absurd (hcur.symm.trans hstays) hid

/-- **How empty a profile starts.**  A removed profile whose id becomes current again, however much
    later, starts with default prefs under the policy, no node key and neither file; so does a fresh
    id at once.  The reset in place leaves default prefs and no prefs file, and keeps the node
    key. -/
theorem emptied_profiles_start_empty {H : Host} (d : Daemon) :
    (∀ target io id d₁ es d₂ e d', (d.backend.deleteProfile target io).1 = .ok (.removed id) →
      Daemon.step H d (.deleteProfile target io) = some d₁ →
      Run (Daemon.step H) (fun d _ => d.backend.currentProfile ≠ id) d₁ es d₂ →
      d₂.backend.currentProfile ≠ id → Daemon.step H d₂ e = some d' →
      d'.backend.currentProfile = id → StartsEmpty (d₂.env H).settings d'.backend) ∧
    (∀ draw io id state, d.backend.prefs.hasLoggedIn = true →
      (d.backend.switchToEmptyProfile (d.env H) draw io).1 = .ok (.switched id state) →
      id ≠ d.backend.currentProfile ∧
        (d.backend.switchToEmptyProfile (d.env H) draw io).2.currentProfile = id ∧
        StartsEmpty (d.env H).settings
          (d.backend.switchToEmptyProfile (d.env H) draw io).2) ∧
    (∀ draw io id state, d.backend.prefs.hasLoggedIn = false →
      (d.backend.switchToEmptyProfile (d.env H) draw io).1 = .ok (.switched id state) →
      (d.backend.switchToEmptyProfile (d.env H) draw io).2.currentProfile =
          d.backend.currentProfile ∧
        (d.backend.switchToEmptyProfile (d.env H) draw io).2.prefs =
          (applySettingsToPrefs (d.env H).settings Prefs.default {}).1 ∧
        (d.backend.switchToEmptyProfile (d.env H) draw io).2.everConfigured = false ∧
        (d.backend.switchToEmptyProfile (d.env H) draw io).2.prefsFile = none ∧
        (d.backend.switchToEmptyProfile (d.env H) draw io).2.hasNodeKey = d.backend.hasNodeKey ∧
        (d.backend.switchToEmptyProfile (d.env H) draw io).2.keyFile = d.backend.keyFile) := by
  refine ⟨?_, ?_, ?_⟩
  · intro target io id d₁ es d₂ e d' hremoved hdelete hrun hother hstep hcur
    obtain ⟨-, -, hgone⟩ := Backend.deleteProfile_removed hremoved
    cases hdelete
    have hnone : NoFiles d₂.backend id := hrun.invariant (P := fun d => NoFiles d.backend id)
      (fun _ _ _ h hne hstep => step_noFiles (Ne.symm hne) h hstep) hgone
    exact step_startsEmpty (Ne.symm hother) hnone hstep hcur
  · intro draw io id state hlogin hdone
    exact Backend.switchToEmptyProfile_fresh hlogin hdone
  · intro draw io id state hnew hdone
    exact Backend.switchToEmptyProfile_emptied hnew hdone

/-- A second profile is created and configured, and left again. -/
def configureAndLeave : List Event :=
  [.createProfile "work" {}, .set { hostname := some "laptop" } {} {}, .switchProfile "default" {}]

/-- The second profile is removed and created again. -/
theorem emptied_profiles_start_empty_work :
    ∃ d₀ d d₁ d', Daemon.boot plainHost [] firstBoot = .ok d₀ ∧
      follow (Daemon.step plainHost) d₀ configureAndLeave = some d ∧
      (d.backend.disk.prefsFile "work").isSome = true ∧
      Daemon.step plainHost d (.deleteProfile "work" {}) = some d₁ ∧
      Daemon.step plainHost d₁ (.createProfile "work" {}) = some d' ∧
      d'.backend.currentProfile = "work" ∧
      StartsEmpty (d₁.env plainHost).settings d'.backend := by
  obtain ⟨d₀, d, d₁, d', hboot, hrun, hfile, hremoved, hdelete, hother, hcreate, hcur⟩ :
      ∃ d₀ d d₁ d', Daemon.boot plainHost [] firstBoot = .ok d₀ ∧
        follow (Daemon.step plainHost) d₀ configureAndLeave = some d ∧
        (d.backend.disk.prefsFile "work").isSome = true ∧
        (d.backend.deleteProfile "work" {}).1 = .ok (.removed "work") ∧
        Daemon.step plainHost d (.deleteProfile "work" {}) = some d₁ ∧
        d₁.backend.currentProfile = "default" ∧
        Daemon.step plainHost d₁ (.createProfile "work" {}) = some d' ∧
        d'.backend.currentProfile = "work" :=
    ⟨_, _, _, _, rfl, rfl, rfl, rfl, rfl, rfl, rfl, rfl⟩
  have hne : d₁.backend.currentProfile ≠ "work" := by
    rw [hother]
    decide
  exact ⟨d₀, d, d₁, d', hboot, hrun, hfile, hdelete, hcreate, hcur,
    (emptied_profiles_start_empty d).1 "work" {} "work" d₁ [] d₁ _ d' hremoved hdelete (.nil d₁) hne
      hcreate hcur⟩

/-- A second profile comes up and publishes a port, and is left again. -/
def publishAndLeave : List ServeEvent :=
  .daemon (.createProfile "work" {}) :: publishes ++ [.daemon (.switchProfile "default" {})]

/-- **What is not empty**: a reset in place leaves the node key of an unfinished login, and the
    serve config of a removed profile is there when its id is created again. -/
theorem reset_keeps_node_key :
    (¬ ∀ d : Daemon, Daemon.Reachable plainHost (fun _ _ => True) d →
      ∀ draw io id state, d.backend.prefs.hasLoggedIn = false →
        (d.backend.switchToEmptyProfile (d.env plainHost) draw io).1 = .ok (.switched id state) →
        (d.backend.switchToEmptyProfile (d.env plainHost) draw io).2.hasNodeKey = false) ∧
    (¬ ∀ (policy : List PolicySource) (s : Daemon.BootInput) (d₀ : Daemon)
      (es : List ServeEvent) (t : ServingDaemon) (target id : String) (io : Io)
      (later : List Event) (t' : ServingDaemon), Daemon.boot plainHost policy s = .ok d₀ →
      Run (ServingDaemon.step plainHost proxyEngine) (fun _ _ => True) ⟨d₀, fun _ => none⟩ es t →
      (t.daemon.backend.deleteProfile target io).1 = .ok (.removed id) →
      Run (ServingDaemon.step plainHost proxyEngine) (fun _ _ => True) t
        (.daemon (.deleteProfile target io) :: later.map .daemon) t' →
      t'.daemon.backend.currentProfile = id → t'.published = ∅) := by
  constructor
  · intro hclaim
    obtain ⟨d, state, hd, hnew, hdone, hkept⟩ : ∃ d state,
        Daemon.replay plainHost [] firstBoot [.up {} none none {} {}, .finish 0 none {}] = some d ∧
        d.backend.prefs.hasLoggedIn = false ∧
        (d.backend.switchToEmptyProfile (d.env plainHost) (fun _ => none) {}).1 =
          .ok (.switched "default" state) ∧
        (d.backend.switchToEmptyProfile (d.env plainHost) (fun _ => none) {}).2.hasNodeKey =
          true := ⟨_, _, rfl, rfl, rfl, rfl⟩
    have hgone := hclaim d (Daemon.reachable_replay (fun _ _ _ => trivial) hd) (fun _ => none) {}
      "default" state hnew hdone
    rw [hgone] at hkept
    cases hkept
  · intro hclaim
    obtain ⟨d₀, t, t', hboot, hrun, hremoved, hrun', hcur, hpublished⟩ : ∃ d₀ t t',
        Daemon.boot plainHost [] firstBoot = .ok d₀ ∧
        follow (ServingDaemon.step plainHost proxyEngine) ⟨d₀, fun _ => none⟩ publishAndLeave =
          some t ∧
        (t.daemon.backend.deleteProfile "work" {}).1 = .ok (.removed "work") ∧
        follow (ServingDaemon.step plainHost proxyEngine) t (.daemon (.deleteProfile "work" {}) ::
          [Event.createProfile "work" {}].map .daemon) = some t' ∧
        t'.daemon.backend.currentProfile = "work" ∧ t'.published = {443} :=
      ⟨_, _, _, rfl, rfl, rfl, rfl, rfl, rfl⟩
    have hnone := hclaim _ _ d₀ _ t "work" "work" {} _ t' hboot
      (run_of_follow (fun _ _ _ => trivial) hrun) hremoved
      (run_of_follow (fun _ _ _ => trivial) hrun') hcur
    rw [hpublished] at hnone
    exact absurd hnone (Finset.singleton_ne_empty 443)

end Tailnetd
