/-
  What a step writes into the prefs files.

  A persist writes the prefs in memory into the current profile's file, and no section changes its
  prefs after it persisted them.  So after every step each prefs file holds what it held before, or
  the prefs the step left in memory (`SavesOnly`).
-/
import Tailnetd.PrefsMoves

namespace Tailnetd

/-- Every prefs file holds what it held, or the prefs now in memory. -/
def SavesOnly (b b' : Backend) : Prop :=
  ∀ id p, b'.disk.prefsFile id = some p → b.disk.prefsFile id = some p ∨ p = b'.prefs

namespace SavesOnly

/-- Sections that leave the prefs files. -/
theorem of_same {b b' : Backend} (h : b'.disk.prefsFile = b.disk.prefsFile) : SavesOnly b b' := by
  intro id p hfile
  rw [h] at hfile
  exact .inl hfile

/-- Edits of the memory before the section that saves. -/
theorem after {a b c : Backend} (h : b.disk.prefsFile = a.disk.prefsFile) (hs : SavesOnly b c) :
    SavesOnly a c := by
  intro id p hfile
  rw [← h]
  exact hs id p hfile

/-- A section after the one that saves, which leaves the prefs. -/
theorem before {a b c : Backend} (hs : SavesOnly a b) (h : c.disk.prefsFile = b.disk.prefsFile)
    (hprefs : c.prefs = b.prefs) : SavesOnly a c := by
  intro id p hfile
  rw [h] at hfile
  rw [hprefs]
  exact hs id p hfile

end SavesOnly

namespace Backend

theorem registerCurrentProfile_prefsFiles (b : Backend) (io : Io) :
    (b.registerCurrentProfile io).2.disk.prefsFile = b.disk.prefsFile := by
  unfold registerCurrentProfile
  split
  · rfl
  · split
    · rfl
    · split <;> rfl

/-- **A persist writes the prefs in memory.** -/
theorem persistPrefs_saves (b : Backend) (io : Io) : SavesOnly b (b.persistPrefs io).2 := by
  unfold persistPrefs
  split
  · exact .of_same rfl
  · have hwritten : SavesOnly b (b.setPrefsFile (some b.prefs)) := by
      intro id p hfile
      by_cases hid : id = b.currentProfile
      · subst hid
        rw [show (b.setPrefsFile (some b.prefs)).disk.prefsFile b.currentProfile = some b.prefs from
          Function.update_self _ _ _] at hfile
        cases hfile
        exact .inr rfl
      · rw [show (b.setPrefsFile (some b.prefs)).disk.prefsFile id = b.disk.prefsFile id from
          Function.update_of_ne hid _ _] at hfile
        exact .inl hfile
    have hlisted := hwritten.before
      (registerCurrentProfile_prefsFiles (b.setPrefsFile (some b.prefs)) io)
      (registerCurrentProfile_diskOnly (b.setPrefsFile (some b.prefs)) io).prefs
    split <;> rename_i heq <;> rw [heq] at hlisted <;> exact hlisted

theorem reauth_prefsFile (b : Backend) (o : UpOptions) (io : Io) :
    (b.reauth o io).2.disk.prefsFile = b.disk.prefsFile := by
  unfold reauth discardNodeKey
  split
  · split <;> rfl
  · rfl

theorem beginUp_saves (E : Env) (b : Backend) (o : UpOptions) (wif : Option WifCreds)
    (netmap : ExitNodeFacts) (io : Io) : SavesOnly b (b.beginUp E o wif netmap io).2 := by
  unfold beginUp
  split
  · exact .of_same rfl
  · rename_i tags edit _
    have hkeyed := reauth_prefsFile b.stopDevice o io
    split
    · rename_i heq
      rw [heq] at hkeyed
      exact .of_same hkeyed
    · rename_i b1 heq
      rw [heq] at hkeyed
      have hedited : (b1.applyUp E (o.withTags tags) edit).disk.prefsFile = b.disk.prefsFile := by
        rw [applyUp_eq]
        exact hkeyed
      have hsaved := (persistPrefs_saves (b1.applyUp E (o.withTags tags) edit) io).after hedited
      split
      · rename_i heq'
        rw [heq'] at hsaved
        exact hsaved
      · rename_i b2 heq'
        rw [heq'] at hsaved
        have hbuilt : SavesOnly b (b2.buildConfig E io).2 := hsaved.before rfl rfl
        split
        · rename_i heq''
          rw [heq''] at hbuilt
          exact hbuilt
        · rename_i heq''
          rw [heq''] at hbuilt
          exact hbuilt.before rfl rfl

theorem renameSection_prefsFile (b : Backend) (nickname : Option (Option String)) (io : Io) :
    (b.renameSection nickname io).2.disk.prefsFile = b.disk.prefsFile := by
  unfold renameSection renameCurrentProfile
  split
  · rfl
  · split <;> rename_i heq <;> split at heq
    · cases heq
      rfl
    · split at heq <;> cases heq
      rfl
    · cases heq
    · split at heq <;> cases heq
      rfl

theorem reconcileEngine_prefsFile (E : Env) (b : Backend) (o : SetOptions) (io : Io) :
    (b.reconcileEngine E o io).2.disk.prefsFile = b.disk.prefsFile ∧
      (b.reconcileEngine E o io).2.prefs = b.prefs := by
  rcases reconcileEngine_cases E b o io with ⟨-, hrec⟩ | ⟨dev, -, -, hrec⟩ | ⟨dev, -, -, -, hrec⟩ <;>
    rw [hrec] <;> exact ⟨rfl, rfl⟩

theorem beginSet_saves (E : Env) (b : Backend) (o : SetOptions) (netmap : ExitNodeFacts) (io : Io) :
    SavesOnly b (b.beginSet E o netmap io).2 := by
  unfold beginSet
  split
  · exact .of_same rfl
  · rename_i tags edit _
    have hedited : (b.applySet E (o.withTags tags) edit).disk.prefsFile = b.disk.prefsFile := by
      rw [applySet_eq]
    have hsaved := (persistPrefs_saves (b.applySet E (o.withTags tags) edit) io).after hedited
    split
    · rename_i heq
      rw [heq] at hsaved
      exact hsaved
    · rename_i b1 heq
      rw [heq] at hsaved
      have hrenamed := hsaved.before (renameSection_prefsFile b1 o.nickname io)
        (renameSection_diskOnly b1 o.nickname io).prefs
      rcases hr : b1.renameSection o.nickname io with ⟨renameError, b2⟩
      rw [hr] at hrenamed
      obtain ⟨hfiles, hprefs⟩ := reconcileEngine_prefsFile E b2 (o.withTags tags) io
      have hdone := hrenamed.before hfiles hprefs
      dsimp only
      split <;> rename_i heq' <;> rw [heq'] at hdone <;> exact hdone

theorem applyConfig_saves (E : Env) (b : Backend) (c : ConfigVAlpha) (contents : Option String)
    (io : Io) : SavesOnly b (b.applyConfig E c contents io).2 := by
  unfold applyConfig
  split
  · exact .of_same rfl
  · rename_i p _
    have hsaved : SavesOnly b ((b.adoptPrefs E p).persistPrefs io).2 :=
      (persistPrefs_saves (b.adoptPrefs E p) io).after rfl
    split <;> rename_i heq <;> rw [heq] at hsaved <;> exact hsaved

theorem reloadConfig_saves (E : Env) (b : Backend) (document : Except Failure ConfigVAlpha)
    (contents : Option String) (io : Io) :
    SavesOnly b (b.reloadConfig E document contents io).2 := by
  unfold reloadConfig
  split
  · exact .of_same rfl
  · split
    · exact .of_same rfl
    · rename_i c _
      have happlied := applyConfig_saves E b c contents io
      split <;> rename_i heq <;> rw [heq] at happlied <;> exact happlied

theorem down_saves (E : Env) (b : Backend) (actor : Actor) (io : Io) :
    SavesOnly b (b.down E actor io).2 := by
  unfold down
  split
  · exact .of_same rfl
  · refine (persistPrefs_saves _ io).after ?_
    rw [disconnectEdge_eq]
    rfl

theorem logout_saves (E : Env) (b : Backend) (actor : Actor) (io : Io) :
    SavesOnly b (b.logout E actor io).2 := by
  unfold logout discardNodeKey
  split
  · exact .of_same rfl
  · split
    · rename_i heq
      split at heq <;> cases heq
      exact .of_same rfl
    · rename_i b1 heq
      split at heq <;> cases heq
      refine (persistPrefs_saves _ io).after ?_
      rw [disconnectEdge_eq]
      rfl

theorem finishSection_saves (E : Env) (b : Backend) (pending : PendingUp)
    (built : Except Failure Device) (io : Io) :
    SavesOnly b (b.finishSection E pending built io).2 := by
  have hfinished : (b.finishUp E pending built).2.disk.prefsFile = b.disk.prefsFile := by
    unfold finishUp
    split
    · rfl
    · split <;> rfl
  unfold finishSection
  split
  · rename_i heq
    rw [heq] at hfinished
    exact (persistPrefs_saves _ io).after hfinished
  · exact .of_same hfinished

/-! ## Profile operations only remove -/

/-- A removed file is not there any more, the others are what they were. -/
theorem prefsFile_of_update_none {files : String → Option Prefs} {id id' : String} {p : Prefs}
    (h : Function.update files id none id' = some p) : files id' = some p := by
  by_cases hid : id' = id
  · rw [hid, Function.update_self] at h
    cases h
  · rwa [Function.update_of_ne hid] at h

theorem removeProfileFiles_prefsFile {b : Backend} {id id' : String} {io : Io} {p : Prefs}
    (h : (b.removeProfileFiles id io).2.disk.prefsFile id' = some p) :
    b.disk.prefsFile id' = some p := by
  rcases removeProfileFiles_outcomes b id io with ⟨f, hrm⟩ | ⟨f, hrm⟩ | hrm <;> rw [hrm] at h
  · exact h
  · exact prefsFile_of_update_none h
  · exact prefsFile_of_update_none h

theorem activateProfile_prefsFiles (E : Env) (b : Backend) (target : String) (register : Bool)
    (io : Io) : (b.activateProfile E target register io).2.disk.prefsFile = b.disk.prefsFile := by
  rcases activateProfile_outcomes E b target register io with ⟨-, hres⟩ | ⟨-, f, profiles, hres⟩ |
    ⟨-, state, profiles, hres⟩ <;> rw [hres]
  rfl

theorem resetToEmptyProfile_saves (E : Env) (b : Backend) (io : Io) :
    SavesOnly b (b.resetToEmptyProfile E io).2 := by
  rcases resetToEmptyProfile_outcomes E b io with hres | ⟨f, profiles, hres⟩ | ⟨state, profiles, hres⟩ <;>
    rw [hres]
  · exact .of_same rfl
  · exact .of_same rfl
  · exact fun id p hfile => .inl (prefsFile_of_update_none hfile)

theorem switchProfile_saves (E : Env) (b : Backend) (target : String) (io : Io) :
    SavesOnly b (b.switchProfile E target io).2 := by
  rcases switchProfile_outcomes E b target io with ⟨f, hres⟩ | ⟨id, -, -, hres⟩ <;> rw [hres]
  · exact .of_same rfl
  · exact .of_same (activateProfile_prefsFiles E b id true io)

theorem createProfile_saves (E : Env) (b : Backend) (id : String) (io : Io) :
    SavesOnly b (b.createProfile E id io).2 := by
  rcases createProfile_outcomes E b id io with ⟨f, hres⟩ | ⟨-, -, hres⟩ <;> rw [hres]
  · exact .of_same rfl
  · exact .of_same (activateProfile_prefsFiles E b id true io)

theorem switchToEmptyProfile_saves (E : Env) (b : Backend)
    (draw : Nat → Option (UInt8 × UInt8)) (io : Io) :
    SavesOnly b (b.switchToEmptyProfile E draw io).2 := by
  rcases switchToEmptyProfile_outcomes E b draw io with ⟨-, hres⟩ | ⟨f, hres⟩ |
    ⟨id, -, -, -, -, -, -, ⟨f, hres⟩ | ⟨-, hres⟩⟩ <;> rw [hres]
  · exact resetToEmptyProfile_saves E b io
  · exact .of_same rfl
  · exact fun id' p hfile => .inl (removeProfileFiles_prefsFile hfile)
  · intro id' p hfile
    rw [activateProfile_prefsFiles] at hfile
    exact .inl (removeProfileFiles_prefsFile hfile)

theorem deleteProfile_saves (b : Backend) (target : String) (io : Io) :
    SavesOnly b (b.deleteProfile target io).2 := by
  intro id p hfile
  rcases deleteProfile_outcomes b target io with ⟨hsame, -⟩ |
    ⟨gone, -, -, -, ⟨f, hres⟩ | ⟨-, result, profiles, -, hres⟩⟩
  · rw [hsame] at hfile
    exact .inl hfile
  · rw [hres] at hfile
    exact .inl (removeProfileFiles_prefsFile hfile)
  · rw [hres] at hfile
    exact .inl (removeProfileFiles_prefsFile hfile)

theorem claimDueReconnect_disk (b : Backend) (armed : ReconnectTimer) :
    (b.claimDueReconnect armed).2.disk = b.disk := by
  unfold claimDueReconnect
  split
  · rfl
  · split <;> rfl

end Backend

/-! ## Steps -/

namespace Daemon

theorem beginUp_section_saves (H : Host) (d : Daemon) (origin : Origin) (authkey : Option String)
    (o : UpOptions) (wif : Option WifCreds) (netmap : ExitNodeFacts) (io : Io) :
    SavesOnly d.backend (d.beginUp H origin authkey o wif netmap io).backend := by
  rw [beginUp_backend]
  exact Backend.beginUp_saves (d.env H) d.backend o wif netmap io

/-- **A step writes the prefs it leaves in memory**, if it writes a prefs file at all. -/
theorem step_saves {H : Host} {d d' : Daemon} {e : Event} (hstep : step H d e = some d') :
    SavesOnly d.backend d'.backend := by
  have hran := step_ran hstep
  generalize d'.backend = b' at hran ⊢
  cases hran with
  | nothing => exact .of_same rfl
  | beginUp hstart wif => exact Backend.beginUp_saves _ _ _ wif _ _
  | finish htask => exact Backend.finishSection_saves _ _ _ _ _
  | set => exact Backend.beginSet_saves _ _ _ _ _
  | reload => exact Backend.reloadConfig_saves _ _ _ _ _
  | preflight => exact .of_same rfl
  | bringDown => exact Backend.down_saves _ _ _ _
  | down => exact Backend.down_saves _ _ _ _
  | logout => exact Backend.logout_saves _ _ _ _
  | switchProfile => exact Backend.switchProfile_saves _ _ _ _
  | createProfile => exact Backend.createProfile_saves _ _ _ _
  | switchToEmptyProfile => exact Backend.switchToEmptyProfile_saves _ _ _ _
  | deleteProfile => exact Backend.deleteProfile_saves _ _ _
  | policyTick keys exitKeys =>
    rw [Backend.exitNodePolicyChanged_eq, Backend.sysPolicyChanged_eq]
    exact .of_same rfl
  | timerFired => exact .of_same (congrArg Disk.prefsFile (Backend.claimDueReconnect_disk _ _))
  | engine => exact .of_same rfl

end Daemon

/-! ## The start of the process -/

theorem bootConfig_saves {E : Env} {b b' : Backend} {s : Daemon.BootInput} {key : Option String}
    (h : Daemon.bootConfig E b s = (.ok key, b')) : SavesOnly b b' := by
  rcases Daemon.bootConfig_cases h with ⟨-, rfl⟩ | ⟨source, document, contents, b₁, -, happly, rfl⟩
  · exact .of_same rfl
  · have hsaved := Backend.applyConfig_saves E b document contents s.configIo
    rw [happly] at hsaved
    exact hsaved.before rfl rfl

theorem bootTun_saves {b b' : Backend} {s : Daemon.BootInput} {changed : Bool}
    (h : Daemon.bootTun b s = (.ok changed, b')) : SavesOnly b b' := by
  rcases Daemon.bootTun_cases h with rfl | ⟨enabled, name, rfl⟩
  · exact .of_same rfl
  · exact (Backend.persistPrefs_saves
      { b with prefs := { b.prefs with tunEnabled := enabled, tunName := name } } s.tunIo).after rfl

/-- The start of the process writes the prefs it leaves in memory, up to the launch flag. -/
theorem loaded_saves {H : Host} {policy : List PolicySource} {s : Daemon.BootInput}
    {key : Option String} {d : Daemon} (h : Daemon.loaded H policy s = .ok (key, d)) :
    ∀ id p, d.backend.disk.prefsFile id = some p →
      s.disk.prefsFile id = some p ∨ SameButTun d.backend.prefs p := by
  obtain ⟨b, b₁, changed, b₂, hload, hconfig, htun, rfl⟩ := Daemon.loaded_cases h
  intro id p hfile
  rcases bootTun_saves htun id p hfile with hold | rfl
  · rcases bootConfig_saves hconfig id p hold with hfound | rfl
    · refine .inl ?_
      rw [← (Backend.load_eq hload).1]
      exact hfound
    · exact .inr (bootTun_prefs htun).symm
  · exact .inr (.refl _)

end Tailnetd
