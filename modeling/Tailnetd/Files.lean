/-
  What each section does to the state directory.

  Most sections work on the current profile: they leave the pointer, the current profile and the
  files of every other profile as they are (`OwnFiles`).  Most of those do not touch a node key
  either (`Edits`): only the key load inside `build_config` and the discard of a logout or a
  force-reauth do.  What is left are the profile operations, which get a lemma each.
-/
import Tailnetd.Boot

namespace Tailnetd

/-! ## Frames -/

/-- Nothing but the current profile's own files changed. -/
structure OwnFiles (b b' : Backend) : Prop where
  profile : b'.currentProfile = b.currentProfile
  pointer : b'.disk.currentProfile = b.disk.currentProfile
  prefsFiles : ∀ id, id ≠ b.currentProfile → b'.disk.prefsFile id = b.disk.prefsFile id
  keyFiles : ∀ id, id ≠ b.currentProfile → b'.disk.keyFile id = b.disk.keyFile id

/-- Nothing but the current profile's prefs file and `profiles.json` changed. -/
structure Edits (b b' : Backend) : Prop where
  profile : b'.currentProfile = b.currentProfile
  pointer : b'.disk.currentProfile = b.disk.currentProfile
  prefsFiles : ∀ id, id ≠ b.currentProfile → b'.disk.prefsFile id = b.disk.prefsFile id
  keyFiles : b'.disk.keyFile = b.disk.keyFile
  cache : b'.hasNodeKey = b.hasNodeKey

theorem OwnFiles.refl (b : Backend) : OwnFiles b b :=
  ⟨rfl, rfl, fun _ _ => rfl, fun _ _ => rfl⟩

theorem OwnFiles.trans {a b c : Backend} (h : OwnFiles a b) (h' : OwnFiles b c) : OwnFiles a c where
  profile := h'.profile.trans h.profile
  pointer := h'.pointer.trans h.pointer
  prefsFiles id hid := (h'.prefsFiles id (h.profile ▸ hid)).trans (h.prefsFiles id hid)
  keyFiles id hid := (h'.keyFiles id (h.profile ▸ hid)).trans (h.keyFiles id hid)

namespace Edits

theorem refl (b : Backend) : Edits b b := ⟨rfl, rfl, fun _ _ => rfl, rfl, rfl⟩

theorem trans {a b c : Backend} (h : Edits a b) (h' : Edits b c) : Edits a c where
  profile := h'.profile.trans h.profile
  pointer := h'.pointer.trans h.pointer
  prefsFiles id hid := (h'.prefsFiles id (h.profile ▸ hid)).trans (h.prefsFiles id hid)
  keyFiles := h'.keyFiles.trans h.keyFiles
  cache := h'.cache.trans h.cache

theorem ownFiles {b b' : Backend} (h : Edits b b') : OwnFiles b b' :=
  ⟨h.profile, h.pointer, h.prefsFiles, fun _ _ => congrFun h.keyFiles _⟩

/-- The current profile's key file is as it was. -/
theorem keyFile {b b' : Backend} (h : Edits b b') : b'.keyFile = b.keyFile := by
  unfold Backend.keyFile
  rw [h.keyFiles, h.profile]

end Edits

namespace Backend

/-! ## Sections that leave the keys alone -/

/-- A change of the memory only, in the same profile and with the same cache. -/
theorem memory_edits {b b' : Backend} (hprofile : b'.currentProfile = b.currentProfile)
    (hdisk : b'.disk = b.disk) (hcache : b'.hasNodeKey = b.hasNodeKey) : Edits b b' := by
  refine ⟨hprofile, ?_, ?_, ?_, hcache⟩ <;> rw [hdisk]
  exact fun _ _ => rfl

theorem setPrefsFile_edits (b : Backend) (file : Option Prefs) : Edits b (b.setPrefsFile file) :=
  ⟨rfl, rfl, fun _ hid => Function.update_of_ne hid _ _, rfl, rfl⟩

theorem setProfiles_edits (b : Backend) (profiles : List (String × String)) :
    Edits b (b.setProfiles profiles) := ⟨rfl, rfl, fun _ _ => rfl, rfl, rfl⟩

theorem registerCurrentProfile_edits (b : Backend) (io : Io) :
    Edits b (b.registerCurrentProfile io).2 := by
  unfold registerCurrentProfile
  split
  · exact .refl b
  · split
    · exact .refl b
    · split
      · exact .refl b
      · exact setProfiles_edits b _

theorem persistPrefs_edits (b : Backend) (io : Io) : Edits b (b.persistPrefs io).2 := by
  unfold persistPrefs
  split
  · exact .refl b
  · have hsaved := setPrefsFile_edits b (some b.prefs)
    have hlisted := hsaved.trans (registerCurrentProfile_edits _ io)
    split <;> rename_i heq <;> rw [heq] at hlisted
    · exact hlisted
    · exact hlisted.trans (memory_edits rfl rfl rfl)

theorem renameSection_edits (b : Backend) (nickname : Option (Option String)) (io : Io) :
    Edits b (b.renameSection nickname io).2 := by
  unfold renameSection
  split
  · exact .refl b
  · rename_i name
    have hrename : Edits b (b.renameCurrentProfile (name.getD "") io).2 := by
      unfold renameCurrentProfile
      split
      · exact .refl b
      · split
        · exact .refl b
        · exact setProfiles_edits b _
    split <;> rename_i heq <;> rw [heq] at hrename <;> exact hrename

theorem reconcileEngine_edits (E : Env) (b : Backend) (o : SetOptions) (io : Io) :
    Edits b (b.reconcileEngine E o io).2 := by
  rcases reconcileEngine_cases E b o io with ⟨-, hrec⟩ | ⟨dev, -, -, hrec⟩ | ⟨dev, -, -, -, hrec⟩
  · rw [hrec]
    exact .refl b
  · rw [hrec]
    exact .refl b
  · rw [hrec]
    exact memory_edits rfl rfl rfl

theorem applyUp_edits (E : Env) (b : Backend) (o : UpOptions) (edit : ExitNodeEdit) :
    Edits b (b.applyUp E o edit) := by
  rw [applyUp_eq]
  exact memory_edits rfl rfl rfl

theorem beginSet_edits (E : Env) (b : Backend) (o : SetOptions) (netmap : ExitNodeFacts) (io : Io) :
    Edits b (b.beginSet E o netmap io).2 := by
  unfold beginSet
  split
  · exact .refl b
  · rename_i tags edit _
    have happlied : Edits b (b.applySet E (o.withTags tags) edit) := by
      rw [applySet_eq]
      exact memory_edits rfl rfl rfl
    have hsaved := happlied.trans (persistPrefs_edits _ io)
    split
    · rename_i heq
      rw [heq] at hsaved
      exact hsaved
    · rename_i b1 heq
      rw [heq] at hsaved
      have hrenamed := hsaved.trans (renameSection_edits b1 o.nickname io)
      rcases hr : b1.renameSection o.nickname io with ⟨renameError, b2⟩
      rw [hr] at hrenamed
      have hdone := hrenamed.trans (reconcileEngine_edits E b2 (o.withTags tags) io)
      dsimp only
      split <;> rename_i heq' <;> rw [heq'] at hdone <;> exact hdone

theorem applyConfig_edits (E : Env) (b : Backend) (c : ConfigVAlpha) (contents : Option String)
    (io : Io) : Edits b (b.applyConfig E c contents io).2 := by
  unfold applyConfig
  split
  · exact memory_edits rfl rfl rfl
  · rename_i p _
    have hadopted : Edits b (b.adoptPrefs E p) := memory_edits rfl rfl rfl
    have hsaved := hadopted.trans (persistPrefs_edits _ io)
    split <;> rename_i heq <;> rw [heq] at hsaved <;> exact hsaved

theorem reloadConfig_edits (E : Env) (b : Backend) (document : Except Failure ConfigVAlpha)
    (contents : Option String) (io : Io) : Edits b (b.reloadConfig E document contents io).2 := by
  unfold reloadConfig
  split
  · exact .refl b
  · split
    · exact .refl b
    · rename_i c _
      have happlied := applyConfig_edits E b c contents io
      split <;> rename_i heq <;> rw [heq] at happlied <;> exact happlied

theorem disconnectEdge_edits (E : Env) (b : Backend) (wasRunning : Bool) :
    Edits b (b.disconnectEdge E wasRunning) := by
  rw [disconnectEdge_eq]
  exact memory_edits rfl rfl rfl

theorem down_edits (E : Env) (b : Backend) (actor : Actor) (io : Io) :
    Edits b (b.down E actor io).2 := by
  unfold down
  split
  · exact .refl b
  · have hcleared : Edits b b.stopDevice.bumpGeneration.clearIntent := memory_edits rfl rfl rfl
    exact (hcleared.trans (disconnectEdge_edits E _ _)).trans (persistPrefs_edits _ io)

theorem finishSection_edits (E : Env) (b : Backend) (pending : PendingUp)
    (built : Except Failure Device) (io : Io) :
    Edits b (b.finishSection E pending built io).2 := by
  have hfinished : Edits b (b.finishUp E pending built).2 := by
    unfold finishUp
    split
    · exact .refl b
    · split
      · exact .refl b
      · exact memory_edits rfl rfl rfl
  unfold finishSection
  split
  · rename_i heq
    rw [heq] at hfinished
    exact hfinished.trans (persistPrefs_edits _ io)
  · exact hfinished

theorem policyTick_edits (b : Backend) (keys : AlwaysOnKeys) (exitKeys : ExitNodeKeys) :
    Edits b ((b.sysPolicyChanged keys).exitNodePolicyChanged exitKeys) := by
  rw [exitNodePolicyChanged_eq, sysPolicyChanged_eq]
  exact memory_edits rfl rfl rfl

theorem claimDueReconnect_edits (b : Backend) (armed : ReconnectTimer) :
    Edits b (b.claimDueReconnect armed).2 := by
  unfold claimDueReconnect
  split
  · exact .refl b
  · split <;> exact memory_edits rfl rfl rfl

/-! ## Sections that handle the key -/

theorem discardNodeKey_ownFiles (b : Backend) (io : Io) : OwnFiles b (b.discardNodeKey io).2 := by
  unfold discardNodeKey
  split
  · exact .refl b
  · exact ⟨rfl, rfl, fun _ _ => rfl, fun _ hid => Function.update_of_ne hid _ _⟩

theorem buildConfig_ownFiles (E : Env) (b : Backend) (io : Io) :
    OwnFiles b (b.buildConfig E io).2 :=
  ⟨rfl, rfl, fun _ _ => rfl, fun _ hid => Function.update_of_ne hid _ _⟩

theorem reauth_ownFiles (b : Backend) (o : UpOptions) (io : Io) :
    OwnFiles b (b.reauth o io).2 := by
  unfold reauth
  split
  · exact discardNodeKey_ownFiles b io
  · exact .refl b

theorem beginUp_ownFiles (E : Env) (b : Backend) (o : UpOptions) (wif : Option WifCreds)
    (netmap : ExitNodeFacts) (io : Io) : OwnFiles b (b.beginUp E o wif netmap io).2 := by
  unfold beginUp
  split
  · exact .refl b
  · rename_i tags edit _
    have hstopped : Edits b b.stopDevice := memory_edits rfl rfl rfl
    have hkeyed := hstopped.ownFiles.trans (reauth_ownFiles _ o io)
    split
    · rename_i heq
      rw [heq] at hkeyed
      exact hkeyed
    · rename_i b1 heq
      rw [heq] at hkeyed
      have happlied := (applyUp_edits E b1 (o.withTags tags) edit).trans (persistPrefs_edits _ io)
      have hsaved := hkeyed.trans happlied.ownFiles
      split
      · rename_i heq'
        rw [heq'] at hsaved
        exact hsaved
      · rename_i b2 heq'
        rw [heq'] at hsaved
        have hbuilt := hsaved.trans (buildConfig_ownFiles E b2 io)
        split
        · rename_i heq''
          rw [heq''] at hbuilt
          exact hbuilt
        · rename_i heq''
          rw [heq''] at hbuilt
          exact hbuilt.trans ⟨rfl, rfl, fun _ _ => rfl, fun _ _ => rfl⟩

theorem logout_ownFiles (E : Env) (b : Backend) (actor : Actor) (io : Io) :
    OwnFiles b (b.logout E actor io).2 := by
  unfold logout
  split
  · exact .refl b
  · have htorn : Edits b b.stopDevice.bumpGeneration := memory_edits rfl rfl rfl
    have hkeyed := htorn.ownFiles.trans (discardNodeKey_ownFiles _ io)
    split
    · rename_i heq
      rw [heq] at hkeyed
      exact hkeyed
    · rename_i b1 heq
      rw [heq] at hkeyed
      have hcleared : Edits b1 b1.clearLogin := memory_edits rfl rfl rfl
      have hedge := hcleared.trans (disconnectEdge_edits E b1.clearLogin b.prefs.wantRunning)
      exact hkeyed.trans (hedge.trans (persistPrefs_edits _ io)).ownFiles

/-! ## Profile operations -/

/-- Listing and moving the pointer: on failure the pointer is where it was. -/
theorem recordActivation_outcomes (b : Backend) (target : String) (register : Bool) (io : Io) :
    (∃ f profiles, b.recordActivation target register io =
      (.error f, { b with disk := { b.disk with profiles := profiles } })) ∨
    (∃ profiles, b.recordActivation target register io =
      (.ok (), { b with
        disk := { b.disk with profiles := profiles, currentProfile := some target } })) := by
  have hlist : (∃ f, b.listProfile target register io = (.error f, b)) ∨
      ∃ profiles, b.listProfile target register io =
        (.ok (), { b with disk := { b.disk with profiles := profiles } }) := by
    unfold listProfile
    split
    · split
      · exact .inl ⟨_, rfl⟩
      · exact .inr ⟨_, rfl⟩
    · exact .inr ⟨b.disk.profiles, rfl⟩
  unfold recordActivation
  rcases hlist with ⟨f, hlist⟩ | ⟨profiles, hlist⟩
  · rw [hlist]
    exact .inl ⟨f, b.disk.profiles, rfl⟩
  · rw [hlist]
    dsimp only
    unfold savePointer
    split
    · exact .inl ⟨_, profiles, rfl⟩
    · exact .inr ⟨profiles, rfl⟩

/-- The backend an activation that got through leaves. -/
def activated (E : Env) (b : Backend) (target : String) (profiles : List (String × String))
    (io : Io) : Backend :=
  { b.stopDevice.bumpGeneration with
    disk := { b.disk with profiles := profiles, currentProfile := some target } }.adoptProfile E
      target ((b.disk.prefsFile target).getD Prefs.default)
      (io.statPrefs && (b.disk.prefsFile target).isSome)
      (io.readKey && keyFileHasNodeKey (b.disk.keyFile target))

/-- **What `activate_profile` leaves**: the backend it found, that backend torn down with at most
    another `profiles.json`, or the target with its own files and the pointer on it. -/
theorem activateProfile_outcomes (E : Env) (b : Backend) (target : String) (register : Bool)
    (io : Io) :
    (target = b.currentProfile ∧
      b.activateProfile E target register io = (.ok (.alreadyCurrent target), b)) ∨
    (target ≠ b.currentProfile ∧ ∃ f profiles, b.activateProfile E target register io =
      (.error f, { b.stopDevice.bumpGeneration with
        disk := { b.disk with profiles := profiles } })) ∨
    (target ≠ b.currentProfile ∧ ∃ state profiles, b.activateProfile E target register io =
      (.ok (.switched target state), b.activated E target profiles io)) := by
  unfold activateProfile
  by_cases hcur : target = b.currentProfile
  · rw [if_pos hcur]
    exact .inl ⟨hcur, rfl⟩
  · rw [if_neg hcur]
    right
    dsimp only
    split
    · exact .inl ⟨hcur, _, b.disk.profiles, rfl⟩
    · rcases recordActivation_outcomes b.stopDevice.bumpGeneration target register io with
        ⟨f, profiles, hrec⟩ | ⟨profiles, hrec⟩
      · rw [hrec]
        exact .inl ⟨hcur, f, profiles, rfl⟩
      · rw [hrec]
        exact .inr ⟨hcur, _, profiles, rfl⟩

/-- The disk without the files of one profile, or with its prefs file gone only. -/
theorem removeProfileFiles_outcomes (b : Backend) (id : String) (io : Io) :
    (∃ f, b.removeProfileFiles id io = (.error f, b)) ∨
    (∃ f, b.removeProfileFiles id io = (.error f, { b with
      disk := { b.disk with prefsFile := Function.update b.disk.prefsFile id none } })) ∨
    b.removeProfileFiles id io = (.ok (), { b with
      disk := { b.disk with
        prefsFile := Function.update b.disk.prefsFile id none
        keyFile := Function.update b.disk.keyFile id none } }) := by
  unfold removeProfileFiles
  split
  · exact .inl ⟨_, rfl⟩
  · right
    dsimp only
    split
    · exact .inl ⟨_, rfl⟩
    · exact .inr rfl

/-- Removing the files of another profile is none of the current one's business. -/
theorem removeProfileFiles_current {b : Backend} {id : String} (hid : id ≠ b.currentProfile)
    (io : Io) :
    (b.removeProfileFiles id io).2.currentProfile = b.currentProfile ∧
      (b.removeProfileFiles id io).2.keyFile = b.keyFile ∧
      (b.removeProfileFiles id io).2.prefsFile = b.prefsFile ∧
      (b.removeProfileFiles id io).2.hasNodeKey = b.hasNodeKey := by
  have hcur : b.currentProfile ≠ id := fun h => hid h.symm
  rcases removeProfileFiles_outcomes b id io with ⟨f, h⟩ | ⟨f, h⟩ | h <;> rw [h]
  · exact ⟨rfl, rfl, rfl, rfl⟩
  · exact ⟨rfl, rfl, Function.update_of_ne hcur _ _, rfl⟩
  · exact ⟨rfl, Function.update_of_ne hcur _ _, Function.update_of_ne hcur _ _, rfl⟩

/-- **What `reset_to_empty_profile` leaves**: the backend it found, that backend torn down with at
    most another `profiles.json`, or the current profile emptied and its prefs file gone. -/
theorem resetToEmptyProfile_outcomes (E : Env) (b : Backend) (io : Io) :
    b.resetToEmptyProfile E io = (.ok (.alreadyCurrent b.currentProfile), b) ∨
    (∃ f profiles, b.resetToEmptyProfile E io = (.error f, b.stopDevice.bumpGeneration.setProfiles
      profiles)) ∨
    (∃ state profiles, b.resetToEmptyProfile E io = (.ok (.switched b.currentProfile state),
      ((b.stopDevice.bumpGeneration.setProfiles profiles).setPrefsFile none).emptyProfile E)) := by
  unfold resetToEmptyProfile
  dsimp only
  split
  · exact .inl rfl
  · right
    split
    · exact .inl ⟨_, b.disk.profiles, rfl⟩
    · obtain ⟨profiles, hnamed⟩ : ∃ profiles,
          (if (profileName (b.disk.loadProfiles io) b.currentProfile).any fun name => !name.isEmpty
            then b.stopDevice.bumpGeneration.setProfiles
              (setProfileName b.stopDevice.bumpGeneration.currentProfile ""
                (b.disk.loadProfiles io))
            else b.stopDevice.bumpGeneration) =
          b.stopDevice.bumpGeneration.setProfiles profiles := by
        split
        · exact ⟨_, rfl⟩
        · exact ⟨b.disk.profiles, rfl⟩
      rw [hnamed]
      split
      · exact .inl ⟨_, profiles, rfl⟩
      · exact .inr ⟨_, profiles, rfl⟩

/-- A reset touches no key file and no other profile's file. -/
theorem resetToEmptyProfile_edits (E : Env) (b : Backend) (io : Io) :
    Edits b (b.resetToEmptyProfile E io).2 := by
  have hnamed (profiles : List (String × String)) :
      Edits b (b.stopDevice.bumpGeneration.setProfiles profiles) := by
    have htorn : Edits b b.stopDevice.bumpGeneration := memory_edits rfl rfl rfl
    exact htorn.trans (setProfiles_edits _ profiles)
  rcases resetToEmptyProfile_outcomes E b io with hres | ⟨f, profiles, hres⟩ | ⟨state, profiles, hres⟩ <;>
    rw [hres]
  · exact .refl b
  · exact hnamed profiles
  · have hremoved := (hnamed profiles).trans (setPrefsFile_edits _ none)
    exact hremoved.trans (memory_edits rfl rfl rfl)

end Backend

/-! ## Fresh profile ids -/

theorem profileName_cons (entry : String × String) (rest : List (String × String)) (id : String) :
    profileName (entry :: rest) id = if entry.1 = id then some entry.2 else profileName rest id := by
  unfold profileName
  rw [List.find?_cons]
  by_cases h : entry.1 = id
  · rw [beq_iff_eq.mpr h, if_pos h]
    rfl
  · rw [beq_eq_false_iff_ne.mpr h, if_neg h]

/-- A profile that was just named is listed under that name. -/
theorem profileName_setProfileName (id name : String) (profiles : List (String × String)) :
    profileName (setProfileName id name profiles) id = some name := by
  induction profiles with
  | nil => simp [setProfileName, profileName]
  | cons entry rest ih =>
    unfold setProfileName
    split
    · rw [profileName_cons, if_pos rfl]
    · rename_i hne
      split
      · rw [profileName_cons, if_pos rfl]
      · rw [profileName_cons, if_neg fun heq => hne heq.symm]
        exact ih

/-- Naming one profile leaves the names of the others. -/
theorem profileName_setProfileName_of_ne {id id' : String} (h : id ≠ id') (name : String)
    (profiles : List (String × String)) :
    profileName (setProfileName id name profiles) id' = profileName profiles id' := by
  induction profiles with
  | nil =>
    unfold setProfileName
    rw [profileName_cons, if_neg h]
  | cons entry rest ih =>
    unfold setProfileName
    split
    · rename_i hentry
      rw [profileName_cons, profileName_cons, if_neg h, if_neg (hentry ▸ h)]
    · split
      · rw [profileName_cons, if_neg h]
      · rw [profileName_cons, profileName_cons, ih]

/-- The resolver returns usable ids only. -/
theorem resolveTargetToId_valid {target id : String} {profiles : List (String × String)}
    (h : resolveTargetToId target profiles = some id) : isValidProfileId id = true := by
  unfold resolveTargetToId at h
  split at h
  · rename_i hknown
    cases h
    exact (Bool.and_eq_true _ _ ▸ hknown).1
  · obtain ⟨entry, hfound, rfl⟩ := Option.map_eq_some_iff.mp h
    have hpred := List.find?_some hfound
    exact (Bool.and_eq_true _ _ ▸ hpred).2

/-- An id that resolves to nothing is not listed, and not the default. -/
theorem unresolved_fresh {id : String} {profiles : List (String × String)}
    (hvalid : isValidProfileId id = true) (h : resolveTargetToId id profiles = none) :
    id ≠ defaultProfileId ∧ profileName profiles id = none := by
  unfold resolveTargetToId at h
  split at h
  · cases h
  · rename_i hknown
    rw [hvalid, Bool.true_and, Bool.or_eq_true, not_or, beq_iff_eq, Option.isSome_iff_ne_none,
      not_not] at hknown
    exact hknown

/-- Two bytes make a usable id. -/
theorem hexId_valid (hi lo : UInt8) : isValidProfileId (hexByte hi ++ hexByte lo) = true := by
  have hdigit : ∀ k < 16, (isAsciiAlphanumeric (Nat.digitChar k) || Nat.digitChar k == '-' ||
      Nat.digitChar k == '_') = true := by decide
  have hhi := hi.toNat_lt
  have hlo := lo.toNat_lt
  unfold isValidProfileId hexByte
  rw [← String.ofList_append]
  simp only [List.cons_append, List.nil_append, String.toList_ofList, List.all_cons, List.all_nil,
    Bool.and_true, String.length_ofList, List.length_cons, List.length_nil]
  rw [hdigit _ (by omega), hdigit _ (by omega), hdigit _ (by omega), hdigit _ (by omega)]
  simp

/-- A drawn id is usable and resolves to nothing. -/
theorem unusedProfileId_fresh {profiles : List (String × String)}
    {draw : Nat → Option (UInt8 × UInt8)} {tries : Nat} {id : String}
    (h : unusedProfileId profiles draw tries = .ok (some id)) :
    isValidProfileId id = true ∧ resolveTargetToId id profiles = none := by
  induction tries with
  | zero => cases h
  | succ tries ih =>
    unfold unusedProfileId at h
    split at h
    · cases h
    · rename_i hi lo _
      dsimp only at h
      split at h
      · rename_i hnone
        cases h
        exact ⟨hexId_valid hi lo, Option.isNone_iff_eq_none.mp hnone⟩
      · exact ih h

namespace Backend

/-- **What `switch_profile` does**: nothing, or the activation of the profile its target names. -/
theorem switchProfile_outcomes (E : Env) (b : Backend) (target : String) (io : Io) :
    (∃ f, b.switchProfile E target io = (.error f, b)) ∨
    (∃ id, resolveTargetToId target (b.disk.loadProfiles io) = some id ∧
      isValidProfileId id = true ∧
      b.switchProfile E target io = b.activateProfile E id true io) := by
  unfold switchProfile
  split
  · exact .inl ⟨_, rfl⟩
  · rename_i id hresolved
    exact .inr ⟨id, hresolved, resolveTargetToId_valid hresolved, rfl⟩

/-- **What `create_profile` does**: nothing, or the activation of an id that is usable and free. -/
theorem createProfile_outcomes (E : Env) (b : Backend) (id : String) (io : Io) :
    (∃ f, b.createProfile E id io = (.error f, b)) ∨
    (isValidProfileId id = true ∧ resolveTargetToId id (b.disk.loadProfiles io) = none ∧
      b.createProfile E id io = b.activateProfile E id true io) := by
  unfold createProfile
  split
  · exact .inl ⟨_, rfl⟩
  · rename_i hvalid
    rw [Bool.not_eq_true, Bool.not_eq_false'] at hvalid
    split
    · exact .inl ⟨_, rfl⟩
    · rename_i hfree
      exact .inr ⟨hvalid, hfree, rfl⟩

/-- The listed profiles and the current one: the ids that are taken. -/
def takenProfiles (b : Backend) (io : Io) : List (String × String) :=
  setProfileName b.currentProfile
    ((profileName (b.disk.loadProfiles io) b.currentProfile).getD "") (b.disk.loadProfiles io)

/-- **What `switch_to_empty_profile` does**: a reset in place, a failed draw, or the removal of the
    files of a fresh id (one that is not the current profile, not the default one and not listed in
    what was read) and then its activation. -/
theorem switchToEmptyProfile_outcomes (E : Env) (b : Backend) (draw : Nat → Option (UInt8 × UInt8))
    (io : Io) :
    (b.prefs.hasLoggedIn = false ∧
      b.switchToEmptyProfile E draw io = b.resetToEmptyProfile E io) ∨
    (∃ f, b.switchToEmptyProfile E draw io = (.error f, b)) ∨
    (∃ id, b.prefs.hasLoggedIn = true ∧
      unusedProfileId (b.takenProfiles io) draw 256 = .ok (some id) ∧ isValidProfileId id = true ∧
      id ≠ defaultProfileId ∧ id ≠ b.currentProfile ∧
      profileName (b.disk.loadProfiles io) id = none ∧
      ((∃ f, b.switchToEmptyProfile E draw io = (.error f, (b.removeProfileFiles id io).2)) ∨
        ((b.removeProfileFiles id io).1 = .ok () ∧
          b.switchToEmptyProfile E draw io =
            (b.removeProfileFiles id io).2.activateProfile E id false io))) := by
  unfold switchToEmptyProfile
  split
  · rename_i hnew
    exact .inl ⟨by simpa using hnew, rfl⟩
  · rename_i hlogin
    rw [Bool.not_eq_true', Bool.not_eq_false] at hlogin
    right
    dsimp only
    split
    · exact .inl ⟨_, rfl⟩
    · exact .inl ⟨_, rfl⟩
    · rename_i id hdraw
      right
      obtain ⟨hvalid, hfree⟩ := unusedProfileId_fresh hdraw
      obtain ⟨hdefault, hunlisted⟩ := unresolved_fresh hvalid hfree
      have hcur : id ≠ b.currentProfile := by
        rintro rfl
        rw [profileName_setProfileName] at hunlisted
        cases hunlisted
      rw [profileName_setProfileName_of_ne fun heq => hcur heq.symm] at hunlisted
      refine ⟨id, hlogin, hdraw, hvalid, hdefault, hcur, hunlisted, ?_⟩
      rcases hremoved : b.removeProfileFiles id io with ⟨f | u, b1⟩
      · exact .inl ⟨f, rfl⟩
      · exact .inr ⟨rfl, rfl⟩

/-- **What `delete_profile` does**: nothing, or the removal of the files of a profile that is
    neither the current nor the default one and then of its entry. -/
theorem deleteProfile_outcomes (b : Backend) (target : String) (io : Io) :
    ((b.deleteProfile target io).2 = b ∧ ∀ id, (b.deleteProfile target io).1 ≠ .ok (.removed id)) ∨
    (∃ id, resolveTargetToId target (b.disk.loadProfiles io) = some id ∧ id ≠ b.currentProfile ∧
      id ≠ defaultProfileId ∧
      ((∃ f, b.deleteProfile target io = (.error f, (b.removeProfileFiles id io).2)) ∨
        ((b.removeProfileFiles id io).1 = .ok () ∧ ∃ result profiles,
          (∀ id', result = .ok (.removed id') → id' = id) ∧
          b.deleteProfile target io =
            (result, (b.removeProfileFiles id io).2.setProfiles profiles)))) := by
  unfold deleteProfile
  split
  · exact .inl ⟨rfl, fun id h => by cases h⟩
  · rename_i id hresolved
    by_cases hcur : id = b.currentProfile
    · rw [if_pos hcur]
      exact .inl ⟨rfl, fun id h => by cases h⟩
    · rw [if_neg hcur]
      by_cases hdefault : id = defaultProfileId
      · rw [if_pos hdefault]
        exact .inl ⟨rfl, fun id h => by cases h⟩
      · rw [if_neg hdefault]
        refine .inr ⟨id, hresolved, hcur, hdefault, ?_⟩
        rcases hremoved : b.removeProfileFiles id io with ⟨f | u, b1⟩
        · exact .inl ⟨f, rfl⟩
        · refine .inr ⟨rfl, ?_⟩
          dsimp only
          split
          · refine ⟨.ok (.removed id), b1.disk.profiles, ?_, rfl⟩
            intro id' h
            cases h
            rfl
          · split
            · refine ⟨.error _, b1.disk.profiles, ?_, rfl⟩
              intro id' h
              cases h
            · refine ⟨.ok (.removed id), _, ?_, rfl⟩
              intro id' h
              cases h
              rfl

/-! ## The start of the process -/

/-- What a load takes from the disk. -/
theorem load_eq {E : Env} {disk : Disk} {io : Io} {b : Backend} (h : load E disk io = .ok b) :
    b.disk = disk ∧ b.currentProfile = loadCurrentProfile (disk.readPointer io) ∧
      b.prefs = (applySettingsToPrefs E.settings
        ((disk.prefsFile (loadCurrentProfile (disk.readPointer io))).getD Prefs.default) {}).1 ∧
      b.hasNodeKey = (io.readKey && keyFileHasNodeKey
        (disk.keyFile (loadCurrentProfile (disk.readPointer io)))) := by
  unfold load at h
  dsimp only at h
  split at h
  · cases h
  · cases h
    exact ⟨rfl, rfl, rfl, rfl⟩

/-- A load starts without exemptions. -/
theorem load_overrides {E : Env} {disk : Disk} {io : Io} {b : Backend} (h : load E disk io = .ok b) :
    b.overrideAlwaysOn = false ∧ b.overrideExitNodePolicy = false := by
  unfold load at h
  dsimp only at h
  split at h
  · cases h
  · cases h
    exact ⟨rfl, rfl⟩

end Backend

/-- A config and a launch flag at boot are edits of what was loaded. -/
theorem loaded_edits {H : Host} {policy : List PolicySource} {s : Daemon.BootInput}
    {key : Option String} {d : Daemon} (h : Daemon.loaded H policy s = .ok (key, d)) :
    ∃ b, Backend.load ⟨H, policy⟩ s.disk s.loadIo = .ok b ∧ Edits b d.backend := by
  obtain ⟨b, b₁, changed, b₂, hload, hconfig, htun, rfl⟩ := Daemon.loaded_cases h
  refine ⟨b, hload, ?_⟩
  have hport : Edits b { b with listenPort := s.listenPort } := Backend.memory_edits rfl rfl rfl
  have hconfigured : Edits b b₁ := by
    rcases Daemon.bootConfig_cases hconfig with ⟨-, rfl⟩ |
      ⟨source, document, contents, b', -, happly, rfl⟩
    · exact hport
    · have happlied := Backend.applyConfig_edits ⟨H, policy⟩ { b with listenPort := s.listenPort }
        document contents s.configIo
      rw [happly] at happlied
      exact (hport.trans happlied).trans (Backend.memory_edits rfl rfl rfl)
  rcases Daemon.bootTun_cases htun with rfl | ⟨enabled, name, rfl⟩
  · exact hconfigured
  · have hset : Edits b₁
        { b₁ with prefs := { b₁.prefs with tunEnabled := enabled, tunName := name } } :=
      Backend.memory_edits rfl rfl rfl
    exact (hconfigured.trans hset).trans (Backend.persistPrefs_edits _ s.tunIo)

/-! ## Steps of the daemon -/

namespace Daemon

theorem beginUp_section_ownFiles (H : Host) (d : Daemon) (origin : Origin)
    (authkey : Option String) (o : UpOptions) (wif : Option WifCreds) (netmap : ExitNodeFacts)
    (io : Io) : OwnFiles d.backend (d.beginUp H origin authkey o wif netmap io).backend := by
  rw [beginUp_backend]
  exact Backend.beginUp_ownFiles (d.env H) d.backend o wif netmap io

/-- **Every other section keeps to the current profile**: only the four profile operations write a
    file of another profile, or the pointer. -/
theorem step_ownFiles {H : Host} {d d' : Daemon} {e : Event} (hchange : e.changesProfile = false)
    (hdelete : ∀ target io, e ≠ .deleteProfile target io) (hstep : step H d e = some d') :
    OwnFiles d.backend d'.backend := by
  have hran := step_ran hstep
  generalize d'.backend = b' at hran ⊢
  cases hran with
  | nothing => exact .refl d.backend
  | beginUp hstart wif => exact Backend.beginUp_ownFiles _ _ _ wif _ _
  | finish htask => exact (Backend.finishSection_edits _ _ _ _ _).ownFiles
  | set => exact (Backend.beginSet_edits _ _ _ _ _).ownFiles
  | reload => exact (Backend.reloadConfig_edits _ _ _ _ _).ownFiles
  | preflight => exact Backend.buildConfig_ownFiles _ _ _
  | bringDown => exact (Backend.down_edits _ _ _ _).ownFiles
  | down => exact (Backend.down_edits _ _ _ _).ownFiles
  | logout => exact Backend.logout_ownFiles _ _ _ _
  | switchProfile => cases hchange
  | createProfile => cases hchange
  | switchToEmptyProfile => cases hchange
  | deleteProfile => exact absurd rfl (hdelete _ _)
  | policyTick keys exitKeys => exact (Backend.policyTick_edits d.backend keys exitKeys).ownFiles
  | timerFired => exact (Backend.claimDueReconnect_edits d.backend _).ownFiles
  | engine => exact ⟨rfl, rfl, fun _ _ => rfl, fun _ _ => rfl⟩

/-- A boot keeps to the profile it loads. -/
theorem boot_ownFiles {H : Host} {policy : List PolicySource} {s : BootInput} {d : Daemon}
    (h : boot H policy s = .ok d) :
    ∃ b, Backend.load ⟨H, policy⟩ s.disk s.loadIo = .ok b ∧ OwnFiles b d.backend := by
  refine boot_rule (P := fun d => ∃ b, Backend.load ⟨H, policy⟩ s.disk s.loadIo = .ok b ∧
    OwnFiles b d.backend) ?_ ?_ ?_ h
  · intro key d₀ hloaded
    obtain ⟨b, hload, hedits⟩ := loaded_edits hloaded
    exact ⟨b, hload, hedits.ownFiles⟩
  · rintro key d₀ authkey - - ⟨b, hload, hfiles⟩
    have hattempted : Edits d₀.backend d₀.attempted.backend := Backend.memory_edits rfl rfl rfl
    have hbegun := hattempted.ownFiles.trans (beginUp_section_ownFiles H d₀.attempted .boot
      (authkey.or (d₀.attempted.backend.policyAuthKey (d₀.attempted.env H))) {} none {} s.startIo)
    exact ⟨b, hload, hfiles.trans hbegun⟩
  · rintro d₁ d₂ ⟨b, hload, hfiles⟩ hstep
    exact ⟨b, hload, hfiles.trans (step_ownFiles rfl (fun _ _ => by simp) hstep)⟩

end Daemon

end Tailnetd
