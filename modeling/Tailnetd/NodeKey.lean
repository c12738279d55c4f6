/-
  The node-key cache and the key file.

  `hasNodeKey` answers "is a node key on disk" without reading the file.  It is moved where the key
  is discarded, where a `begin_up` section succeeds and where a profile is loaded; everything else
  leaves both alone.  But a key file comes into being inside the key load of `build_config`, whose
  later checks can still fail, and which also runs as a preflight: there a fresh key reaches the
  disk and the cache never hears of it.
-/
import Tailnetd.Files

namespace Tailnetd

open Machine

/-- The cache agrees with the current profile's key file. -/
def KeyAgrees (b : Backend) : Prop := b.hasNodeKey = keyFileHasNodeKey b.keyFile

/-- Sections that leave the keys alone keep the agreement. -/
theorem Edits.keyAgrees {b b' : Backend} (h : Edits b b') (ha : KeyAgrees b) : KeyAgrees b' := by
  unfold KeyAgrees
  rw [h.cache, h.keyFile]
  exact ha

namespace Backend

/-! ## The key load -/

/-- Whether the current profile is listed, or need not be. -/
def settled (b : Backend) (io : Io) : Bool :=
  !b.prefs.hasLoggedIn || b.currentProfile == defaultProfileId ||
    (profileName (b.disk.loadProfiles io) b.currentProfile).isSome

/-- Whether `persist_prefs` goes through. -/
def persists (b : Backend) (io : Io) : Bool := io.savePrefs && (b.settled io || io.saveProfiles)

/-- Whether a key load finds no file and writes a fresh key. -/
def mintsKey (b : Backend) (io : Io) : Prop := b.keyFile = none ∧ io.key.ok = true

theorem registerCurrentProfile_isOk (b : Backend) (io : Io) :
    (b.registerCurrentProfile io).1.isOk = (b.settled io || io.saveProfiles) := by
  unfold registerCurrentProfile settled
  split
  · rename_i hunlisted
    rcases hunlisted with h | h <;> simp [h, Except.isOk, Except.toBool]
  · split
    · rename_i hlisted
      simp [hlisted, Except.isOk, Except.toBool]
    · rename_i hnamed hlisted
      rw [not_or, Bool.not_eq_false] at hnamed
      rw [Bool.not_eq_true] at hlisted
      rw [hnamed.1, beq_eq_false_iff_ne.mpr hnamed.2, hlisted]
      cases io.saveProfiles <;> rfl

theorem persistPrefs_isOk (b : Backend) (io : Io) :
    (b.persistPrefs io).1.isOk = b.persists io := by
  have hregister := registerCurrentProfile_isOk (b.setPrefsFile (some b.prefs)) io
  unfold persistPrefs persists
  cases io.savePrefs with
  | false => rfl
  | true =>
    rw [Bool.true_and]
    refine Eq.trans ?_ hregister
    rcases (b.setPrefsFile (some b.prefs)).registerCurrentProfile io with ⟨f | u, b1⟩ <;> rfl

/-- **A key load that mints leaves a key on disk**, whatever the checks after it say. -/
theorem buildConfig_minted {E : Env} {b : Backend} {io : Io} (h : b.mintsKey io) :
    keyFileHasNodeKey (b.buildConfig E io).2.keyFile = true := by
  unfold buildConfig Tailnetd.buildConfig loadKeyFile
  simp only [h.1, h.2, Bool.not_true, Bool.false_eq_true, if_false]
  simp [keyFile, setKeyFile, keyFileHasNodeKey]

/-- One that does not mint leaves the key file as it is. -/
theorem buildConfig_kept {E : Env} {b : Backend} {io : Io} (h : ¬ b.mintsKey io) :
    (b.buildConfig E io).2.keyFile = b.keyFile := by
  unfold buildConfig Tailnetd.buildConfig loadKeyFile
  cases hok : io.key.ok with
  | false => simp [keyFile, setKeyFile]
  | true =>
    rcases hfile : b.keyFile with _ | (key | _)
    · exact absurd ⟨hfile, hok⟩ h
    · simp [keyFile, setKeyFile]
    · simp [keyFile, setKeyFile]

/-- **A built config leaves a key on disk.** -/
theorem buildConfig_ok_key {E : Env} {b b' : Backend} {io : Io} {config : Config}
    (h : b.buildConfig E io = (.ok config, b')) : keyFileHasNodeKey b'.keyFile = true := by
  obtain ⟨-, -, hok, hmal⟩ := buildConfig_ok h
  by_cases hmints : b.mintsKey io
  · have hminted := buildConfig_minted (E := E) hmints
    rw [h] at hminted
    exact hminted
  · have hkept := buildConfig_kept (E := E) hmints
    rw [h] at hkept
    rw [hkept]
    rcases hfile : b.keyFile with _ | (key | _)
    · exact absurd ⟨hfile, hok⟩ hmints
    · rfl
    · exact absurd hfile hmal

theorem discardNodeKey_agrees {b : Backend} (io : Io) (h : KeyAgrees b) :
    KeyAgrees (b.discardNodeKey io).2 := by
  unfold discardNodeKey
  split
  · exact h
  · simp [KeyAgrees, keyFile, setKeyFile, keyFileHasNodeKey]

theorem reauth_agrees {b : Backend} (o : UpOptions) (io : Io) (h : KeyAgrees b) :
    KeyAgrees (b.reauth o io).2 := by
  unfold reauth
  split
  · exact discardNodeKey_agrees io h
  · exact h

/-- The key file a `begin_up` section builds its config with. -/
theorem reauth_keyFile {b b' : Backend} {o : UpOptions} {io : Io}
    (h : b.reauth o io = (.ok (), b')) :
    b'.keyFile = if o.forceReauth then none else b.keyFile := by
  unfold reauth discardNodeKey at h
  split at h
  · rename_i hforce
    split at h
    · cases h
    · cases h
      rw [if_pos hforce]
      simp [keyFile, setKeyFile]
  · rename_i hforce
    cases h
    rw [if_neg hforce]

/-- What a discard that went through leaves. -/
theorem reauth_eq {b b' : Backend} {o : UpOptions} {io : Io} (h : b.reauth o io = (.ok (), b')) :
    b' = b ∨ b' = { b.setKeyFile none with hasNodeKey := false } := by
  unfold reauth discardNodeKey at h
  split at h
  · split at h
    · cases h
    · cases h
      exact .inr rfl
  · cases h
    exact .inl rfl

end Backend

/-! ## Where a key is minted and not recorded -/

/-- A `begin_up` section that gets to its key load and mints a key there passes the checks after
    it. -/
def MintsCleanly (E : Env) (b : Backend) (o : UpOptions) (netmap : ExitNodeFacts) (io : Io) :
    Prop :=
  ∀ tags edit, b.checkUp E o netmap = .ok (tags, edit) →
    (o.forceReauth = true → io.removeKey = true) →
    (b.upResult E o tags edit).persists io = true →
    io.key.ok = true → (o.forceReauth = true ∨ b.keyFile = none) →
    buildChecks E.host (b.upResult E o tags edit).prefs = true

/-- An activation that gets through without being able to read the target's node key. -/
def ActivatesUnread (b : Backend) (id : String) (io : Io) : Prop :=
  id ≠ b.currentProfile ∧ io.loadPrefs = true ∧ io.savePointer = true ∧
    (id = defaultProfileId ∨ io.saveProfiles = true) ∧
    io.readKey = false ∧ keyFileHasNodeKey (b.disk.keyFile id) = true

/-- The steps that tell the cache about every key they leave on disk. -/
def RecordsKeys (H : Host) (d : Daemon) : Event → Prop
  | .up o _ _ netmap io => MintsCleanly (d.env H) d.backend o netmap io
  | .rebuild _ io => MintsCleanly (d.env H) d.backend {} {} io
  | .reconnect _ io => MintsCleanly (d.env H) d.backend {} {} io
  | .resume _ io => MintsCleanly (d.env H) d.backend {} {} io
  | .preflight _ io => ¬ d.backend.mintsKey io
  | .switchProfile target io => ∀ id,
      resolveTargetToId target (d.backend.disk.loadProfiles io) = some id →
        ¬ ActivatesUnread d.backend id io
  | .createProfile id io => ¬ ActivatesUnread d.backend id io
  | _ => True

namespace Backend

/-- **A `begin_up` section that mints cleanly keeps the agreement**, wherever it fails. -/
theorem beginUp_agrees {E : Env} {b : Backend} {o : UpOptions} {netmap : ExitNodeFacts} {io : Io}
    (h : KeyAgrees b) (hclean : MintsCleanly E b o netmap io) (wif : Option WifCreds) :
    KeyAgrees (b.beginUp E o wif netmap io).2 := by
  unfold beginUp
  rcases hcheck : b.checkUp E o netmap with e | ⟨tags, edit⟩
  · exact h
  · have hstopped : KeyAgrees b.stopDevice := h
    have hkeyed := reauth_agrees o io hstopped
    dsimp only
    rcases hre : b.stopDevice.reauth o io with ⟨f | u, b1⟩
    · rw [hre] at hkeyed
      exact hkeyed
    · rw [hre] at hkeyed
      have hfile := reauth_keyFile hre
      have happlied := applyUp_edits E b1 (o.withTags tags) edit
      have hresult : (b1.applyUp E (o.withTags tags) edit).prefs =
            (b.upResult E o tags edit).prefs ∧
          (b1.applyUp E (o.withTags tags) edit).persists io =
            (b.upResult E o tags edit).persists io := by
        rw [upResult, applyUp_eq, applyUp_eq]
        rcases reauth_eq hre with rfl | rfl <;> exact ⟨rfl, rfl⟩
      have hpersist := persistPrefs_isOk (b1.applyUp E (o.withTags tags) edit) io
      have hsaved := happlied.trans (persistPrefs_edits _ io)
      have hprefs := (persistPrefs_diskOnly (b1.applyUp E (o.withTags tags) edit) io).prefs
      dsimp only
      rcases hp : (b1.applyUp E (o.withTags tags) edit).persistPrefs io with ⟨f | u, b2⟩
      · rw [hp] at hsaved
        exact hsaved.keyAgrees hkeyed
      · rw [hp] at hsaved hprefs hpersist
        have hb2 := hsaved.keyAgrees hkeyed
        dsimp only
        rcases hc : b2.buildConfig E io with ⟨f | config, b3⟩
        · by_cases hmints : b2.mintsKey io
          · -- a minted key comes with checks that pass, and then the config is built
            have hchecks : buildChecks E.host b2.prefs = true := by
              rw [hprefs, hresult.1]
              refine hclean tags edit hcheck (reauth_ok (by rw [hre]; rfl)) ?_ hmints.2 ?_
              · rw [← hresult.2, ← hpersist]
                rfl
              · have hnone := hmints.1
                rw [hsaved.keyFile, hfile] at hnone
                by_cases hforce : o.forceReauth = true
                · exact .inl hforce
                · rw [if_neg hforce] at hnone
                  exact .inr hnone
            have hok := (buildConfig_isOk E b2 io).mpr
              ⟨hmints.2, by simp [hmints.1], hchecks⟩
            rw [hc] at hok
            cases hok
          · have hkept := buildConfig_kept (E := E) hmints
            rw [hc] at hkept
            have hcache : b3.hasNodeKey = b2.hasNodeKey := congrArg (fun out => out.2.hasNodeKey) hc.symm
            show b3.hasNodeKey = keyFileHasNodeKey b3.keyFile
            rw [hkept, hcache]
            exact hb2
        · exact (buildConfig_ok_key hc).symm

theorem logout_agrees {E : Env} {b : Backend} (actor : Actor) (io : Io) (h : KeyAgrees b) :
    KeyAgrees (b.logout E actor io).2 := by
  unfold logout
  split
  · exact h
  · have htorn : KeyAgrees b.stopDevice.bumpGeneration := h
    have hkeyed := discardNodeKey_agrees io htorn
    split
    · rename_i heq
      rw [heq] at hkeyed
      exact hkeyed
    · rename_i b1 heq
      rw [heq] at hkeyed
      have hcleared : Edits b1 b1.clearLogin := memory_edits rfl rfl rfl
      have hedge := hcleared.trans (disconnectEdge_edits E b1.clearLogin b.prefs.wantRunning)
      exact (hedge.trans (persistPrefs_edits _ io)).keyAgrees hkeyed

/-- The accesses an activation needs to get through. -/
theorem activateProfile_switched {E : Env} {b : Backend} {target id : String} {register : Bool}
    {io : Io} {state : State}
    (h : (b.activateProfile E target register io).1 = .ok (.switched id state)) :
    io.loadPrefs = true ∧ io.savePointer = true ∧
      (register = false ∨ target = defaultProfileId ∨ io.saveProfiles = true) := by
  unfold activateProfile at h
  by_cases hcur : target = b.currentProfile
  · rw [if_pos hcur] at h
    cases h
  · rw [if_neg hcur] at h
    unfold recordActivation listProfile savePointer at h
    cases hload : io.loadPrefs with
    | false =>
      rw [hload] at h
      cases h
    | true =>
      simp only [hload, Bool.not_true, Bool.false_eq_true, if_false] at h
      refine ⟨rfl, ?_⟩
      by_cases hlists : (register && target != defaultProfileId) = true
      · rw [if_pos hlists] at h
        cases hsave : io.saveProfiles with
        | false =>
          rw [hsave] at h
          cases h
        | true =>
          cases hpointer : io.savePointer with
          | false =>
            rw [hsave, hpointer] at h
            cases h
          | true => exact ⟨rfl, .inr (.inr rfl)⟩
      · rw [if_neg hlists] at h
        rw [Bool.and_eq_true, not_and_or, bne_iff_ne, not_not, Bool.not_eq_true] at hlists
        cases hpointer : io.savePointer with
        | false =>
          rw [hpointer] at h
          cases h
        | true => exact ⟨rfl, hlists.imp_right .inl⟩

/-- **An activation keeps the agreement** unless it goes through without reading the key it
    activates. -/
theorem activateProfile_agrees {E : Env} {b : Backend} {target : String} {register : Bool} {io : Io}
    (h : KeyAgrees b)
    (hread : ∀ state, (b.activateProfile E target register io).1 = .ok (.switched target state) →
      target ≠ b.currentProfile →
      io.readKey = true ∨ keyFileHasNodeKey (b.disk.keyFile target) = false) :
    KeyAgrees (b.activateProfile E target register io).2 := by
  rcases activateProfile_outcomes E b target register io with ⟨-, hres⟩ | ⟨-, f, profiles, hres⟩ |
    ⟨hne, state, profiles, hres⟩ <;> rw [hres] at hread ⊢
  · exact h
  · exact h
  · show (io.readKey && keyFileHasNodeKey (b.disk.keyFile target)) =
      keyFileHasNodeKey (b.disk.keyFile target)
    rcases hread state rfl hne with hread | hnone
    · rw [hread, Bool.true_and]
    · rw [hnone, Bool.and_false]

/-- A listed activation is read when it is not one that goes unread. -/
theorem read_of_not_unread {E : Env} {b : Backend} {target : String} {io : Io}
    (hread : ¬ ActivatesUnread b target io) (state : State)
    (hok : (b.activateProfile E target true io).1 = .ok (.switched target state))
    (hne : target ≠ b.currentProfile) :
    io.readKey = true ∨ keyFileHasNodeKey (b.disk.keyFile target) = false := by
  obtain ⟨hload, hpointer, hlist⟩ := activateProfile_switched hok
  by_contra hno
  rw [not_or, Bool.not_eq_true, Bool.not_eq_false] at hno
  exact hread ⟨hne, hload, hpointer, hlist.resolve_left (by decide), hno⟩

theorem removeProfileFiles_agrees {b : Backend} {id : String} (hid : id ≠ b.currentProfile)
    (io : Io) (h : KeyAgrees b) : KeyAgrees (b.removeProfileFiles id io).2 := by
  obtain ⟨-, hfile, -, hcache⟩ := removeProfileFiles_current hid io
  unfold KeyAgrees
  rw [hfile, hcache]
  exact h

theorem switchToEmptyProfile_agrees {E : Env} {b : Backend} (draw : Nat → Option (UInt8 × UInt8))
    (io : Io) (h : KeyAgrees b) : KeyAgrees (b.switchToEmptyProfile E draw io).2 := by
  rcases switchToEmptyProfile_outcomes E b draw io with ⟨-, hres⟩ | ⟨f, hres⟩ |
    ⟨id, -, -, -, -, hcur, -, ⟨f, hres⟩ | ⟨hremoved, hres⟩⟩ <;> rw [hres]
  · exact (resetToEmptyProfile_edits E b io).keyAgrees h
  · exact h
  · exact removeProfileFiles_agrees hcur io h
  · refine activateProfile_agrees (removeProfileFiles_agrees hcur io h) fun _ _ _ => .inr ?_
    -- the fresh id's key file was just removed
    rcases removeProfileFiles_outcomes b id io with ⟨f, hrm⟩ | ⟨f, hrm⟩ | hrm <;>
      rw [hrm] at hremoved ⊢
    · cases hremoved
    · cases hremoved
    · simp [keyFileHasNodeKey]

theorem deleteProfile_agrees {b : Backend} (target : String) (io : Io) (h : KeyAgrees b) :
    KeyAgrees (b.deleteProfile target io).2 := by
  rcases deleteProfile_outcomes b target io with ⟨hsame, -⟩ |
    ⟨id, -, hcur, -, ⟨f, hres⟩ | ⟨-, result, profiles, -, hres⟩⟩
  · rw [hsame]
    exact h
  · rw [hres]
    exact removeProfileFiles_agrees hcur io h
  · rw [hres]
    exact (setProfiles_edits _ profiles).keyAgrees (removeProfileFiles_agrees hcur io h)

end Backend

/-! ## The invariant -/

/-- A `begin_up` section of the daemon. -/
theorem beginUp_keyAgrees {H : Host} {d : Daemon} {o : UpOptions} {netmap : ExitNodeFacts} {io : Io}
    (h : KeyAgrees d.backend) (hclean : MintsCleanly (d.env H) d.backend o netmap io)
    (origin : Origin) (authkey : Option String) (wif : Option WifCreds) :
    KeyAgrees (d.beginUp H origin authkey o wif netmap io).backend := by
  rw [Daemon.beginUp_backend]
  exact Backend.beginUp_agrees h hclean wif

/-- **Every step that records its keys keeps the agreement.** -/
theorem keyAgrees_step {H : Host} {d d' : Daemon} {e : Event} (h : KeyAgrees d.backend)
    (hgood : RecordsKeys H d e) (hstep : Daemon.step H d e = some d') : KeyAgrees d'.backend := by
  have hmints {origin : Origin} {authkey : Option String} {o : UpOptions} {netmap : ExitNodeFacts}
      {io : Io} (hstart : Starts H d e origin authkey o netmap io) :
      MintsCleanly (d.env H) d.backend o netmap io := by
    cases hstart <;> exact hgood
  have hran := Daemon.step_ran hstep
  generalize d'.backend = b' at hran ⊢
  cases hran with
  | nothing => exact h
  | beginUp hstart wif => exact Backend.beginUp_agrees h (hmints hstart) wif
  | finish htask => exact (Backend.finishSection_edits _ _ _ _ _).keyAgrees h
  | set => exact (Backend.beginSet_edits _ _ _ _ _).keyAgrees h
  | reload => exact (Backend.reloadConfig_edits _ _ _ _ _).keyAgrees h
  | preflight =>
    unfold KeyAgrees
    rw [Backend.buildConfig_kept (E := d.env H) hgood]
    exact h
  | bringDown => exact (Backend.down_edits _ _ _ _).keyAgrees h
  | down => exact (Backend.down_edits _ _ _ _).keyAgrees h
  | logout => exact Backend.logout_agrees _ _ h
  | @switchProfile target io =>
    rcases Backend.switchProfile_outcomes (d.env H) d.backend target io with ⟨f, hres⟩ |
      ⟨id, hresolved, -, hres⟩ <;> rw [hres]
    · exact h
    · exact Backend.activateProfile_agrees h (Backend.read_of_not_unread (hgood id hresolved))
  | @createProfile id io =>
    rcases Backend.createProfile_outcomes (d.env H) d.backend id io with ⟨f, hres⟩ |
      ⟨-, -, hres⟩ <;> rw [hres]
    · exact h
    · exact Backend.activateProfile_agrees h (Backend.read_of_not_unread hgood)
  | switchToEmptyProfile => exact Backend.switchToEmptyProfile_agrees _ _ h
  | deleteProfile => exact Backend.deleteProfile_agrees _ _ h
  | policyTick keys exitKeys => exact (Backend.policyTick_edits d.backend keys exitKeys).keyAgrees h
  | timerFired => exact (Backend.claimDueReconnect_edits d.backend _).keyAgrees h
  | engine => exact h

/-- A start of the process that tells the cache about every key: the current profile's key can be
    read if it holds one, and the auto-start's `begin_up` mints cleanly. -/
structure BootRecordsKeys (H : Host) (policy : List PolicySource) (s : Daemon.BootInput) : Prop where
  load : s.loadIo.readKey = true ∨
    keyFileHasNodeKey (s.disk.keyFile (loadCurrentProfile (s.disk.readPointer s.loadIo))) = false
  start : ∀ key d, Daemon.loaded H policy s = .ok (key, d) → d.backend.wantsRunning = true →
    MintsCleanly (d.env H) d.attempted.backend {} {} s.startIo

/-- The load seeds the cache, and a config or a launch flag leaves it. -/
theorem loaded_keyAgrees {H : Host} {policy : List PolicySource} {s : Daemon.BootInput}
    {key : Option String} {d : Daemon} (hrecords : BootRecordsKeys H policy s)
    (h : Daemon.loaded H policy s = .ok (key, d)) : KeyAgrees d.backend := by
  obtain ⟨b, hload, hedits⟩ := loaded_edits h
  obtain ⟨hdisk, hprofile, -, hcache⟩ := Backend.load_eq hload
  refine hedits.keyAgrees ?_
  show b.hasNodeKey = keyFileHasNodeKey (b.disk.keyFile b.currentProfile)
  rw [hcache, hdisk, hprofile]
  rcases hrecords.load with hread | hnone
  · rw [hread, Bool.true_and]
  · rw [hnone, Bool.and_false]

theorem boot_keyAgrees {H : Host} {policy : List PolicySource} {s : Daemon.BootInput} {d : Daemon}
    (hrecords : BootRecordsKeys H policy s) (h : Daemon.boot H policy s = .ok d) :
    KeyAgrees d.backend := by
  refine Daemon.boot_rule (P := fun d => KeyAgrees d.backend) ?_ ?_ ?_ h
  · intro key d₀ hloaded
    exact loaded_keyAgrees hrecords hloaded
  · intro key d₀ authkey hloaded hwants h₀
    exact beginUp_keyAgrees (d := d₀.attempted) h₀ (hrecords.start key d₀ hloaded hwants) _ _ none
  · intro d₁ d₂ h₁ hstep
    exact keyAgrees_step (e := .finish 0 s.built s.finishIo) h₁ trivial hstep

/-- **The cached answer agrees with the disk** in every state of a run from a boot, where every key
    load that mints a key is followed by checks that pass, no preflight mints one, and no profile is
    loaded whose key cannot be read. -/
theorem node_key_cache_agrees {H : Host} {policy : List PolicySource} {s : Daemon.BootInput}
    {d₀ d : Daemon} {es : List Event} (hboot : Daemon.boot H policy s = .ok d₀)
    (hstart : BootRecordsKeys H policy s)
    (hrun : Run (Daemon.step H) (RecordsKeys H) d₀ es d) :
    d.backend.hasNodeKey = keyFileHasNodeKey d.backend.keyFile := by
  have hinv : KeyAgrees d.backend := hrun.invariant (P := fun d => KeyAgrees d.backend)
    (fun _ _ _ h hgood hstep => keyAgrees_step h hgood hstep) (boot_keyAgrees hstart hboot)
  exact hinv

/-- A first `up` and a logout after it. -/
def upAndLogout : List Event := [.up {} none none {} {}, .logout none {}]

/-- A first `up` mints the key and says so, and a logout forgets it. -/
theorem node_key_cache_agrees_logout :
    ∃ d₀ d₁ d, Daemon.boot plainHost [] firstBoot = .ok d₀ ∧
      follow (Daemon.step plainHost) d₀ [.up {} none none {} {}] = some d₁ ∧
      follow (Daemon.step plainHost) d₀ upAndLogout = some d ∧
      d₁.backend.hasNodeKey = true ∧
      d.backend.hasNodeKey = keyFileHasNodeKey d.backend.keyFile := by
  obtain ⟨d₀, d₁, d, hboot, hup, hrun, hkey, hchecks, hlogout⟩ : ∃ d₀ d₁ d,
      Daemon.boot plainHost [] firstBoot = .ok d₀ ∧
      follow (Daemon.step plainHost) d₀ [.up {} none none {} {}] = some d₁ ∧
      follow (Daemon.step plainHost) d₀ upAndLogout = some d ∧
      d₁.backend.hasNodeKey = true ∧
      (∀ tags edit, d₀.backend.checkUp (d₀.env plainHost) {} {} = .ok (tags, edit) →
        buildChecks plainHost (d₀.backend.upResult (d₀.env plainHost) {} tags edit).prefs = true) ∧
      Daemon.step plainHost d₁ (.logout none {}) = some d := by
    refine ⟨_, _, _, rfl, rfl, rfl, rfl, ?_, rfl⟩
    intro tags edit hcheck
    cases hcheck
    rfl
  have hstart : BootRecordsKeys plainHost [] firstBoot := by
    refine ⟨.inl rfl, ?_⟩
    rintro key d hloaded hwants
    cases hloaded
    cases hwants
  have hstep : Daemon.step plainHost d₀ (.up {} none none {} {}) = some d₁ := by
    obtain ⟨t, ht, heq⟩ := Option.bind_eq_some_iff.mp hup
    exact ht.trans heq
  have hgood : RecordsKeys plainHost d₀ (.up {} none none {} {}) :=
    fun tags edit hcheck _ _ _ _ => hchecks tags edit hcheck
  have hforgets : RecordsKeys plainHost d₁ (.logout none {}) := trivial
  exact ⟨d₀, d₁, d, hboot, hup, hrun, hkey, node_key_cache_agrees hboot hstart
    (.cons hgood hstep (.cons hforgets hlogout (.nil d)))⟩

/-- **An `up` that fails after its key load leaves a key the cache does not know of**: the control
    URL is checked after the key file was written. -/
theorem failed_up_leaves_key :
    ¬ ∀ d : Daemon, Daemon.Reachable plainHost (fun _ _ => True) d →
      d.backend.hasNodeKey = keyFileHasNodeKey d.backend.keyFile := by
  intro hclaim
  obtain ⟨d, hd, hcache, hkey⟩ : ∃ d,
      Daemon.replay plainHost [] firstBoot
        [.up { controlUrl := some "not a url" } none none {} {}] = some d ∧
      d.backend.hasNodeKey = false ∧ keyFileHasNodeKey d.backend.keyFile = true :=
    ⟨_, rfl, rfl, rfl⟩
  have hagrees := hclaim d (Daemon.reachable_replay (fun _ _ _ => trivial) hd)
  rw [hcache, hkey] at hagrees
  cases hagrees

end Tailnetd
