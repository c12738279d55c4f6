/-
  What a config document leaves in the prefs: all of it or nothing, and only prefs the node can come
  up with.

  The merge is checked before it is written, so a document that fails a check leaves the prefs
  alone, and what it does write passes the same parsers again when the engine's config is built.
  Two things escape.  The registration key is resolved after the writes, so a key file that cannot
  be read fails the call with the document already in the prefs.  And the document is never asked
  the questions of the SSH preflight, which `up` and `set` ask before they write.
-/
import Tailnetd.Routes

namespace Tailnetd

/-! ## A document that has nothing to write -/

/-- The prefs hold what the document declares already. -/
structure ConfigVAlpha.Agrees (c : ConfigVAlpha) (p : Prefs) : Prop where
  /-- An absent `Enabled` declares a node that runs. -/
  enabled : p.wantRunning = c.enabled.getD true
  serverUrl : ∀ url, c.serverUrl = some url → p.controlUrl = some url
  hostname : ∀ name, c.hostname = some name → p.hostname = some name
  acceptDns : ∀ v, c.acceptDns = some v → p.acceptDns = v
  acceptRoutes : ∀ v, c.acceptRoutes = some v → p.acceptRoutes = v
  exitNode : ∀ exit, c.exitNode = some exit → p.exitNode = some exit
  advertiseRoutes : ∀ routes, c.advertiseRoutes = some routes → p.advertiseRoutes = routes
  shieldsUp : ∀ v, c.shieldsUp = some v → p.shieldsUp = v
  runSshServer : ∀ v, c.runSshServer = some v → p.sshEnabled = v
  advertiseExitNode : ∀ v, c.advertiseExitNode = some v → p.advertiseExitNode = v
  /-- An empty operator declares that there is none. -/
  operatorUser : ∀ op, c.operatorUser = some op →
    p.operatorUser = if op.isEmpty then none else some op
  allowLan : ∀ v, c.allowLanWhileUsingExitNode = some v → p.exitNodeAllowLanAccess = v
  postureChecking : ∀ v, c.postureChecking = some v → p.postureChecking = v
  runWebClient : ∀ v, c.runWebClient = some v → p.runWebClient = v
  appConnector : ∀ app, c.appConnector = some app → p.advertiseAppConnector = app.advertise
  autoUpdate : ∀ au, c.autoUpdate = some au →
    p.autoUpdateCheck = au.check ∧ p.autoUpdateApply = au.apply

/-- A declared value that is the stored one, or none at all, changes nothing. -/
theorem elim_eq_self_iff {α β : Type} (named : Option α) (stored : β) (f : α → β) :
    named.elim stored f = stored ↔ ∀ v, named = some v → stored = f v := by
  cases named with
  | none => simp
  | some v =>
    simp only [Option.elim_some, Option.some.injEq, forall_eq']
    exact eq_comm

theorem getD_eq_self_iff {α : Type} (named : Option α) (stored : α) :
    named.getD stored = stored ↔ ∀ v, named = some v → stored = v := by
  cases named with
  | none => simp
  | some v =>
    simp only [Option.getD_some, Option.some.injEq, forall_eq']
    exact eq_comm

theorem or_eq_self_iff {α : Type} (named stored : Option α) :
    named.or stored = stored ↔ ∀ v, named = some v → stored = some v := by
  cases named with
  | none => simp
  | some v =>
    simp only [Option.some_or, Option.some.injEq, forall_eq']
    exact eq_comm

/-- The fields a merge writes; it leaves every other one alone. -/
theorem ConfigVAlpha.merge_eq_self_fields (c : ConfigVAlpha) (p : Prefs) :
    c.merge p = p ↔
      (c.merge p).wantRunning = p.wantRunning ∧ (c.merge p).controlUrl = p.controlUrl ∧
      (c.merge p).hostname = p.hostname ∧ (c.merge p).acceptDns = p.acceptDns ∧
      (c.merge p).acceptRoutes = p.acceptRoutes ∧ (c.merge p).exitNode = p.exitNode ∧
      (c.merge p).advertiseRoutes = p.advertiseRoutes ∧ (c.merge p).shieldsUp = p.shieldsUp ∧
      (c.merge p).sshEnabled = p.sshEnabled ∧
      (c.merge p).advertiseExitNode = p.advertiseExitNode ∧
      (c.merge p).operatorUser = p.operatorUser ∧
      (c.merge p).exitNodeAllowLanAccess = p.exitNodeAllowLanAccess ∧
      (c.merge p).postureChecking = p.postureChecking ∧
      (c.merge p).runWebClient = p.runWebClient ∧
      (c.merge p).advertiseAppConnector = p.advertiseAppConnector ∧
      (c.merge p).autoUpdateCheck = p.autoUpdateCheck ∧
      (c.merge p).autoUpdateApply = p.autoUpdateApply := by
  constructor
  · intro h
    rw [h]
    simp
  · rintro ⟨h₁, h₂, h₃, h₄, h₅, h₆, h₇, h₈, h₉, h₁₀, h₁₁, h₁₂, h₁₃, h₁₄, h₁₅, h₁₆, h₁₇⟩
    cases p
    unfold merge at *
    dsimp only at *
    rw [h₁, h₂, h₃, h₄, h₅, h₆, h₇, h₈, h₉, h₁₀, h₁₁, h₁₂, h₁₃, h₁₄, h₁₅, h₁₆, h₁₇]

/-- The fields whose declared value is read through a function. -/
theorem ConfigVAlpha.merge_read (c : ConfigVAlpha) (p : Prefs) :
    (c.merge p).operatorUser =
        c.operatorUser.elim p.operatorUser (fun op => if op.isEmpty then none else some op) ∧
      (c.merge p).advertiseAppConnector =
        c.appConnector.elim p.advertiseAppConnector AppConnectorPrefs.advertise ∧
      (c.merge p).autoUpdateCheck = c.autoUpdate.elim p.autoUpdateCheck AutoUpdatePrefs.check ∧
      (c.merge p).autoUpdateApply = c.autoUpdate.elim p.autoUpdateApply AutoUpdatePrefs.apply := by
  unfold merge
  refine ⟨?_, ?_, ?_, ?_⟩
  · cases c.operatorUser <;> rfl
  · cases c.appConnector <;> rfl
  · cases c.autoUpdate <;> rfl
  · cases c.autoUpdate <;> rfl

/-- **A merge changes nothing exactly when the prefs agree with the document already.** -/
theorem ConfigVAlpha.merge_eq_self_iff (c : ConfigVAlpha) (p : Prefs) :
    c.merge p = p ↔ c.Agrees p := by
  obtain ⟨hoperator, happ, hcheck, happly⟩ := c.merge_read p
  rw [merge_eq_self_fields, hoperator, happ, hcheck, happly]
  simp only [elim_eq_self_iff]
  simp only [merge, getD_eq_self_iff, or_eq_self_iff]
  constructor
  · rintro ⟨h₁, h₂, h₃, h₄, h₅, h₆, h₇, h₈, h₉, h₁₀, h₁₁, h₁₂, h₁₃, h₁₄, h₁₅, h₁₆, h₁₇⟩
    exact ⟨h₁.symm, h₂, h₃, h₄, h₅, h₆, h₇, h₈, h₉, h₁₀, h₁₁, h₁₂, h₁₃, h₁₄, h₁₅,
      fun au hau => ⟨h₁₆ au hau, h₁₇ au hau⟩⟩
  · intro h
    exact ⟨h.enabled.symm, h.serverUrl, h.hostname, h.acceptDns, h.acceptRoutes, h.exitNode,
      h.advertiseRoutes, h.shieldsUp, h.runSshServer, h.advertiseExitNode, h.operatorUser,
      h.allowLan, h.postureChecking, h.runWebClient, h.appConnector,
      fun au hau => (h.autoUpdate au hau).1, fun au hau => (h.autoUpdate au hau).2⟩

/-! ## All or nothing -/

/-- The document names a key file that holds no key: it cannot be read, or it is blank. -/
def ConfigVAlpha.KeyMissing (c : ConfigVAlpha) (contents : Option String) : Prop :=
  ∃ key path, c.authKey = some key ∧ stripPrefix "file:" key = some path ∧
    ∀ text, contents = some text → (trim text).isEmpty = true

/-- The key fails to resolve exactly when its file holds none. -/
theorem registrationKey_fails_iff (c : ConfigVAlpha) (contents : Option String) :
    (c.registrationKey contents).isOk = false ↔ c.KeyMissing contents := by
  unfold ConfigVAlpha.registrationKey ConfigVAlpha.KeyMissing
  cases hkey : c.authKey with
  | none => simp [Except.isOk, Except.toBool]
  | some key =>
    dsimp only
    by_cases hempty : key.isEmpty = true
    · -- an empty key is no key, and no path can be read off it
      have hnone : stripPrefix "file:" key = none := by
        rw [String.isEmpty_iff.mp hempty]
        decide
      rw [if_pos hempty]
      simp [hnone, Except.isOk, Except.toBool]
    · rw [if_neg hempty]
      unfold resolveAuthKey
      cases hfile : stripPrefix "file:" key with
      | none => simp [hfile, Except.isOk, Except.toBool]
      | some path =>
        cases contents with
        | none => simp [hfile, Except.isOk, Except.toBool]
        | some text =>
          cases htext : (trim text).isEmpty <;>
            simp [hfile, htext, Except.isOk, Except.toBool, -String.isEmpty_iff,
              -String.isEmpty_eq_false_iff]

/-- **A failed merge leaves the prefs alone, unless it is the key that fails**: then it does so only
    where the checks refuse the document first, or the prefs agree with it already. -/
theorem failed_merge_untouched_iff (H : Host) (c : ConfigVAlpha) (contents : Option String)
    (p : Prefs) :
    ((applyToPrefs H c contents p).1.isOk = false → (applyToPrefs H c contents p).2 = p) ↔
      (c.KeyMissing contents → c.validate H p = .ok () → c.Agrees p) := by
  cases hvalid : c.validate H p with
  | error e =>
    rw [applyToPrefs_refused hvalid]
    simp
  | ok u =>
    rw [applyToPrefs_valid hvalid, registrationKey_fails_iff, c.merge_eq_self_iff]
    simp

/-- A document whose key is in a file. -/
def keyFileDocument : ConfigVAlpha := { authKey := some "file:/missing" }

/-- **A key file that cannot be read fails the call with the prefs written**: the node is to run. -/
theorem failed_key_writes_prefs :
    ¬ ∀ (H : Host) (c : ConfigVAlpha) (contents : Option String) (p : Prefs),
      (applyToPrefs H c contents p).1.isOk = false → (applyToPrefs H c contents p).2 = p := by
  intro hclaim
  have hwritten := congrArg Prefs.wantRunning (hclaim plainHost keyFileDocument none .default rfl)
  exact absurd hwritten (by decide)

/-! ## Prefs the node can come up with -/

/-- The host can run the SSH server: its gate is open, the feature is built in, and the daemon is
    root. -/
def Host.RunsSsh (H : Host) : Prop :=
  (canRunTailscaleSsh H).isOk = true ∧ H.featureSsh = true ∧ H.euid = 0

/-- The SSH preflight asks nothing of a node that does not want the server. -/
theorem sshPreflight_isOk_iff (H : Host) (p : Prefs) :
    (sshPreflight H p).isOk = true ↔ (p.sshEnabled = true → H.RunsSsh) := by
  unfold sshPreflight Host.RunsSsh
  cases p.sshEnabled with
  | false => simp [Except.isOk, Except.toBool]
  | true =>
    cases canRunTailscaleSsh H with
    | error e => simp [Except.isOk, Except.toBool]
    | ok u =>
      cases H.featureSsh with
      | false => simp [Except.isOk, Except.toBool]
      | true => by_cases hroot : H.euid = 0 <;> simp [hroot, Except.isOk, Except.toBool]

/-- A server URL the document may name is one the engine's config accepts. -/
theorem checkServerUrl_accepts {H : Host} {url : String}
    (h : checkServerUrl H (some url) = .ok ()) : (controlServer H (some url)).isOk = true := by
  unfold checkServerUrl at h
  unfold controlServer
  dsimp only at h ⊢
  cases hurl : H.parseUrl url with
  | none =>
    rw [hurl] at h
    cases h
  | some parsed =>
    rw [hurl] at h
    dsimp only at h ⊢
    by_cases hscheme : parsed.scheme = "http" ∨ parsed.scheme = "https"
    · rw [if_pos hscheme]
      rfl
    · rw [if_neg hscheme] at h
      cases h

/-- A document that passes its checks names a server URL that passes. -/
theorem validate_serverUrl {H : Host} {c : ConfigVAlpha} {p : Prefs}
    (h : c.validate H p = .ok ()) : checkServerUrl H c.serverUrl = .ok () := by
  unfold ConfigVAlpha.validate at h
  split at h
  · cases h
  · rename_i u hurl
    exact hurl

/-- The control server of the merged prefs: the document's, or the one there was. -/
theorem merge_controlServer {H : Host} {c : ConfigVAlpha} {p : Prefs}
    (hvalid : c.validate H p = .ok ()) (hp : (controlServer H p.controlUrl).isOk = true) :
    (controlServer H (c.merge p).controlUrl).isOk = true := by
  have hurl := validate_serverUrl hvalid
  rw [show (c.merge p).controlUrl = c.serverUrl.or p.controlUrl from rfl]
  cases hnamed : c.serverUrl with
  | none => exact hp
  | some url =>
    rw [hnamed] at hurl
    exact checkServerUrl_accepts hurl

/-- What the merge would have to be asked about the SSH server. -/
theorem merge_ssh_iff {H : Host} {c : ConfigVAlpha} {p : Prefs}
    (hp : p.sshEnabled = true → H.RunsSsh) :
    ((c.merge p).sshEnabled = true → H.RunsSsh) ↔ (c.runSshServer = some true → H.RunsSsh) := by
  rw [show (c.merge p).sshEnabled = c.runSshServer.getD p.sshEnabled from rfl]
  cases c.runSshServer with
  | none => simpa using hp
  | some v => simp

/-- **A document leaves prefs the node can come up with, unless it turns on an SSH server the host
    cannot run.** -/
theorem merge_keeps_buildChecks_iff {H : Host} {c : ConfigVAlpha} {contents : Option String}
    {p : Prefs} (hp : buildChecks H p = true)
    (hok : (applyToPrefs H c contents p).1.isOk = true) :
    buildChecks H (applyToPrefs H c contents p).2 = true ↔
      (c.runSshServer = some true → H.RunsSsh) := by
  cases hvalid : c.validate H p with
  | error e =>
    rw [applyToPrefs_refused hvalid] at hok
    cases hok
  | ok u =>
    rw [applyToPrefs_valid hvalid]
    unfold buildChecks at hp ⊢
    simp only [Bool.and_eq_true] at hp ⊢
    obtain ⟨⟨⟨-, hserver⟩, htun⟩, hssh⟩ := hp
    rw [sshPreflight_isOk_iff] at hssh ⊢
    have hroutes := (validate_routes hvalid).parse
    have hserver := merge_controlServer hvalid hserver
    -- no document names a TUN preference
    have htun : (transportMode H (c.merge p)).isOk = true := htun
    simp only [hroutes, hserver, htun, true_and]
    exact merge_ssh_iff hssh

/-- A host that parses one control server and the default routes. -/
def fleetHost : Host :=
  { plainHost with
    parseIpNet := fun text =>
      if text = "0.0.0.0/0" then some allIpv4 else if text = "::/0" then some allIpv6 else none
    parseUrl := fun text =>
      if text = "https://ctl.example.com" then some ⟨"https", "https://ctl.example.com/"⟩ else none }

/-- A document with a control server and routes. -/
def fleetDocument : ConfigVAlpha where
  serverUrl := some "https://ctl.example.com"
  advertiseRoutes := some ["0.0.0.0/0", "::/0"]

/-- What it names is checked, and the node comes up with it. -/
theorem merge_keeps_buildChecks_fleet :
    (applyToPrefs fleetHost fleetDocument none .default).2.controlUrl =
        some "https://ctl.example.com" ∧
      (applyToPrefs fleetHost fleetDocument none .default).2.advertiseRoutes =
        ["0.0.0.0/0", "::/0"] ∧
      buildChecks fleetHost (applyToPrefs fleetHost fleetDocument none .default).2 = true :=
  ⟨rfl, rfl, (@merge_keeps_buildChecks_iff fleetHost fleetDocument none .default rfl rfl).mpr
    fun h => by cases h⟩

/-- **A document may ask for an SSH server the build does not have**, and what it leaves behind is
    refused by every bring-up. -/
theorem document_ssh_unbringable :
    ¬ ∀ (H : Host) (c : ConfigVAlpha) (contents : Option String) (p : Prefs),
      buildChecks H p = true → (applyToPrefs H c contents p).1.isOk = true →
      buildChecks H (applyToPrefs H c contents p).2 = true := by
  intro hclaim
  exact absurd (hclaim plainHost { runSshServer := some true } none .default rfl rfl) (by decide)

end Tailnetd
