/-
  The control server of a running node (`ipn/control_url.rs`).

  Changing which control server a node talks to is a re-registration, so an `up` that would change
  it on a running node is refused unless it asks for a fresh registration.  The guard compares the
  URL the request names with the stored one, the two default servers and no URL at all counting as
  one server.

  What the guard reads is the request; what the node ends up with is the prefs `begin_up` leaves.
  The two differ where the URL moves without being named: `--reset` returns an unnamed one to its
  default, and a policy that configures the login server has the last word.
-/
import Tailnetd.PolicyFields
import Tailnetd.PrefsMoves

namespace Tailnetd

/-! ## The guard -/

namespace ControlUrl

/-- `LOGIN_SERVER_SYNONYMS`. -/
def loginServerSynonyms : List String :=
  ["https://login.tailscale.com", "https://controlplane.tailscale.com"]

/-- `normalize`: the default control server under any of its spellings is `none`. -/
def normalize : Option String → Option String
  | none => none
  | some url => if loginServerSynonyms.contains url then none else some url

/-- `change_blocked`. -/
def changeBlocked (current proposed : Option String) (running forceReauth : Bool) : Bool :=
  match proposed with
  | none => false
  | some _ => decide (normalize current ≠ normalize proposed) && running && !forceReauth

/-- What the guard lets through on a running node names no URL, or one of the server in use. -/
theorem changeBlocked_eq_false_iff (current proposed : Option String) :
    changeBlocked current proposed true false = false ↔
      (proposed = none ∨ normalize proposed = normalize current) := by
  cases proposed with
  | none => simp [changeBlocked]
  | some url =>
    simp only [changeBlocked, Bool.not_false, Bool.and_true, decide_eq_false_iff_not, not_not,
      reduceCtorEq, false_or]
    exact eq_comm

end ControlUrl

open ControlUrl

/-- `up_control_url_guard`: whether this `up` is refused for changing the server of a running
    node. -/
def Backend.upControlUrlGuard (b : Backend) (o : UpOptions) : Bool :=
  changeBlocked b.prefs.controlUrl o.controlUrl (b.engineState = some .running) o.forceReauth

/-! ## The URL an `up` leaves behind -/

/-- The URL the request itself asks for. -/
theorem upPrefs_controlUrl (o : UpOptions) (p : Prefs) :
    (Backend.upPrefs o p).controlUrl =
      o.controlUrl.or (if o.reset then none else p.controlUrl) := by
  cases hreset : o.reset <;>
    simp [Backend.upPrefs, UpOptions.applyOverrides, hreset, Prefs.resetUpManagedToDefault,
      Prefs.default]

/-- An accepted `up` that does not register afresh leaves the prefs it asked for, even where it
    fails later on. -/
theorem beginUp_accepted {E : Env} {b : Backend} {o : UpOptions} {wif : Option WifCreds}
    {netmap : ExitNodeFacts} {io : Io} {tags : Option (List String)} {edit : ExitNodeEdit}
    (hcheck : b.checkUp E o netmap = .ok (tags, edit)) (hforce : o.forceReauth = false) :
    (b.beginUp E o wif netmap io).2.prefs = (b.upResult E o tags edit).prefs := by
  have hcases := Backend.beginUp_cases E b o wif netmap io
  generalize b.beginUp E o wif netmap io = out at hcases ⊢
  cases hcases with
  | refused hrefused =>
    rw [hcheck] at hrefused
    cases hrefused
  | keyKept hreauth hkept hremove =>
    rw [hforce] at hkept
    cases hkept
  | failed haccepted hreauth hfail hb =>
    rw [hcheck] at haccepted
    cases haccepted
    exact hb.prefs
  | begun haccepted hreauth hconfig hkey hb =>
    rw [hcheck] at haccepted
    cases haccepted
    exact hb.prefs

/-- The URL an accepted `up` leaves behind. -/
theorem beginUp_controlUrl {E : Env} {b : Backend} {o : UpOptions} {wif : Option WifCreds}
    {netmap : ExitNodeFacts} {io : Io} {tags : Option (List String)} {edit : ExitNodeEdit}
    (hcheck : b.checkUp E o netmap = .ok (tags, edit)) (hforce : o.forceReauth = false) :
    (b.beginUp E o wif netmap io).2.prefs.controlUrl =
      ((configuredString E.settings "LoginURL").map wantedText).getD
        (o.controlUrl.or (if o.reset then none else b.prefs.controlUrl)) := by
  rw [beginUp_accepted hcheck hforce, Backend.upResult, Backend.applyUp_eq, policy_controlUrl,
    upPrefs_controlUrl]
  rfl

/-! ## Moving to another server -/

/-- The `up` moves the node without naming the server: the policy configures another one, or a reset
    drops a server of the operator's own. -/
inductive Backend.MovesServer (E : Env) (b : Backend) (o : UpOptions) : Prop
  | policy {url : String} (hurl : configuredString E.settings "LoginURL" = some url)
      (hother : normalize (wantedText url) ≠ normalize b.prefs.controlUrl) : MovesServer E b o
  | reset (hurl : configuredString E.settings "LoginURL" = none) (hreset : o.reset = true)
      (hunnamed : o.controlUrl = none) (hown : normalize b.prefs.controlUrl ≠ none) :
      MovesServer E b o

/-- The server the prefs end up with, by what the guard let through. -/
theorem sameServer_iff {E : Env} {b : Backend} {o : UpOptions}
    (hnamed : o.controlUrl = none ∨ normalize o.controlUrl = normalize b.prefs.controlUrl) :
    normalize (((configuredString E.settings "LoginURL").map wantedText).getD
        (o.controlUrl.or (if o.reset then none else b.prefs.controlUrl))) =
        normalize b.prefs.controlUrl ↔ ¬ b.MovesServer E o := by
  cases hurl : configuredString E.settings "LoginURL" with
  | some url =>
    constructor
    · rintro hsame (⟨h, hother⟩ | ⟨h, -, -, -⟩)
      · rw [hurl] at h
        cases h
        exact hother hsame
      · rw [hurl] at h
        cases h
    · intro h
      by_contra hother
      exact h (.policy hurl hother)
  | none =>
    have hpolicy : b.MovesServer E o ↔
        o.reset = true ∧ o.controlUrl = none ∧ normalize b.prefs.controlUrl ≠ none := by
      constructor
      · rintro (⟨h, -⟩ | ⟨-, hreset, hunnamed, hown⟩)
        · rw [hurl] at h
          cases h
        · exact ⟨hreset, hunnamed, hown⟩
      · rintro ⟨hreset, hunnamed, hown⟩
        exact .reset hurl hreset hunnamed hown
    rw [hpolicy]
    simp only [Option.map_none, Option.getD_none]
    cases hnone : o.controlUrl with
    | some url =>
      rw [hnone] at hnamed
      have hsame : normalize (some url) = normalize b.prefs.controlUrl := by simpa using hnamed
      simpa using hsame
    | none =>
      cases o.reset with
      | false => simp
      | true =>
        simp only [Option.none_or, if_true, true_and, not_not]
        exact eq_comm

/-- **An `up` that the guard lets through keeps a running node on its control server**, unless its
    checks accept it and it moves the server without naming one. -/
theorem up_keeps_control_server_iff {E : Env} {b : Backend} {o : UpOptions}
    (hrunning : b.engineState = some .running) (hforce : o.forceReauth = false)
    (hguard : b.upControlUrlGuard o = false) (wif : Option WifCreds) (netmap : ExitNodeFacts)
    (io : Io) :
    normalize (b.beginUp E o wif netmap io).2.prefs.controlUrl = normalize b.prefs.controlUrl ↔
      ((b.checkUp E o netmap).isOk = true → ¬ b.MovesServer E o) := by
  unfold Backend.upControlUrlGuard at hguard
  rw [hrunning, hforce, decide_eq_true rfl, changeBlocked_eq_false_iff] at hguard
  rcases hcheck : b.checkUp E o netmap with e | ⟨tags, edit⟩
  · have hkept : (b.beginUp E o wif netmap io).2 = b := by
      unfold Backend.beginUp
      rw [hcheck]
    rw [hkept]
    exact ⟨fun _ h => (by cases h), fun _ => rfl⟩
  · rw [beginUp_controlUrl hcheck hforce, sameServer_iff hguard]
    exact ⟨fun h _ => h, fun h => h rfl⟩

/-! ## A node with a server of its own -/

/-- A host that accepts one control server. -/
def ownServerHost : Host :=
  { plainHost with
    parseUrl := fun url =>
      if url = "https://hs.example.com" then some ⟨"https", "https://hs.example.com/"⟩ else none }

/-- Log in to that server, and come up. -/
def ownServerLogin : List Event :=
  [.up { controlUrl := some "https://hs.example.com" } none none {} {}, .finish 0 (some .running) {}]

/-- Naming the server in use again is no change. -/
theorem up_keeps_control_server_named :
    ∃ d, Daemon.replay ownServerHost [] firstBoot ownServerLogin = some d ∧
      d.backend.engineState = some .running ∧
      normalize (d.backend.beginUp ⟨ownServerHost, []⟩
        { controlUrl := some "https://hs.example.com" } none {} {}).2.prefs.controlUrl =
        normalize d.backend.prefs.controlUrl := by
  obtain ⟨d, hd, hrunning, hguard⟩ : ∃ d,
      Daemon.replay ownServerHost [] firstBoot ownServerLogin = some d ∧
      d.backend.engineState = some .running ∧
      d.backend.upControlUrlGuard { controlUrl := some "https://hs.example.com" } = false :=
    ⟨_, rfl, rfl, rfl⟩
  refine ⟨d, hd, hrunning, (up_keeps_control_server_iff hrunning rfl hguard none {} {}).mpr ?_⟩
  rintro - (⟨h, -⟩ | ⟨-, hreset, -, -⟩)
  · cases h
  · cases hreset

/-- **A bare `up --reset` moves a running node to the default server**, and the guard lets it
    through. -/
theorem reset_moves_control_server :
    ¬ ∀ (b : Backend) (o : UpOptions), b.engineState = some .running → o.forceReauth = false →
      b.upControlUrlGuard o = false →
      normalize (b.beginUp ⟨ownServerHost, []⟩ o none {} {}).2.prefs.controlUrl =
        normalize b.prefs.controlUrl := by
  intro hclaim
  obtain ⟨d, hrunning, hguard, hbefore, hafter⟩ : ∃ d : Daemon,
      d.backend.engineState = some .running ∧
      d.backend.upControlUrlGuard { reset := true } = false ∧
      normalize d.backend.prefs.controlUrl = some "https://hs.example.com" ∧
      normalize (d.backend.beginUp ⟨ownServerHost, []⟩
        { reset := true } none {} {}).2.prefs.controlUrl = none := by
    obtain ⟨d, -, h⟩ : ∃ d, Daemon.replay ownServerHost [] firstBoot ownServerLogin = some d ∧
      d.backend.engineState = some .running ∧
      d.backend.upControlUrlGuard { reset := true } = false ∧
      normalize d.backend.prefs.controlUrl = some "https://hs.example.com" ∧
      normalize (d.backend.beginUp ⟨ownServerHost, []⟩
        { reset := true } none {} {}).2.prefs.controlUrl = none := ⟨_, rfl, rfl, rfl, rfl, rfl⟩
    exact ⟨d, h⟩
  have hsame := hclaim d.backend { reset := true } hrunning rfl hguard
  rw [hbefore, hafter] at hsame
  cases hsame

end Tailnetd
