/-
  The advertised-route set that reaches the disk.

  The set is two preferences: the routes, and the exit-node flag, which stands for both default
  routes.  `up`, `set` and a config document are checked as a pair, with what they leave unnamed
  taken from the stored prefs.  The policy then decides the flag alone.  Forcing it on never hurts:
  it adds both default routes.  Forcing it off can leave a listed default route without its
  counterpart, so the pair that was checked is not the pair that is stored.
-/
import Tailnetd.Saves
import Tailnetd.PolicyFields

namespace Tailnetd

open Machine

/-! ## The set -/

/-- **When a set is accepted**: every entry is, and the default routes come in both families or not
    at all, which the exit-node flag makes sure of. -/
theorem calcAdvertiseRoutes_isOk (H : Host) (routes : List String) (exit : Bool) :
    (calcAdvertiseRoutes H routes exit).isOk =
      ((checkRoutes H routes).1.isEmpty && (exit ||
        (decide (allIpv4 ∈ (checkRoutes H routes).2) ==
          decide (allIpv6 ∈ (checkRoutes H routes).2)))) := by
  unfold calcAdvertiseRoutes
  generalize checkRoutes H routes = verdict
  obtain ⟨errors, set⟩ := verdict
  dsimp only
  cases exit with
  | true =>
    have hboth : decide (allIpv4 ∈ set ++ [allIpv4, allIpv6]) =
        decide (allIpv6 ∈ set ++ [allIpv4, allIpv6]) := by simp
    rw [if_pos rfl, if_pos hboth]
    cases errors <;> rfl
  | false =>
    rw [if_neg Bool.false_ne_true]
    generalize (set.insertionSort IpNet.before).destutter (· ≠ ·) = sorted
    by_cases h4 : allIpv4 ∈ set <;> by_cases h6 : allIpv6 ∈ set <;> cases errors <;>
      simp [h4, h6, Except.isOk, Except.toBool]

/-- The prefs advertise an acceptable set. -/
def RoutesValid (H : Host) (p : Prefs) : Prop :=
  (calcAdvertiseRoutes H p.advertiseRoutes p.advertiseExitNode).isOk = true

/-- The routes are acceptable with the exit-node flag off. -/
def RoutesStandAlone (H : Host) (p : Prefs) : Prop :=
  (calcAdvertiseRoutes H p.advertiseRoutes false).isOk = true

/-- The flag never makes an acceptable set unacceptable. -/
theorem RoutesValid.flag_on {H : Host} {p : Prefs} (h : RoutesValid H p) :
    (calcAdvertiseRoutes H p.advertiseRoutes true).isOk = true := by
  unfold RoutesValid at h
  rw [calcAdvertiseRoutes_isOk, Bool.and_eq_true] at h ⊢
  exact ⟨h.1, rfl⟩

/-- Routes that were checked parse. -/
theorem checkRoutes_parse {H : Host} {routes : List String}
    (h : (checkRoutes H routes).1 = []) : (parseAdvertiseRoutes H routes).isOk = true := by
  induction routes with
  | nil => rfl
  | cons s rest ih =>
    unfold checkRoutes at h
    unfold parseAdvertiseRoutes
    dsimp only at h
    cases hroute : checkRoute H s with
    | error e =>
      rw [hroute] at h
      cases h
    | ok net =>
      rw [hroute] at h
      have hrest := ih h
      unfold checkRoute at hroute
      cases hnet : H.parseIpNet s with
      | none =>
        rw [hnet] at hroute
        cases hroute
      | some net' =>
        dsimp only
        cases hp : parseAdvertiseRoutes H rest with
        | error e =>
          rw [hp] at hrest
          cases hrest
        | ok nets => rfl

/-- An acceptable set parses when the engine's config is built. -/
theorem RoutesValid.parse {H : Host} {p : Prefs} (h : RoutesValid H p) :
    (parseAdvertiseRoutes H p.advertiseRoutes).isOk = true := by
  unfold RoutesValid at h
  rw [calcAdvertiseRoutes_isOk, Bool.and_eq_true] at h
  exact checkRoutes_parse (List.isEmpty_iff.mp h.1)

/-- A validation that passed. -/
theorem validateAdvertiseRoutes_ok {H : Host} {routes : List String} {exit : Bool}
    (h : validateAdvertiseRoutes H routes exit = .ok ()) :
    (calcAdvertiseRoutes H routes exit).isOk = true := by
  unfold validateAdvertiseRoutes at h
  split at h
  · rename_i hset
    rw [hset]
    rfl
  · cases h

/-! ## The policy -/

/-- The policy forces the exit-node flag off. -/
def ForbidsExitNode (settings : List PolicySetting) : Prop :=
  configuredPreference settings "AdvertiseExitNode" = some .never

/-- The policy leaves the routes alone. -/
theorem policy_advertiseRoutes (settings : List PolicySetting) (p : Prefs) (o : PolicyOverrides) :
    (applySettingsToPrefs settings p o).1.advertiseRoutes = p.advertiseRoutes :=
  PrefValue.texts.inj (policy_free (n := .advertiseRoutes) (by decide) settings p o)

/-- **The policy keeps an acceptable set acceptable**, unless it forces the flag off and the routes
    do not stand without it. -/
theorem RoutesValid.policy {H : Host} {p : Prefs} (h : RoutesValid H p)
    {settings : List PolicySetting} (hforbid : ForbidsExitNode settings → RoutesStandAlone H p)
    (o : PolicyOverrides) : RoutesValid H (applySettingsToPrefs settings p o).1 := by
  have hflag : (applySettingsToPrefs settings p o).1.advertiseExitNode =
      ((configuredPreference settings "AdvertiseExitNode").bind PreferenceOption.forced).getD
        p.advertiseExitNode :=
    policy_preference
      (show advertiseExitNodePolicy ∈ preferencePolicies by simp [preferencePolicies]) settings p o
  unfold RoutesValid
  rw [policy_advertiseRoutes, hflag]
  cases hoption : configuredPreference settings "AdvertiseExitNode" with
  | none => exact h
  | some option =>
    cases option with
    | always => exact h.flag_on
    | never => exact hforbid hoption
    | userDecides => exact h

/-! ## What is asked for is acceptable -/

/-- The checks of an edit include the set it leaves behind. -/
theorem checkEdit_routes {E : Env} {b : Backend} {r : EditRequest} {netmap : ExitNodeFacts}
    {verdict : Option (List String) × ExitNodeEdit} (h : b.checkEdit E r netmap = .ok verdict) :
    (calcAdvertiseRoutes E.host
      (prospectiveRouteSet r.advertiseRoutes r.advertiseExitNode b.prefs r.reset).1
      (prospectiveRouteSet r.advertiseRoutes r.advertiseExitNode b.prefs r.reset).2).isOk = true := by
  unfold Backend.checkEdit at h
  dsimp only at h
  split at h
  · cases h
  · rename_i u hvalid
    exact validateAdvertiseRoutes_ok hvalid

theorem checkUp_routes {H : Host} {policy : List PolicySource} {b : Backend} {o : UpOptions}
    {netmap : ExitNodeFacts} {tags : Option (List String)} {edit : ExitNodeEdit}
    (h : b.checkUp ⟨H, policy⟩ o netmap = .ok (tags, edit)) :
    RoutesValid H (Backend.upPrefs (o.withTags tags) b.prefs) := by
  have hset := checkEdit_routes h
  unfold RoutesValid
  cases hreset : o.reset with
  | true =>
    simp only [prospectiveRouteSet, hreset, if_true] at hset
    simpa [Backend.upPrefs, UpOptions.withTags, hreset, UpOptions.applyOverrides,
      Prefs.resetUpManagedToDefault] using hset
  | false =>
    simp only [prospectiveRouteSet, hreset, Bool.false_eq_true, if_false] at hset
    simpa [Backend.upPrefs, UpOptions.withTags, hreset, UpOptions.applyOverrides] using hset

theorem checkSet_routes {H : Host} {policy : List PolicySource} {b : Backend} {o : SetOptions}
    {netmap : ExitNodeFacts} {tags : Option (List String)} {edit : ExitNodeEdit}
    (h : b.checkSet ⟨H, policy⟩ o netmap = .ok (tags, edit)) :
    RoutesValid H ((o.withTags tags).applyOverrides b.prefs) := by
  unfold Backend.checkSet at h
  split at h
  · cases h
  · rename_i verdict hedit
    exact checkEdit_routes hedit

theorem validate_routes {H : Host} {c : ConfigVAlpha} {p : Prefs} (h : c.validate H p = .ok ()) :
    RoutesValid H (c.merge p) := by
  unfold ConfigVAlpha.validate checkConfigRoutes at h
  split at h
  · cases h
  · split at h
    · cases h
    · rename_i u hroutes
      split at hroutes
      · rename_i hset
        unfold RoutesValid
        rw [show (c.merge p).advertiseRoutes = c.advertiseRoutes.getD p.advertiseRoutes from rfl,
          show (c.merge p).advertiseExitNode = c.advertiseExitNode.getD p.advertiseExitNode from rfl,
          hset]
        rfl
      · cases hroutes

theorem default_routes (H : Host) : RoutesValid H Prefs.default := rfl

/-! ## The invariant -/

/-- The prefs in memory and in every prefs file advertise an acceptable set. -/
structure RoutesKept (H : Host) (b : Backend) : Prop where
  memory : RoutesValid H b.prefs
  files : ∀ id p, b.disk.prefsFile id = some p → RoutesValid H p

theorem SavesOnly.routesKept {H : Host} {b b' : Backend} (hs : SavesOnly b b') (h : RoutesKept H b)
    (hmemory : RoutesValid H b'.prefs) : RoutesKept H b' := by
  refine ⟨hmemory, ?_⟩
  intro id p hfile
  rcases hs id p hfile with hold | rfl
  · exact h.files id p hold
  · exact hmemory

/-- The prefs a profile operation lands on are stored ones or the defaults. -/
theorem landing_routes {H : Host} {d : Daemon} {e : Event} {id : String} {p : Prefs}
    (h : RoutesKept H d.backend) (hlanding : d.landing e = some (id, p)) : RoutesValid H p := by
  have hstored (id : String) : RoutesValid H ((d.backend.disk.prefsFile id).getD Prefs.default) := by
    cases hfile : d.backend.disk.prefsFile id with
    | none => exact default_routes H
    | some p => exact h.files id p hfile
  cases e with
  | switchProfile target io =>
    obtain ⟨id', -, heq⟩ := Option.map_eq_some_iff.mp hlanding
    cases heq
    exact hstored _
  | createProfile id' io =>
    cases hlanding
    exact hstored _
  | switchToEmptyProfile draw io =>
    dsimp only [Daemon.landing] at hlanding
    split at hlanding
    · cases hlanding
      exact default_routes H
    · split at hlanding <;> cases hlanding
      exact default_routes H
  | _ => cases hlanding

/-- What a section asks for advertises an acceptable set: it was checked, or it was stored. -/
theorem asks_routes {H : Host} {d : Daemon} {e : Event} {p : Prefs} (h : RoutesKept H d.backend)
    (hasks : Asks H d e p) : RoutesValid H p := by
  cases hasks with
  | up hstart hcheck hreauth => exact checkUp_routes hcheck
  | set hcheck => exact checkSet_routes hcheck
  | reload hsource hdoc hvalid hkey => exact validate_routes hvalid
  | profile hlanding hswitch => exact landing_routes h hlanding

/-- No section asks for routes that do not stand alone while the policy forbids the exit node. -/
def KeepsRouteSet (H : Host) (d : Daemon) (e : Event) : Prop :=
  ∀ p, Asks H d e p → ForbidsExitNode (d.env H).settings → RoutesStandAlone H p

/-- **Every step that keeps the set keeps the invariant.** -/
theorem routesKept_step {H : Host} {d d' : Daemon} {e : Event} (h : RoutesKept H d.backend)
    (hgood : KeepsRouteSet H d e) (hstep : Daemon.step H d e = some d') :
    RoutesKept H d'.backend := by
  refine (Daemon.step_saves hstep).routesKept h ?_
  have hmove := step_prefs hstep
  generalize d'.backend.prefs = p' at hmove ⊢
  cases hmove with
  | kept => exact h.memory
  | marked w l h' => exact h.memory
  | merged hsource hdoc hvalid hkey => exact validate_routes hvalid
  | asked hasks o => exact (asks_routes h hasks).policy (hgood _ hasks) o

/-! ## Runs -/

/-- The same for the start of the process. -/
def BootKeepsRouteSet (H : Host) (policy : List PolicySource) (s : Daemon.BootInput) : Prop :=
  ∀ p, BootAsks H policy s p → ForbidsExitNode (mergeSources policy) → RoutesStandAlone H p

/-- What the start of the process asks for advertises an acceptable set. -/
theorem bootAsks_routes {H : Host} {policy : List PolicySource} {s : Daemon.BootInput} {p : Prefs}
    (hstored : ∀ id p, s.disk.prefsFile id = some p → RoutesValid H p)
    (h : BootAsks H policy s p) : RoutesValid H p := by
  cases h with
  | stored hconfig =>
    unfold Daemon.BootInput.stored
    cases hfile : s.disk.prefsFile (loadCurrentProfile (s.disk.readPointer s.loadIo)) with
    | none => exact default_routes H
    | some p => exact hstored _ p hfile
  | config hconfig hvalid => exact validate_routes hvalid

/-- What was loaded and merged is acceptable, in memory and on the disk. -/
theorem loaded_routes {H : Host} {policy : List PolicySource} {s : Daemon.BootInput}
    {key : Option String} {d : Daemon} (hkeeps : BootKeepsRouteSet H policy s)
    (hstored : ∀ id p, s.disk.prefsFile id = some p → RoutesValid H p)
    (h : Daemon.loaded H policy s = .ok (key, d)) : RoutesKept H d.backend := by
  obtain ⟨p, hasks, enabled, name, hprefs⟩ := loaded_prefs h
  have hmemory : RoutesValid H d.backend.prefs := by
    rw [hprefs]
    exact (bootAsks_routes hstored hasks).policy (hkeeps p hasks) {}
  refine ⟨hmemory, ?_⟩
  intro id q hfile
  rcases loaded_saves h id q hfile with hold | ⟨enabled', name', rfl⟩
  · exact hstored id q hold
  · exact hmemory

/-- A forbidden exit node is off in prefs the policy had its say on. -/
theorem policy_forbidden {settings : List PolicySetting} (hforbid : ForbidsExitNode settings)
    (p : Prefs) (o : PolicyOverrides) :
    (applySettingsToPrefs settings p o).1.advertiseExitNode = false := by
  have hflag := policy_preference
    (show advertiseExitNodePolicy ∈ preferencePolicies by simp [preferencePolicies]) settings p o
  rw [show advertiseExitNodePolicy.key = "AdvertiseExitNode" from rfl, hforbid] at hflag
  exact hflag

theorem boot_routes {H : Host} {policy : List PolicySource} {s : Daemon.BootInput} {d : Daemon}
    (hkeeps : BootKeepsRouteSet H policy s)
    (hstored : ∀ id p, s.disk.prefsFile id = some p → RoutesValid H p)
    (h : Daemon.boot H policy s = .ok d) : RoutesKept H d.backend := by
  refine Daemon.boot_rule (P := fun d => RoutesKept H d.backend)
    (fun _ _ hloaded => loaded_routes hkeeps hstored hloaded) ?_ ?_ h
  · -- the `begin_up` of the auto-start asks for the set that was loaded, its flag decided already
    intro key d₀ authkey hloaded _ h₀
    obtain ⟨p, -, enabled, name, hprefs⟩ := loaded_prefs hloaded
    have hsettings : (d₀.env H).settings = mergeSources policy :=
      congrArg mergeSources (loaded_policy hloaded)
    have halone : ForbidsExitNode (d₀.env H).settings → RoutesStandAlone H d₀.backend.prefs := by
      intro hforbid
      rw [hsettings] at hforbid
      have hoff : d₀.backend.prefs.advertiseExitNode = false := by
        rw [hprefs]
        exact policy_forbidden hforbid p {}
      have hmemory := h₀.memory
      unfold RoutesValid at hmemory
      rw [hoff] at hmemory
      exact hmemory
    have hsaves := Daemon.beginUp_section_saves H d₀.attempted .boot
      (authkey.or (d₀.attempted.backend.policyAuthKey (d₀.attempted.env H))) {} none {} s.startIo
    have hattempted : RoutesKept H d₀.attempted.backend := ⟨h₀.memory, h₀.files⟩
    refine hsaves.routesKept hattempted ?_
    rw [Daemon.beginUp_backend]
    rcases beginUp_prefs (d₀.env H) d₀.attempted.backend {} none {} s.startIo with hsame |
      ⟨tags, edit, overrides, -, hasked⟩
    · exact hsame ▸ h₀.memory
    · have hset : RoutesValid H (Backend.upPrefs (UpOptions.withTags {} tags) d₀.backend.prefs) :=
        h₀.memory
      exact hasked ▸ hset.policy halone overrides
  · -- the last section of a bring-up asks for nothing
    intro d₁ d₂ h₁ hstep
    refine routesKept_step h₁ ?_ hstep
    rintro q hasks
    cases hasks with
    | up hstart hcheck hreauth => cases hstart
    | profile hlanding hswitch => cases hlanding

/-- **Every stored set is acceptable**, in every run from prefs files that hold acceptable ones,
    where no section asks for routes that do not stand alone while the policy forbids the exit
    node. -/
theorem stored_routes_valid {H : Host} {policy : List PolicySource} {s : Daemon.BootInput}
    {d₀ d : Daemon} {es : List Event} (hboot : Daemon.boot H policy s = .ok d₀)
    (hstored : ∀ id p, s.disk.prefsFile id = some p → RoutesValid H p)
    (hstart : BootKeepsRouteSet H policy s) (hrun : Run (Daemon.step H) (KeepsRouteSet H) d₀ es d) :
    ∀ id p, d.backend.disk.prefsFile id = some p →
      (calcAdvertiseRoutes H p.advertiseRoutes p.advertiseExitNode).isOk = true := by
  have hinv : RoutesKept H d.backend := hrun.invariant (P := fun d => RoutesKept H d.backend)
    (fun _ _ _ h hgood hstep => routesKept_step h hgood hstep) (boot_routes hstart hstored hboot)
  exact hinv.files

/-! ## A pair the policy takes apart -/

/-- A host that parses one default route. -/
def routeHost : Host :=
  { plainHost with parseIpNet := fun text => if text = "0.0.0.0/0" then some allIpv4 else none }

/-- A policy that forbids advertising an exit node. -/
def noExitNodePolicy : List PolicySource := [⟨[⟨"AdvertiseExitNode", some "never"⟩], none⟩]

/-- An `up` that asks for the exit node and lists the default route of one family. -/
def exitNodeUp : UpOptions :=
  { advertiseRoutes := some ["0.0.0.0/0"], advertiseExitNode := some true }

/-- Without a policy the pair is stored as it was checked. -/
theorem stored_routes_valid_exit_node :
    ∃ d₀ d p, Daemon.boot routeHost [] firstBoot = .ok d₀ ∧
      follow (Daemon.step routeHost) d₀ [.up exitNodeUp none none {} {}] = some d ∧
      d.backend.disk.prefsFile defaultProfileId = some p ∧ p.advertiseExitNode = true ∧
      (calcAdvertiseRoutes routeHost p.advertiseRoutes p.advertiseExitNode).isOk = true := by
  obtain ⟨d₀, d, p, hboot, hrun, hfile, hexit, hpolicy⟩ : ∃ d₀ d p,
      Daemon.boot routeHost [] firstBoot = .ok d₀ ∧
      follow (Daemon.step routeHost) d₀ [.up exitNodeUp none none {} {}] = some d ∧
      d.backend.disk.prefsFile defaultProfileId = some p ∧ p.advertiseExitNode = true ∧
      configuredPreference (d₀.env routeHost).settings "AdvertiseExitNode" = none :=
    ⟨_, _, _, rfl, rfl, rfl, rfl, rfl⟩
  have hstart : BootKeepsRouteSet routeHost [] firstBoot := by
    intro q hasks hforbid
    cases hforbid
  have hgood : KeepsRouteSet routeHost d₀ (.up exitNodeUp none none {} {}) := by
    intro q hasks hforbid
    unfold ForbidsExitNode at hforbid
    rw [hpolicy] at hforbid
    cases hforbid
  obtain ⟨d₁, hstep, hrest⟩ := Option.bind_eq_some_iff.mp hrun
  cases hrest
  exact ⟨d₀, d, p, hboot, hrun, hfile, hexit, stored_routes_valid hboot (fun _ _ hfile => by cases hfile)
    hstart (.cons hgood hstep (.nil d)) _ p hfile⟩

/-- **A forbidden exit node leaves its default route behind**: the pair an `up` was checked with is
    stored without its flag, and its own rules refuse what is left. -/
theorem forbidden_exit_node_strands_route :
    ¬ ∀ (policy : List PolicySource) (s : Daemon.BootInput) (d₀ d : Daemon) (es : List Event),
      Daemon.boot routeHost policy s = .ok d₀ →
      (∀ id p, s.disk.prefsFile id = some p → RoutesValid routeHost p) →
      Run (Daemon.step routeHost) (fun _ _ => True) d₀ es d →
      ∀ id p, d.backend.disk.prefsFile id = some p →
        (calcAdvertiseRoutes routeHost p.advertiseRoutes p.advertiseExitNode).isOk = true := by
  intro hclaim
  obtain ⟨d₀, d, p, hboot, hrun, hfile, hset⟩ : ∃ d₀ d p,
      Daemon.boot routeHost noExitNodePolicy firstBoot = .ok d₀ ∧
      follow (Daemon.step routeHost) d₀ [.up exitNodeUp none none {} {}] = some d ∧
      d.backend.disk.prefsFile defaultProfileId = some p ∧
      (calcAdvertiseRoutes routeHost p.advertiseRoutes p.advertiseExitNode).isOk = false :=
    ⟨_, _, _, rfl, rfl, rfl, rfl⟩
  have hvalid := hclaim _ _ d₀ d _ hboot (fun _ _ hfile => by cases hfile)
    (run_of_follow (fun _ _ _ => trivial) hrun) _ p hfile
  rw [hset] at hvalid
  cases hvalid

end Tailnetd
