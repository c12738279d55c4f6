/-
  `check-prefs`: the dry run of an edit (`ipn/mod.rs`, `check_prefs_gated`).

  The dry run composes the posture an edit would leave behind and runs a chain of rules over it,
  joining every refusal into one answer.  `set` runs its own chain over the same posture and stops
  at the first refusal.  Four rules are in both chains: the advertised routes, a named exit node,
  the SSH gate and the auto-update opt-in.  Three are in the dry run only: an exit node used while
  one is advertised, an inherited `auto:` selector, and an SSH server the build does not have.

  So what `set` refuses the dry run refuses (`check_prefs_predicts_set`), and the two part exactly
  where only the dry run's own rules refuse (`check_prefs_agrees_iff`).
-/
import Tailnetd.Boot

namespace Tailnetd

/-! ## The dry run -/

/-- What a `check-prefs` asks about: the preferences it shares with `set`. -/
structure CheckPrefsRequest where
  exitNode : Option (Option String) := none
  advertiseExitNode : Option Bool := none
  advertiseRoutes : Option (List String) := none
  ssh : Option Bool := none
  autoUpdate : Option Bool := none
  deriving DecidableEq, Repr

/-- The same edit as a `set`. -/
def CheckPrefsRequest.toSet (r : CheckPrefsRequest) : SetOptions where
  exitNode := r.exitNode
  advertiseExitNode := r.advertiseExitNode
  advertiseRoutes := r.advertiseRoutes
  ssh := r.ssh
  autoUpdate := r.autoUpdate

def exitNodeConflict : String :=
  "Cannot advertise an exit node and use an exit node at the same time."

def sshFeatureMissing : String :=
  "Unable to enable Tailscale SSH server: this build was compiled without the `ssh` feature."

/-- The refusal of a check, as the list it is joined from. -/
def refusals : Except String Unit → List String
  | .ok () => []
  | .error e => [e]

@[simp] theorem refusals_ok : refusals (.ok ()) = [] := rfl
@[simp] theorem refusals_error (e : String) : refusals (.error e) = [e] := rfl

/-- `validate_exit_node_selector` of the selector the edit leaves behind. -/
def validateExitNode : Option String → Except String Unit
  | none => .ok ()
  | some sel => validateExitNodeSelector sel

namespace Backend

/-- Rules (1) and (1b): the selector is concrete, and one the request names resolves. -/
def checkPrefsExitNode (b : Backend) (r : CheckPrefsRequest) (facts : ExitNodeFacts) :
    List String :=
  match validateExitNode (r.exitNode.getD b.prefs.exitNode) with
  | .error e => [e]
  | .ok () =>
    match r.exitNode with
    | some (some sel) => refusals (resolveExitNodeArg sel facts)
    | _ => []

/-- Rule (2). -/
def checkPrefsConflict (b : Backend) (r : CheckPrefsRequest) : List String :=
  if (r.exitNode.getD b.prefs.exitNode).isSome &&
      r.advertiseExitNode.getD b.prefs.advertiseExitNode then [exitNodeConflict]
  else []

/-- Rule (3): the build first, then the host's gate. -/
def checkPrefsSsh (H : Host) (b : Backend) (r : CheckPrefsRequest) : List String :=
  if prospectiveSsh r.ssh b.prefs false then
    (if H.featureSsh then [] else [sshFeatureMissing]) ++ refusals (canRunTailscaleSsh H)
  else []

/-- Rule (4). -/
def checkPrefsAutoUpdate (H : Host) (b : Backend) (r : CheckPrefsRequest) : List String :=
  (checkAutoUpdatePref (r.autoUpdate.or b.prefs.autoUpdateApply) H.autoUpdateRefusal
    remedyCli).toList

/-- Rule (5): every offender of the advertised-route set. -/
def checkPrefsRoutes (H : Host) (b : Backend) (r : CheckPrefsRequest) : List String :=
  match calcAdvertiseRoutes H (r.advertiseRoutes.getD b.prefs.advertiseRoutes)
      (r.advertiseExitNode.getD b.prefs.advertiseExitNode) with
  | .ok _ => []
  | .error errors => errors.map RouteError.toText

/-- The refusals of the chain, in its order. -/
def checkPrefsErrors (H : Host) (b : Backend) (r : CheckPrefsRequest) (facts : ExitNodeFacts) :
    List String :=
  b.checkPrefsExitNode r facts ++ b.checkPrefsConflict r ++ b.checkPrefsSsh H r ++
    b.checkPrefsAutoUpdate H r ++ b.checkPrefsRoutes H r

/-- The netmap is asked only when a selector is named. -/
def checkPrefsFacts (b : Backend) (r : CheckPrefsRequest) (netmap : ExitNodeFacts) :
    ExitNodeFacts :=
  match r.exitNode with
  | some (some _) => b.exitNodeFacts netmap
  | _ => {}

/-- `check_prefs`: every refusal, one a line. -/
def checkPrefs (H : Host) (b : Backend) (r : CheckPrefsRequest) (netmap : ExitNodeFacts) :
    Except String Unit :=
  let errors := b.checkPrefsErrors H r (b.checkPrefsFacts r netmap)
  if errors.isEmpty then .ok () else .error (joinLines errors)

end Backend

/-! ## The rules both chains ask -/

/-- The rules both chains ask: the routes, a named exit node, the SSH gate, the auto-update
    opt-in. -/
structure SharedRulesPass (H : Host) (b : Backend) (r : CheckPrefsRequest)
    (netmap : ExitNodeFacts) : Prop where
  routes : validateAdvertiseRoutes H (r.advertiseRoutes.getD b.prefs.advertiseRoutes)
    (r.advertiseExitNode.getD b.prefs.advertiseExitNode) = .ok ()
  exitNode : checkNamedExitNode r.exitNode (b.exitNodeFacts netmap) = .ok ()
  ssh : checkSshPrefs H r.ssh b.prefs false = .ok ()
  autoUpdate : checkAutoUpdatePref (r.autoUpdate.or b.prefs.autoUpdateApply) H.autoUpdateRefusal
    remedyCli = none

/-- What the dry run alone refuses in the posture an edit leaves behind. -/
inductive OnlyDryRunRefuses (H : Host) (p : Prefs) (r : CheckPrefsRequest) : Prop where
  | conflict (hexit : (r.exitNode.getD p.exitNode).isSome = true)
      (hadvertise : r.advertiseExitNode.getD p.advertiseExitNode = true)
  | inheritedAuto {sel : String} (hnamed : r.exitNode = none) (hsel : p.exitNode = some sel)
      (hauto : startsWith "auto:" sel = true)
  | sshFeature (hssh : prospectiveSsh r.ssh p false = true) (hfeature : H.featureSsh = false)

theorem validateAdvertiseRoutes_eq_ok_iff {H : Host} {routes : List String} {exit : Bool} :
    validateAdvertiseRoutes H routes exit = .ok () ↔
      ∃ set, calcAdvertiseRoutes H routes exit = .ok set := by
  unfold validateAdvertiseRoutes
  split
  · rename_i set hset
    exact ⟨fun _ => ⟨set, hset⟩, fun _ => rfl⟩
  · rename_i errors herrors
    constructor
    · intro h
      cases h
    · rintro ⟨set, hset⟩
      rw [hset] at herrors
      cases herrors

theorem ne_nil_of_refused {α β : Type} {a : α} {errors es : List β}
    (h : (if errors.isEmpty then Except.ok a else Except.error errors) = .error es) : es ≠ [] := by
  split at h
  · cases h
  · rename_i hsome
    cases h
    intro hnil
    rw [hnil] at hsome
    exact hsome rfl

/-- A refused set names at least one offender. -/
theorem calcAdvertiseRoutes_error_ne_nil {H : Host} {routes : List String} {exit : Bool}
    {errors : List RouteError} (h : calcAdvertiseRoutes H routes exit = .error errors) :
    errors ≠ [] :=
  ne_nil_of_refused h

theorem checkPrefsRoutes_eq_nil_iff {H : Host} {b : Backend} {r : CheckPrefsRequest} :
    b.checkPrefsRoutes H r = [] ↔
      validateAdvertiseRoutes H (r.advertiseRoutes.getD b.prefs.advertiseRoutes)
        (r.advertiseExitNode.getD b.prefs.advertiseExitNode) = .ok () := by
  rw [validateAdvertiseRoutes_eq_ok_iff]
  unfold Backend.checkPrefsRoutes
  generalize hcalc : calcAdvertiseRoutes H _ _ = verdict
  cases verdict with
  | ok set => exact ⟨fun _ => ⟨set, rfl⟩, fun _ => rfl⟩
  | error errors =>
    constructor
    · intro h
      exact absurd (List.map_eq_nil_iff.mp h) (calcAdvertiseRoutes_error_ne_nil hcalc)
    · rintro ⟨set, hset⟩
      cases hset

theorem refusals_eq_nil_iff {x : Except String Unit} : refusals x = [] ↔ x = .ok () := by
  cases x with
  | ok u => exact ⟨fun _ => rfl, fun _ => rfl⟩
  | error e => simp

theorem checkPrefsConflict_eq_nil_iff {b : Backend} {r : CheckPrefsRequest} :
    b.checkPrefsConflict r = [] ↔
      ¬ ((r.exitNode.getD b.prefs.exitNode).isSome = true ∧
        r.advertiseExitNode.getD b.prefs.advertiseExitNode = true) := by
  unfold Backend.checkPrefsConflict
  simp

theorem checkPrefsSsh_eq_nil_iff {H : Host} {b : Backend} {r : CheckPrefsRequest} :
    b.checkPrefsSsh H r = [] ↔
      checkSshPrefs H r.ssh b.prefs false = .ok () ∧
        ¬ (prospectiveSsh r.ssh b.prefs false = true ∧ H.featureSsh = false) := by
  unfold Backend.checkPrefsSsh checkSshPrefs
  by_cases hssh : prospectiveSsh r.ssh b.prefs false = true
  · rw [if_pos hssh, if_pos hssh, List.append_eq_nil_iff, refusals_eq_nil_iff]
    cases H.featureSsh <;> simp [hssh]
  · rw [if_neg hssh, if_neg hssh]
    simp [hssh]

/-- Rule (1) and (1b) pass when the named selector does, and no inherited one is `auto:`. -/
theorem checkPrefsExitNode_eq_nil_iff {b : Backend} {r : CheckPrefsRequest}
    {facts : ExitNodeFacts} :
    b.checkPrefsExitNode r facts = [] ↔
      checkNamedExitNode r.exitNode facts = .ok () ∧
        ¬ ∃ sel, r.exitNode = none ∧ b.prefs.exitNode = some sel ∧
          startsWith "auto:" sel = true := by
  unfold Backend.checkPrefsExitNode checkNamedExitNode
  cases hnamed : r.exitNode with
  | none =>
    -- the selector is the inherited one
    cases hinherited : b.prefs.exitNode with
    | none => simp [validateExitNode]
    | some sel =>
      by_cases hauto : startsWith "auto:" sel = true
      · simp [validateExitNode, validateExitNodeSelector, hauto]
      · simp [validateExitNode, validateExitNodeSelector, hauto]
  | some wanted =>
    cases wanted with
    | none => simp [validateExitNode]
    | some sel =>
      simp only [Option.getD_some, validateExitNode, checkExitNodeArg]
      cases validateExitNodeSelector sel with
      | error e => simp
      | ok u => simp [refusals_eq_nil_iff]

/-! ## The two verdicts -/

/-- `begin_set` refuses the edit before it persists anything. -/
def Backend.SetRefuses (E : Env) (b : Backend) (o : SetOptions) (netmap : ExitNodeFacts) : Prop :=
  ∃ e, ∀ io, b.beginSet E o netmap io = (.error (.refused e), b)

theorem setRefuses_iff {E : Env} {b : Backend} {o : SetOptions} {netmap : ExitNodeFacts} :
    b.SetRefuses E o netmap ↔ ∃ e, b.checkSet E o netmap = .error e := by
  unfold Backend.SetRefuses Backend.beginSet
  cases hcheck : b.checkSet E o netmap with
  | error e => exact ⟨fun _ => ⟨e, rfl⟩, fun _ => ⟨e, fun _ => rfl⟩⟩
  | ok verdict =>
    constructor
    · -- a save that fails is an error of its own kind
      rintro ⟨e, h⟩
      have hsave := h { savePrefs := false }
      cases hsave
    · rintro ⟨e, h⟩
      cases h

/-- **Without a pin, `set` accepts exactly what the shared rules accept.** -/
theorem checkSet_ok_iff {E : Env} {b : Backend} {r : CheckPrefsRequest} {netmap : ExitNodeFacts}
    (hpin : (exitNodePolicyIn E.settings).pinned = none) :
    (∃ verdict, b.checkSet E r.toSet netmap = .ok verdict) ↔
      SharedRulesPass E.host b r netmap := by
  have hedit : ∃ edit, checkExitNodeEdit r.exitNode (exitNodePolicyIn E.settings) = .ok edit := by
    unfold checkExitNodeEdit
    cases r.exitNode with
    | none => exact ⟨_, rfl⟩
    | some wanted =>
      rw [hpin]
      exact ⟨_, rfl⟩
  obtain ⟨edit, hedit⟩ := hedit
  simp only [Backend.checkSet, Backend.checkEdit, CheckPrefsRequest.toSet, prospectiveRouteSet,
    completeNamedTags, hedit, Bool.false_eq_true, if_false]
  constructor
  · rintro ⟨verdict, h⟩
    split at h
    · cases h
    · rename_i hchain
      split at hchain
      · cases hchain
      · rename_i hroutes
        split at hchain
        · cases hchain
        · rename_i hexit
          split at hchain
          · cases hchain
          · rename_i hssh
            split at h
            · cases h
            · rename_i hauto
              exact ⟨hroutes, hexit, hssh, hauto⟩
  · rintro ⟨hroutes, hexit, hssh, hauto⟩
    rw [hroutes, hexit, hssh, hauto]
    exact ⟨_, rfl⟩

/-- **The dry run accepts what the shared rules accept and its own do not refuse.** -/
theorem checkPrefs_ok_iff {H : Host} {b : Backend} {r : CheckPrefsRequest}
    {netmap : ExitNodeFacts} :
    b.checkPrefs H r netmap = .ok () ↔
      SharedRulesPass H b r netmap ∧ ¬ OnlyDryRunRefuses H b.prefs r := by
  have hnamed : checkNamedExitNode r.exitNode (b.checkPrefsFacts r netmap) =
      checkNamedExitNode r.exitNode (b.exitNodeFacts netmap) := by
    unfold Backend.checkPrefsFacts
    cases r.exitNode with
    | none => rfl
    | some wanted => cases wanted <;> rfl
  have hauto : b.checkPrefsAutoUpdate H r = [] ↔
      checkAutoUpdatePref (r.autoUpdate.or b.prefs.autoUpdateApply) H.autoUpdateRefusal
        remedyCli = none := by
    unfold Backend.checkPrefsAutoUpdate
    simp
  have hnil : b.checkPrefs H r netmap = .ok () ↔
      b.checkPrefsErrors H r (b.checkPrefsFacts r netmap) = [] := by
    unfold Backend.checkPrefs
    dsimp only
    cases b.checkPrefsErrors H r (b.checkPrefsFacts r netmap) <;> simp
  rw [hnil]
  simp only [Backend.checkPrefsErrors, List.append_eq_nil_iff, checkPrefsExitNode_eq_nil_iff, hnamed,
    checkPrefsConflict_eq_nil_iff, checkPrefsSsh_eq_nil_iff, hauto, checkPrefsRoutes_eq_nil_iff]
  constructor
  · rintro ⟨⟨⟨⟨⟨hexit, hinherited⟩, hconflict⟩, hssh, hfeature⟩, hupdate⟩, hroutes⟩
    refine ⟨⟨hroutes, hexit, hssh, hupdate⟩, ?_⟩
    intro hrefuses
    cases hrefuses with
    | conflict h hadvertise => exact hconflict ⟨h, hadvertise⟩
    | inheritedAuto h hsel hpre => exact hinherited ⟨_, h, hsel, hpre⟩
    | sshFeature h hmissing => exact hfeature ⟨h, hmissing⟩
  · rintro ⟨hshared, hrefuses⟩
    refine ⟨⟨⟨⟨⟨hshared.exitNode, ?_⟩, ?_⟩, hshared.ssh, ?_⟩, hshared.autoUpdate⟩, hshared.routes⟩
    · rintro ⟨sel, h, hsel, hpre⟩
      exact hrefuses (.inheritedAuto h hsel hpre)
    · rintro ⟨h, hadvertise⟩
      exact hrefuses (.conflict h hadvertise)
    · rintro ⟨h, hmissing⟩
      exact hrefuses (.sshFeature h hmissing)

/-- **What `set` refuses, the dry run refuses.** -/
theorem check_prefs_predicts_set {E : Env} {b : Backend} {r : CheckPrefsRequest}
    {netmap : ExitNodeFacts} (hpin : (exitNodePolicyIn E.settings).pinned = none)
    (h : b.SetRefuses E r.toSet netmap) : b.checkPrefs E.host r netmap ≠ .ok () := by
  intro haccepts
  obtain ⟨verdict, hverdict⟩ := (checkSet_ok_iff hpin).mpr (checkPrefs_ok_iff.mp haccepts).1
  obtain ⟨e, he⟩ := setRefuses_iff.mp h
  rw [hverdict] at he
  cases he

/-- **The two verdicts agree** exactly when a rule they share refuses the edit or the dry run's own
    rules do not. -/
theorem check_prefs_agrees_iff {E : Env} {b : Backend} {r : CheckPrefsRequest}
    {netmap : ExitNodeFacts} (hpin : (exitNodePolicyIn E.settings).pinned = none) :
    (b.checkPrefs E.host r netmap = .ok () ↔ ¬ b.SetRefuses E r.toSet netmap) ↔
      (SharedRulesPass E.host b r netmap → ¬ OnlyDryRunRefuses E.host b.prefs r) := by
  have hset : ¬ b.SetRefuses E r.toSet netmap ↔ SharedRulesPass E.host b r netmap := by
    rw [← checkSet_ok_iff hpin, setRefuses_iff]
    cases b.checkSet E r.toSet netmap with
    | error e => simp
    | ok verdict => simp
  rw [checkPrefs_ok_iff, hset]
  constructor
  · intro h hshared
    exact (h.mpr hshared).2
  · intro h
    exact ⟨fun hboth => hboth.1, fun hshared => ⟨hshared, h hshared⟩⟩

/-! ## An edit the two judge differently -/

/-- Without a policy every exit node is the operator's own choice. -/
theorem check_prefs_agrees_advertise :
    ∃ d, Daemon.boot plainHost [] firstBoot = .ok d ∧
      (d.backend.checkPrefs plainHost { advertiseExitNode := some true } {} = .ok () ↔
        ¬ d.backend.SetRefuses ⟨plainHost, []⟩
          (CheckPrefsRequest.toSet { advertiseExitNode := some true }) {}) := by
  refine ⟨_, rfl, ?_⟩
  refine (check_prefs_agrees_iff (E := ⟨plainHost, []⟩) rfl).mpr ?_
  intro hshared hrefuses
  cases hrefuses with
  | conflict h hadvertise => cases h
  | inheritedAuto h hsel hpre => cases hsel
  | sshFeature h hmissing => cases h

/-- Use an exit node and advertise one. -/
def bothExitNodes : CheckPrefsRequest :=
  { exitNode := some (some "100.64.0.9"), advertiseExitNode := some true }

/-- **`set` stores a pair the dry run refuses**: an exit node in use and one advertised. -/
theorem set_accepts_both_exit_nodes :
    (exitNodePolicyIn (Env.settings ⟨plainHost, []⟩)).pinned = none ∧
    ¬ ∀ (b : Backend) (r : CheckPrefsRequest) (netmap : ExitNodeFacts),
      (b.checkPrefs plainHost r netmap = .ok () ↔
        ¬ b.SetRefuses ⟨plainHost, []⟩ r.toSet netmap) := by
  refine ⟨rfl, ?_⟩
  intro hclaim
  obtain ⟨d, -, hdry, hset⟩ : ∃ d, Daemon.boot plainHost [] firstBoot = .ok d ∧
      d.backend.checkPrefs plainHost bothExitNodes {} = .error exitNodeConflict ∧
      ∃ verdict, d.backend.checkSet ⟨plainHost, []⟩ bothExitNodes.toSet {} = .ok verdict :=
    ⟨_, rfl, rfl, _, rfl⟩
  have haccepts : ¬ d.backend.SetRefuses ⟨plainHost, []⟩ bothExitNodes.toSet {} := by
    rw [setRefuses_iff]
    rintro ⟨e, he⟩
    obtain ⟨verdict, hverdict⟩ := hset
    rw [hverdict] at he
    cases he
  have hok := (hclaim d.backend bothExitNodes {}).mpr haccepts
  rw [hdry] at hok
  cases hok

end Tailnetd
