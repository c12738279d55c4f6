/-
  What the engine runs with, seen from the prefs.

  `Acted` is the part of an engine's config that decides what the node does: name, exit node,
  routes, DNS, shields, what it advertises, where it registers.  `actedOf` computes it from the
  prefs, and `configOf_acted` says that every config that can be built from them has it.  It depends
  on the `engineFields` only, so two prefs that agree there run the same node.

  A live `set` writes some of these fields into a running engine; `pushOps_acted` says when that
  makes up for the whole edit.
-/
import Tailnetd.PolicyFields
import Tailnetd.Sections

namespace Tailnetd

/-! ## The fields the engine acts on -/

/-- The preferences the engine acts on.  The others are carried in its config, or are not in it. -/
def engineFields : List PrefName :=
  [.hostname, .exitNode, .acceptRoutes, .acceptDns, .shieldsUp, .advertiseRoutes,
    .advertiseExitNode, .advertiseTags, .advertiseConnector, .autoUpdateApply, .controlUrl, .ssh]

/-- The engine would not tell the two apart. -/
def SameEngine (p q : Prefs) : Prop := ∀ n ∈ engineFields, p.field n = q.field n

instance (p q : Prefs) : Decidable (SameEngine p q) :=
  inferInstanceAs (Decidable (∀ n ∈ engineFields, _))

theorem SameEngine.refl (p : Prefs) : SameEngine p p := fun _ _ => rfl

theorem SameEngine.symm {p q : Prefs} (h : SameEngine p q) : SameEngine q p :=
  fun n hn => (h n hn).symm

theorem SameEngine.trans {p q r : Prefs} (h : SameEngine p q) (h' : SameEngine q r) :
    SameEngine p r :=
  fun n hn => (h n hn).trans (h' n hn)

/-- The policy treats them alike, too. -/
theorem SameEngine.policy {p q : Prefs} (h : SameEngine p q) (settings : List PolicySetting)
    (o : PolicyOverrides) :
    SameEngine (applySettingsToPrefs settings p o).1 (applySettingsToPrefs settings q o).1 :=
  fun n hn => policy_congr (h n hn) settings o

/-- The marks of the intent and the login are no matter to the engine. -/
theorem sameEngine_marks (p : Prefs) (w l h : Bool) :
    SameEngine p { p with wantRunning := w, loggedOut := l, hasLoggedIn := h } := by
  intro n hn
  cases n <;> first | rfl | simp [engineFields] at hn

/-- The policy has nothing left to say about these prefs. -/
def Settled (settings : List PolicySetting) (p : Prefs) (o : PolicyOverrides) : Prop :=
  SameEngine (applySettingsToPrefs settings p o).1 p

theorem settled_policy (settings : List PolicySetting) (p : Prefs) (o : PolicyOverrides) :
    Settled settings (applySettingsToPrefs settings p o).1 o := by
  unfold Settled
  rw [policy_idem]
  exact .refl _

theorem Settled.congr {settings : List PolicySetting} {p q : Prefs} {o : PolicyOverrides}
    (h : Settled settings p o) (hsame : SameEngine p q) : Settled settings q o :=
  (hsame.symm.policy settings o).trans (h.trans hsame)

/-- **A field of settled prefs that an edit does not name is kept by the policy after it**, the exit
    node as long as its exemption stands. -/
theorem Settled.kept {settings : List PolicySetting} {p q : Prefs} {o o' : PolicyOverrides}
    (h : Settled settings p o) {n : PrefName} (hn : n ∈ engineFields)
    (hedit : q.field n = p.field n) (hexit : n = .exitNode → o' = o) :
    (applySettingsToPrefs settings q o').1.field n = p.field n := by
  have hrun : n ≠ .wantRunning := by
    rintro rfl
    simp [engineFields] at hn
  calc (applySettingsToPrefs settings q o').1.field n
      = (applySettingsToPrefs settings p o').1.field n := policy_congr hedit settings o'
    _ = (applySettingsToPrefs settings p o).1.field n := by
        by_cases he : n = .exitNode
        · rw [hexit he]
        · exact policy_exempt hrun he settings p o' o
    _ = p.field n := h n hn

/-! ## The acted-on part of a config -/

/-- The fields of a `Config` the engine acts on. -/
structure Acted where
  requestedHostname : Option String
  exitNode : Option ExitNodeSelector
  acceptRoutes : Bool
  acceptDns : Bool
  blockIncoming : Bool
  advertiseRoutes : List IpNet
  advertiseExitNode : Bool
  requestedTags : List String
  advertiseAppConnector : Bool
  autoUpdateApply : Option Bool
  controlServerUrl : Url
  allowHttpKeyFetch : Bool
  deriving DecidableEq, Repr

/-- The acted-on part. -/
def Config.acted (c : Config) : Acted where
  requestedHostname := c.requestedHostname
  exitNode := c.exitNode
  acceptRoutes := c.acceptRoutes
  acceptDns := c.acceptDns
  blockIncoming := c.blockIncoming
  advertiseRoutes := c.advertiseRoutes
  advertiseExitNode := c.advertiseExitNode
  requestedTags := c.requestedTags
  advertiseAppConnector := c.advertiseAppConnector
  autoUpdateApply := c.autoUpdateApply
  controlServerUrl := c.controlServerUrl
  allowHttpKeyFetch := c.allowHttpKeyFetch

/-- The acted-on part these prefs stand for. -/
def actedOf (H : Host) (p : Prefs) : Except String Acted :=
  match parseAdvertiseRoutes H p.advertiseRoutes with
  | .error e => .error e
  | .ok routes =>
    match controlServer H p.controlUrl with
    | .error e => .error e
    | .ok server =>
      .ok
        { requestedHostname := p.hostname
          exitNode := p.exitNode.map ExitNodeSelector.parse
          acceptRoutes := p.acceptRoutes
          acceptDns := p.acceptDns
          blockIncoming := p.shieldsUp
          advertiseRoutes := routes
          advertiseExitNode := p.advertiseExitNode
          requestedTags := p.advertiseTags
          advertiseAppConnector := p.advertiseAppConnector
          autoUpdateApply := p.autoUpdateApply
          controlServerUrl := server
          allowHttpKeyFetch := allowHttpKeyFetch p.controlUrl server }

/-- SSH passes its preflight only where it is built in. -/
theorem sshPreflight_feature {H : Host} {p : Prefs} (h : sshPreflight H p = .ok ())
    (hwanted : p.sshEnabled = true) : H.featureSsh = true := by
  unfold sshPreflight at h
  rw [hwanted, if_neg (by simp)] at h
  split at h
  · cases h
  · by_contra hfeature
    rw [Bool.not_eq_true] at hfeature
    rw [hfeature, if_pos (by simp)] at h
    cases h

/-- **What a built config acts on**, and that SSH was only asked for where it is there. -/
theorem configOf_acted {H : Host} {p : Prefs} {listenPort : Option UInt16} {key : KeyState}
    {c : Config} (h : configOf H p listenPort key = .ok c) :
    actedOf H p = .ok c.acted ∧ (p.sshEnabled = true → H.featureSsh = true) := by
  unfold configOf at h
  unfold actedOf
  cases hroutes : parseAdvertiseRoutes H p.advertiseRoutes with
  | error e =>
    rw [hroutes] at h
    cases h
  | ok routes =>
    rw [hroutes] at h
    cases hserver : controlServer H p.controlUrl with
    | error e =>
      rw [hserver] at h
      cases h
    | ok server =>
      rw [hserver] at h
      cases htransport : transportMode H p with
      | error e =>
        rw [htransport] at h
        cases h
      | ok transport =>
        rw [htransport] at h
        cases hssh : sshPreflight H p with
        | error e =>
          rw [hssh] at h
          cases h
        | ok u =>
          rw [hssh] at h
          cases h
          exact ⟨rfl, sshPreflight_feature hssh⟩

theorem buildConfig_acted {H : Host} {p : Prefs} {listenPort : Option UInt16}
    {file : Option KeyFile} {io : KeyIo} {c : Config}
    (h : (buildConfig H p listenPort file io).1 = .ok c) : actedOf H p = .ok c.acted := by
  unfold buildConfig at h
  split at h
  · cases h
  · rename_i key file' hkey
    dsimp only at h
    cases hc : configOf H p listenPort key with
    | error e =>
      rw [hc] at h
      cases h
    | ok c' =>
      rw [hc] at h
      cases h
      exact (configOf_acted hc).1

/-- Registration credentials are not acted on. -/
@[simp] theorem withWif_acted (wif : Option WifCreds) (c : Config) :
    (Backend.withWif wif c).acted = c.acted := by
  cases wif <;> rfl

/-- **Prefs that agree on the engine's fields run the same node.** -/
theorem actedOf_congr {H : Host} {p q : Prefs} (h : SameEngine p q) : actedOf H p = actedOf H q := by
  have field {n : PrefName} (hn : n ∈ engineFields) := h n hn
  have h1 := PrefValue.text.inj (field (n := .hostname) (by decide))
  have h2 := PrefValue.text.inj (field (n := .exitNode) (by decide))
  have h3 := PrefValue.flag.inj (field (n := .acceptRoutes) (by decide))
  have h4 := PrefValue.flag.inj (field (n := .acceptDns) (by decide))
  have h5 := PrefValue.flag.inj (field (n := .shieldsUp) (by decide))
  have h6 := PrefValue.texts.inj (field (n := .advertiseRoutes) (by decide))
  have h7 := PrefValue.flag.inj (field (n := .advertiseExitNode) (by decide))
  have h8 := PrefValue.texts.inj (field (n := .advertiseTags) (by decide))
  have h9 := PrefValue.flag.inj (field (n := .advertiseConnector) (by decide))
  have h10 := PrefValue.choice.inj (field (n := .autoUpdateApply) (by decide))
  have h11 := PrefValue.text.inj (field (n := .controlUrl) (by decide))
  unfold actedOf
  rw [h1, h2, h3, h4, h5, h6, h7, h8, h9, h10, h11]

/-- The acted-on part, field by field. -/
structure RunsOn (H : Host) (p : Prefs) (a : Acted) : Prop where
  hostname : a.requestedHostname = p.hostname
  exitNode : a.exitNode = p.exitNode.map ExitNodeSelector.parse
  acceptRoutes : a.acceptRoutes = p.acceptRoutes
  acceptDns : a.acceptDns = p.acceptDns
  shieldsUp : a.blockIncoming = p.shieldsUp
  advertiseRoutes : parseAdvertiseRoutes H p.advertiseRoutes = .ok a.advertiseRoutes
  advertiseExitNode : a.advertiseExitNode = p.advertiseExitNode
  advertiseTags : a.requestedTags = p.advertiseTags
  advertiseConnector : a.advertiseAppConnector = p.advertiseAppConnector
  autoUpdate : a.autoUpdateApply = p.autoUpdateApply
  controlServer : controlServer H p.controlUrl = .ok a.controlServerUrl
  keyFetch : a.allowHttpKeyFetch = allowHttpKeyFetch p.controlUrl a.controlServerUrl

theorem actedOf_eq_ok {H : Host} {p : Prefs} {a : Acted} :
    actedOf H p = .ok a ↔ RunsOn H p a := by
  unfold actedOf
  constructor
  · intro h
    split at h
    · cases h
    · rename_i routes hroutes
      split at h
      · cases h
      · rename_i server hserver
        cases h
        exact ⟨rfl, rfl, rfl, rfl, rfl, hroutes, rfl, rfl, rfl, rfl, hserver, rfl⟩
  · rintro ⟨h1, h2, h3, h4, h5, hroutes, h7, h8, h9, h10, hserver, h12⟩
    rw [hroutes]
    dsimp only
    rw [hserver]
    dsimp only
    rw [← h1, ← h2, ← h3, ← h4, ← h5, ← h7, ← h8, ← h9, ← h10, ← h12]

theorem SameEngine.ssh {p q : Prefs} (h : SameEngine p q) : p.sshEnabled = q.sshEnabled :=
  PrefValue.flag.inj (h .ssh (by decide))

/-! ## What a live set makes of it -/

/-- What the live setters of a `set` leave in the config: the fields it names, as they now are in
    the prefs. -/
theorem pushOps_config (E : Env) (o : SetOptions) (p : Prefs) (dev : Device) :
    (Backend.pushOps dev (Backend.liveOps E o p) none).config =
      { dev.config with
        exitNode :=
          if o.exitNode.isSome then p.exitNode.map ExitNodeSelector.parse else dev.config.exitNode
        requestedHostname :=
          if o.hostname.isSome then some (p.hostname.getD "") else dev.config.requestedHostname
        acceptRoutes := if o.acceptRoutes.isSome then p.acceptRoutes else dev.config.acceptRoutes
        acceptDns := if o.acceptDns.isSome then p.acceptDns else dev.config.acceptDns
        advertiseRoutes :=
          if o.advertiseRoutes.isSome then
            (parseAdvertiseRoutes E.host p.advertiseRoutes).toOption.getD []
          else dev.config.advertiseRoutes
        advertiseExitNode :=
          if o.advertiseExitNode.isSome then p.advertiseExitNode
          else dev.config.advertiseExitNode } := by
  have hop (c : Config) (named : Bool) (op : LiveSetOp) :
      (if named then [op] else []).foldl LiveSetOp.apply c = if named then op.apply c else c := by
    cases named <;> rfl
  unfold Backend.pushOps Backend.liveOps
  dsimp only
  simp only [List.foldl_append, hop]
  cases o.exitNode.isSome <;> cases o.hostname.isSome <;> cases o.acceptRoutes.isSome <;>
    cases o.acceptDns.isSome <;> cases o.advertiseRoutes.isSome <;>
    cases o.advertiseExitNode.isSome <;> rfl

/-- **A live `set` makes up for the whole edit**: what it names it pushes, and what it does not name
    is what the engine already runs with. -/
theorem setLive_runs {E : Env} {b : Backend} {o : SetOptions} {edit : ExitNodeEdit} {dev : Device}
    (hedit : o.exitNode = none → edit = .untouched) (hneeds : o.needsRebuild = false)
    (hsettled : Settled E.settings b.prefs
      { alwaysOn := b.overrideAlwaysOn, exitNode := b.overrideExitNodePolicy })
    (hruns : actedOf E.host b.prefs = .ok dev.config.acted)
    (hroutes : (parseAdvertiseRoutes E.host (b.applySet E o edit).prefs.advertiseRoutes).isOk = true)
    (hnamed : o.hostname.isSome = true → (b.applySet E o edit).prefs.hostname.isSome = true) :
    actedOf E.host (b.applySet E o edit).prefs =
        .ok (Backend.pushOps dev (Backend.liveOps E o (b.applySet E o edit).prefs) none).config.acted ∧
      (b.applySet E o edit).prefs.sshEnabled = b.prefs.sshEnabled := by
  have hkept {n : PrefName} (hn : n ∈ engineFields)
      (hsame : (o.applyOverrides b.prefs).field n = b.prefs.field n)
      (hexit : n = .exitNode → edit = .untouched) :
      (b.applySet E o edit).prefs.field n = b.prefs.field n := by
    rw [Backend.applySet_eq]
    refine hsettled.kept hn hsame fun he => ?_
    rw [hexit he]
    rfl
  simp only [SetOptions.needsRebuild, Bool.or_eq_false_iff, Option.isSome_eq_false_iff,
    Option.isNone_iff_eq_none] at hneeds
  obtain ⟨⟨⟨⟨hshields, hssh⟩, htags⟩, hconnector⟩, hupdate⟩ := hneeds
  generalize (b.applySet E o edit).prefs = q at hroutes hnamed hkept ⊢
  -- what the edit does not name is as it was
  have hhost (ho : o.hostname = none) : q.hostname = b.prefs.hostname :=
    PrefValue.text.inj (hkept (n := .hostname) (by decide)
      (by simp [Prefs.field, SetOptions.applyOverrides, ho]) (by simp))
  have hexit (ho : o.exitNode = none) : q.exitNode = b.prefs.exitNode :=
    PrefValue.text.inj (hkept (n := .exitNode) (by decide)
      (by simp [Prefs.field, SetOptions.applyOverrides, ho]) (fun _ => hedit ho))
  have haccept (ho : o.acceptRoutes = none) : q.acceptRoutes = b.prefs.acceptRoutes :=
    PrefValue.flag.inj (hkept (n := .acceptRoutes) (by decide)
      (by simp [Prefs.field, SetOptions.applyOverrides, ho]) (by simp))
  have hdns (ho : o.acceptDns = none) : q.acceptDns = b.prefs.acceptDns :=
    PrefValue.flag.inj (hkept (n := .acceptDns) (by decide)
      (by simp [Prefs.field, SetOptions.applyOverrides, ho]) (by simp))
  have hadvertise (ho : o.advertiseRoutes = none) : q.advertiseRoutes = b.prefs.advertiseRoutes :=
    PrefValue.texts.inj (hkept (n := .advertiseRoutes) (by decide)
      (by simp [Prefs.field, SetOptions.applyOverrides, ho]) (by simp))
  have hserve (ho : o.advertiseExitNode = none) :
      q.advertiseExitNode = b.prefs.advertiseExitNode :=
    PrefValue.flag.inj (hkept (n := .advertiseExitNode) (by decide)
      (by simp [Prefs.field, SetOptions.applyOverrides, ho]) (by simp))
  have hurl : q.controlUrl = b.prefs.controlUrl :=
    PrefValue.text.inj (hkept (n := .controlUrl) (by decide) rfl (by simp))
  rw [actedOf_eq_ok] at hruns ⊢
  rw [pushOps_config]
  refine ⟨?_, PrefValue.flag.inj (hkept (n := .ssh) (by decide)
    (by simp [Prefs.field, SetOptions.applyOverrides, hssh]) (by simp))⟩
  constructor
  case hostname =>
    show (if o.hostname.isSome then some (q.hostname.getD "") else _) = q.hostname
    cases ho : o.hostname with
    | none => exact hruns.hostname.trans (hhost ho).symm
    | some name =>
      obtain ⟨v, hv⟩ := Option.isSome_iff_exists.mp (hnamed (by rw [ho]; rfl))
      rw [hv]
      rfl
  case exitNode =>
    show (if o.exitNode.isSome then _ else _) = q.exitNode.map ExitNodeSelector.parse
    cases ho : o.exitNode with
    | none =>
      rw [hexit ho]
      exact hruns.exitNode
    | some named => rfl
  case acceptRoutes =>
    show (if o.acceptRoutes.isSome then q.acceptRoutes else _) = q.acceptRoutes
    cases ho : o.acceptRoutes with
    | none => exact hruns.acceptRoutes.trans (haccept ho).symm
    | some named => rfl
  case acceptDns =>
    show (if o.acceptDns.isSome then q.acceptDns else _) = q.acceptDns
    cases ho : o.acceptDns with
    | none => exact hruns.acceptDns.trans (hdns ho).symm
    | some named => rfl
  case advertiseRoutes =>
    show _ = Except.ok (if o.advertiseRoutes.isSome then _ else _)
    cases ho : o.advertiseRoutes with
    | none =>
      rw [hadvertise ho]
      exact hruns.advertiseRoutes
    | some named =>
      cases hp : parseAdvertiseRoutes E.host q.advertiseRoutes with
      | error e =>
        rw [hp] at hroutes
        cases hroutes
      | ok nets => rfl
  case advertiseExitNode =>
    show (if o.advertiseExitNode.isSome then q.advertiseExitNode else _) = q.advertiseExitNode
    cases ho : o.advertiseExitNode with
    | none => exact hruns.advertiseExitNode.trans (hserve ho).symm
    | some named => rfl
  case shieldsUp =>
    exact hruns.shieldsUp.trans (PrefValue.flag.inj (hkept (n := .shieldsUp) (by decide)
      (by simp [Prefs.field, SetOptions.applyOverrides, hshields]) (by simp))).symm
  case advertiseTags =>
    exact hruns.advertiseTags.trans (PrefValue.texts.inj (hkept (n := .advertiseTags) (by decide)
      (by simp [Prefs.field, SetOptions.applyOverrides, htags]) (by simp))).symm
  case advertiseConnector =>
    exact hruns.advertiseConnector.trans (PrefValue.flag.inj (hkept (n := .advertiseConnector)
      (by decide) (by simp [Prefs.field, SetOptions.applyOverrides, hconnector]) (by simp))).symm
  case autoUpdate =>
    exact hruns.autoUpdate.trans (PrefValue.choice.inj (hkept (n := .autoUpdateApply) (by decide)
      (by simp [Prefs.field, SetOptions.applyOverrides, hupdate]) (by simp))).symm
  case controlServer =>
    rw [hurl]
    exact hruns.controlServer
  case keyFetch =>
    rw [hurl]
    exact hruns.keyFetch

end Tailnetd
