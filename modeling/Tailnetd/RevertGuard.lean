/-
  The accidental-revert guard of `tnet up` (`ipn/revert_guard.rs`).

  Upstream's `up` replaces every preference its flags control; this daemon's `up` patches.  The
  guard stands between the two: it lists the preferences an `up` did not mention whose stored
  value is not the default, i.e. what a replace would have dropped, and the server refuses the
  `up` while that list is non-empty.  `--reset` is the replace itself and is never guarded.

  Three lists are written by hand: the guard's comparisons, the fields `--reset` returns to their
  defaults, and the overrides `begin_up` applies.  Here each is read through preference names
  (`UpOptions.names`, `upManaged`), and `guard_silent_gap` says what an empty guard means: patching
  and replacing differ at most at a preference the policy pins.
-/
import Tailnetd.PolicyProjection

namespace Tailnetd

/-- `RevertedPref`: a setting this `up` would silently lose, rendered. -/
structure RevertedPref where
  key : String
  value : String
  deriving DecidableEq, Repr

/-- One arm of the guard: whether the command left the preference unmentioned, whether the stored
    value differs from the default, and the value to report. -/
structure RevertArm where
  key : String
  unmentioned : Bool
  changed : Bool
  value : Option String

/-- What an arm reports. -/
def RevertArm.revert (arm : RevertArm) : Option RevertedPref :=
  if arm.unmentioned && arm.changed then arm.value.map (⟨arm.key, ·⟩) else none

/-- An arm for an optional text preference. -/
def RevertArm.text (key : String) (named : Option α) (current default : Option String) :
    RevertArm :=
  ⟨key, named.isNone, current ≠ default, current⟩

/-- An arm for a boolean preference. -/
def RevertArm.flag (key : String) (named : Option α) (current default : Bool) : RevertArm :=
  ⟨key, named.isNone, current ≠ default, some (toString current)⟩

/-- An arm for a list preference. -/
def RevertArm.texts (key : String) (named : Option α) (current default : List String) :
    RevertArm :=
  ⟨key, named.isNone, current ≠ default, some (",".intercalate current)⟩

/-- The arms, in the guard's order. -/
def revertArms (p : Prefs) (o : UpOptions) : List RevertArm :=
  let d := Prefs.default
  [.text "hostname" o.hostname p.hostname d.hostname,
   .text "control_url" o.controlUrl p.controlUrl d.controlUrl,
   .flag "tun" o.tun p.tunEnabled d.tunEnabled,
   .text "tun_name" o.tunName p.tunName d.tunName,
   ⟨"tun_mtu", o.tunMtu.isNone, p.tunMtu ≠ d.tunMtu, p.tunMtu.map fun v => toString v.toNat⟩,
   .text "exit_node" o.exitNode p.exitNode d.exitNode,
   .flag "advertise_exit_node" o.advertiseExitNode p.advertiseExitNode d.advertiseExitNode,
   .texts "advertise_routes" o.advertiseRoutes p.advertiseRoutes d.advertiseRoutes,
   .texts "advertise_tags" o.advertiseTags p.advertiseTags d.advertiseTags,
   .flag "accept_routes" o.acceptRoutes p.acceptRoutes d.acceptRoutes,
   .flag "accept_dns" o.acceptDns p.acceptDns d.acceptDns,
   .flag "shields_up" o.shieldsUp p.shieldsUp d.shieldsUp,
   .flag "ssh" o.ssh p.sshEnabled d.sshEnabled,
   .text "operator" o.operator p.operatorUser d.operatorUser,
   .flag "exit_node_allow_lan_access" o.exitNodeAllowLanAccess p.exitNodeAllowLanAccess
     d.exitNodeAllowLanAccess,
   .flag "advertise_connector" o.advertiseConnector p.advertiseAppConnector
     d.advertiseAppConnector,
   .flag "report_posture" o.reportPosture p.postureChecking d.postureChecking]

/-- `check_accidental_reverts`: nothing on a node that never logged in or for a bare `up`. -/
def checkAccidentalReverts (p : Prefs) (o : UpOptions) (hasLoggedIn : Bool) :
    List RevertedPref :=
  if !hasLoggedIn then []
  else if !o.mentionsAnyPref then []
  else (revertArms p o).filterMap RevertArm.revert

/-- `drop_policy_pinned`. -/
def dropPolicyPinned (reverts : List RevertedPref) (pinned : List String) : List RevertedPref :=
  if pinned.isEmpty then reverts else reverts.filter fun r => !pinned.contains r.key

/-! ## The three lists, by name -/

/-- Whether the command names this preference. -/
def UpOptions.names (o : UpOptions) : PrefName → Bool
  | .hostname => o.hostname.isSome
  | .controlUrl => o.controlUrl.isSome
  | .tun => o.tun.isSome
  | .tunName => o.tunName.isSome
  | .tunMtu => o.tunMtu.isSome
  | .exitNode => o.exitNode.isSome
  | .advertiseExitNode => o.advertiseExitNode.isSome
  | .advertiseRoutes => o.advertiseRoutes.isSome
  | .advertiseTags => o.advertiseTags.isSome
  | .acceptRoutes => o.acceptRoutes.isSome
  | .acceptDns => o.acceptDns.isSome
  | .ephemeral => o.ephemeral.isSome
  | .shieldsUp => o.shieldsUp.isSome
  | .ssh => o.ssh.isSome
  | .operator => o.operator.isSome
  | .exitNodeAllowLanAccess => o.exitNodeAllowLanAccess.isSome
  | .advertiseConnector => o.advertiseConnector.isSome
  | .reportPosture => o.reportPosture.isSome
  | _ => false

/-- The preferences `--reset` returns to their defaults. -/
def upManaged : List PrefName :=
  [.controlUrl, .hostname, .acceptRoutes, .acceptDns, .shieldsUp, .exitNode, .advertiseExitNode,
   .advertiseRoutes, .advertiseTags, .ssh, .operator, .exitNodeAllowLanAccess,
   .advertiseConnector, .reportPosture, .tun, .tunName, .tunMtu]

/-- A named preference ends the same from any stored prefs. -/
theorem applyOverrides_named (o : UpOptions) {n : PrefName} (h : o.names n = true)
    (p q : Prefs) : (o.applyOverrides p).field n = (o.applyOverrides q).field n := by
  cases n <;> simp only [UpOptions.names, Bool.false_eq_true] at h <;>
    obtain ⟨v, hv⟩ := Option.isSome_iff_exists.mp h <;>
    simp [UpOptions.applyOverrides, Prefs.field, hv]

/-- A preference that is not named keeps its stored value. -/
theorem applyOverrides_unnamed (o : UpOptions) {n : PrefName} (h : o.names n = false)
    (p : Prefs) : (o.applyOverrides p).field n = p.field n := by
  cases n <;> simp_all [UpOptions.names, UpOptions.applyOverrides, Prefs.field]

/-- `--reset` returns the up-managed preferences to their defaults. -/
theorem reset_managed {n : PrefName} (h : n ∈ upManaged) (p : Prefs) :
    p.resetUpManagedToDefault.field n = Prefs.default.field n := by
  cases n <;> first | rfl | exact absurd h (by decide)

/-- `--reset` keeps every other preference. -/
theorem reset_unmanaged {n : PrefName} (h : n ∉ upManaged) (p : Prefs) :
    p.resetUpManagedToDefault.field n = p.field n := by
  cases n <;> first | rfl | exact absurd h (by decide)

/-- An arm for an optional text reports an unmentioned text that is set. -/
theorem RevertArm.text_reports {key : String} {named : Option α} {current : Option String}
    (hnamed : named.isSome = false) (hchanged : PrefValue.text current ≠ .text none) :
    ∃ v, (RevertArm.text key named current none).revert = some ⟨key, v⟩ := by
  cases current with
  | none => exact absurd rfl hchanged
  | some v =>
    refine ⟨v, ?_⟩
    rw [RevertArm.revert, RevertArm.text, Option.isSome_eq_false_iff.mp hnamed]
    rfl

/-- An arm for a flag reports an unmentioned flag that is not at its default. -/
theorem RevertArm.flag_reports {key : String} {named : Option α} {current default : Bool}
    (hnamed : named.isSome = false) (hchanged : PrefValue.flag current ≠ .flag default) :
    ∃ v, (RevertArm.flag key named current default).revert = some ⟨key, v⟩ := by
  have hne : current ≠ default := fun h => hchanged (congrArg _ h)
  exact ⟨toString current, by
    simp [RevertArm.revert, RevertArm.flag, Option.isSome_eq_false_iff.mp hnamed, hne]⟩

/-- An arm for a list reports an unmentioned list that is not at its default. -/
theorem RevertArm.texts_reports {key : String} {named : Option α} {current default : List String}
    (hnamed : named.isSome = false) (hchanged : PrefValue.texts current ≠ .texts default) :
    ∃ v, (RevertArm.texts key named current default).revert = some ⟨key, v⟩ := by
  have hne : current ≠ default := fun h => hchanged (congrArg _ h)
  exact ⟨",".intercalate current, by
    simp [RevertArm.revert, RevertArm.texts, Option.isSome_eq_false_iff.mp hnamed, hne]⟩

/-- The guard has an arm for every up-managed preference, which reports it under its own key when
    it is unmentioned and not at its default. -/
theorem revertArms_report {p : Prefs} {o : UpOptions} {n : PrefName} (hn : n ∈ upManaged)
    (hnamed : o.names n = false) (hchanged : p.field n ≠ Prefs.default.field n) :
    ∃ arm ∈ revertArms p o, ∃ v, arm.revert = some ⟨n.key, v⟩ := by
  simp only [upManaged, List.mem_cons, List.not_mem_nil, or_false] at hn
  -- The index of each arm is its place in the guard's own order.
  rcases hn with rfl | rfl | rfl | rfl | rfl | rfl | rfl | rfl | rfl | rfl | rfl | rfl | rfl |
    rfl | rfl | rfl | rfl
  · exact ⟨_, List.mem_of_getElem? (i := 1) rfl, RevertArm.text_reports hnamed hchanged⟩
  · exact ⟨_, List.mem_of_getElem? (i := 0) rfl, RevertArm.text_reports hnamed hchanged⟩
  · exact ⟨_, List.mem_of_getElem? (i := 9) rfl, RevertArm.flag_reports hnamed hchanged⟩
  · exact ⟨_, List.mem_of_getElem? (i := 10) rfl, RevertArm.flag_reports hnamed hchanged⟩
  · exact ⟨_, List.mem_of_getElem? (i := 11) rfl, RevertArm.flag_reports hnamed hchanged⟩
  · exact ⟨_, List.mem_of_getElem? (i := 5) rfl, RevertArm.text_reports hnamed hchanged⟩
  · exact ⟨_, List.mem_of_getElem? (i := 6) rfl, RevertArm.flag_reports hnamed hchanged⟩
  · exact ⟨_, List.mem_of_getElem? (i := 7) rfl, RevertArm.texts_reports hnamed hchanged⟩
  · exact ⟨_, List.mem_of_getElem? (i := 8) rfl, RevertArm.texts_reports hnamed hchanged⟩
  · exact ⟨_, List.mem_of_getElem? (i := 12) rfl, RevertArm.flag_reports hnamed hchanged⟩
  · exact ⟨_, List.mem_of_getElem? (i := 13) rfl, RevertArm.text_reports hnamed hchanged⟩
  · exact ⟨_, List.mem_of_getElem? (i := 14) rfl, RevertArm.flag_reports hnamed hchanged⟩
  · exact ⟨_, List.mem_of_getElem? (i := 15) rfl, RevertArm.flag_reports hnamed hchanged⟩
  · exact ⟨_, List.mem_of_getElem? (i := 16) rfl, RevertArm.flag_reports hnamed hchanged⟩
  · exact ⟨_, List.mem_of_getElem? (i := 2) rfl, RevertArm.flag_reports hnamed hchanged⟩
  · exact ⟨_, List.mem_of_getElem? (i := 3) rfl, RevertArm.text_reports hnamed hchanged⟩
  · have hunmentioned : o.tunMtu.isNone = true := Option.isSome_eq_false_iff.mp hnamed
    have hset : p.tunMtu ≠ none := fun h => hchanged (congrArg _ h)
    obtain ⟨mtu, hmtu⟩ := Option.ne_none_iff_exists'.mp hset
    refine ⟨_, List.mem_of_getElem? (i := 4) rfl, toString mtu.toNat, ?_⟩
    rw [RevertArm.revert, hunmentioned, hmtu]
    rfl

/-- An up-managed preference that is unmentioned and not at its default is in the guard's list. -/
theorem guard_reports {p : Prefs} {o : UpOptions} {n : PrefName} (hn : n ∈ upManaged)
    (hnamed : o.names n = false) (hchanged : p.field n ≠ Prefs.default.field n)
    (hmention : o.mentionsAnyPref = true) :
    ∃ r ∈ checkAccidentalReverts p o true, r.key = n.key := by
  obtain ⟨arm, harm, v, hrevert⟩ := revertArms_report hn hnamed hchanged
  have hcheck : checkAccidentalReverts p o true = (revertArms p o).filterMap RevertArm.revert := by
    simp [checkAccidentalReverts, hmention]
  rw [hcheck]
  exact ⟨⟨n.key, v⟩, List.mem_filterMap.mpr ⟨arm, harm, hrevert⟩, rfl⟩

/-- What the filtered guard drops is pinned. -/
theorem guard_silent_pinned {reverts : List RevertedPref} {pinned : List String}
    (h : dropPolicyPinned reverts pinned = []) : ∀ r ∈ reverts, r.key ∈ pinned := by
  intro r hr
  unfold dropPolicyPinned at h
  split at h
  · exact absurd (h ▸ hr) List.not_mem_nil
  · have := List.filter_eq_nil_iff.mp h r hr
    simpa using this

/-- **What an empty guard means.**  Patching and replacing the stored prefs leave the same value
    under every name, except at an unmentioned preference that the policy pins. -/
theorem guard_silent_gap {settings : List PolicySetting} {p : Prefs} {o : UpOptions}
    (hmention : o.mentionsAnyPref = true)
    (h : dropPolicyPinned (checkAccidentalReverts p o true) (pinnedPrefsIn settings) = [])
    (n : PrefName) :
    (o.applyOverrides p).field n = (o.applyOverrides p.resetUpManagedToDefault).field n ∨
    (n ∈ upManaged ∧ o.names n = false ∧ n.key ∈ pinnedPrefsIn settings) := by
  cases hnamed : o.names n with
  | true => exact .inl (applyOverrides_named o hnamed _ _)
  | false =>
    rw [applyOverrides_unnamed o hnamed, applyOverrides_unnamed o hnamed]
    by_cases hn : n ∈ upManaged
    · by_cases hdef : p.field n = Prefs.default.field n
      · exact .inl (hdef.trans (reset_managed hn p).symm)
      · obtain ⟨r, hr, hkey⟩ := guard_reports hn hnamed hdef hmention
        exact .inr ⟨hn, rfl, hkey ▸ guard_silent_pinned h r hr⟩
    · exact .inl (reset_unmanaged hn p).symm

end Tailnetd
