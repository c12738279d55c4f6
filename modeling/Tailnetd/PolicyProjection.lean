/-
  Policy application as a sequence of single-preference writes.

  `applySettingsToPrefs` edits the prefs step by step.  `policyWrites` is the same application as
  data: one `FieldWrites.Write` for each preference the policy actually decides, so a key that is
  not configured, an unusable exit node and a `user-decides` row contribute none.
  `applySettingsToPrefs_follows` connects the two, `policyWrites_lawful` and
  `policyWrites_distinct` are the hypotheses of the library's rules, and `mem_pinnedPrefsIn`
  says that the separately written pinned list names the targets of these writes (want-running,
  which is lifecycle, apart).
-/
import Tailnetd.SysPolicy
import Tailnetd.Lib.FieldWrites

namespace Tailnetd

open FieldWrites

/-- A write of one preference, reported as a policy change. -/
abbrev PrefWrite := Write Prefs PrefName PolicyChange

/-! ## The writes a policy makes -/

/-- The write of a text preference decided by a string key. -/
def textWrite (key : String) (name : PrefName) (get : Prefs → Option String)
    (set : Option String → Prefs → Prefs) (text : String) : PrefWrite where
  target := name
  put p := set (wantedText text) p
  report p :=
    if get p ≠ wantedText text then [⟨key, name.key, (wantedText text).getD ""⟩] else []

def loginUrlWrite : String → PrefWrite :=
  textWrite "LoginURL" .controlUrl (·.controlUrl) fun v p => { p with controlUrl := v }

def hostnameWrite : String → PrefWrite :=
  textWrite "Hostname" .hostname (·.hostname) fun v p => { p with hostname := v }

def exitNodeWrite (addr : String) : PrefWrite where
  target := .exitNode
  put p := { p with exitNode := some addr }
  report p :=
    if p.exitNode ≠ some addr then [⟨"ExitNodeIP", PrefName.exitNode.key, addr⟩] else []

def alwaysOnWrite : PrefWrite where
  target := .wantRunning
  put p := { p with wantRunning := true }
  report p :=
    if p.wantRunning = false then [⟨"AlwaysOn.Enabled", PrefName.wantRunning.key, "true"⟩] else []

/-- The write of a table row whose option is `always` (`wanted`) or `never`. -/
def PreferencePolicy.write (policy : PreferencePolicy) (wanted : Bool) : PrefWrite where
  target := policy.pref
  put p := if wanted ≠ policy.get p then policy.set wanted p else p
  report p :=
    if wanted ≠ policy.get p then [⟨policy.key, policy.pref.key, policy.shown wanted⟩] else []

/-- The answer an option forces, `none` when the operator decides. -/
def PreferenceOption.forced : PreferenceOption → Option Bool
  | .always => some true
  | .never => some false
  | .userDecides => none

/-- The write of a table row under this policy, if the row decides anything. -/
def PreferencePolicy.write? (settings : List PolicySetting) (policy : PreferencePolicy) :
    Option PrefWrite :=
  ((configuredPreference settings policy.key).bind PreferenceOption.forced).map policy.write

/-- Every write of a policy, in the order it is applied. -/
def policyWrites (settings : List PolicySetting) (o : PolicyOverrides) : List PrefWrite :=
  (configuredString settings "LoginURL").toList.map loginUrlWrite ++
  ((configuredString settings "Hostname").toList.map hostnameWrite ++
  ((if o.exitNode then [] else (policyExitNodeIn settings).toList.map exitNodeWrite) ++
  ((if configuredBoolean settings "AlwaysOn.Enabled" = some true ∧ o.alwaysOn = false then
      [alwaysOnWrite] else []) ++
  preferencePolicies.filterMap (·.write? settings))))

/-! ## The application runs these writes -/

/-- An editing step that runs `ws` on the prefs and appends exactly their reports. -/
def Follows (ws : List PrefWrite) (st st' : Applying) : Prop :=
  st'.1 = run ws st.1 ∧ st'.2.changed = st.2.changed ++ reports ws st.1

theorem Follows.refl (st : Applying) : Follows [] st st :=
  ⟨rfl, (List.append_nil _).symm⟩

theorem Follows.trans {vs ws : List PrefWrite} {a b c : Applying}
    (h1 : Follows vs a b) (h2 : Follows ws b c) : Follows (vs ++ ws) a c := by
  obtain ⟨hp, hr⟩ := h1
  obtain ⟨hp', hr'⟩ := h2
  refine ⟨?_, ?_⟩
  · rw [hp', hp, run_append]
  · rw [hr', hr, hp, reports_append, List.append_assoc]

theorem Follows.refuse (st : Applying) (r : PolicyRefusal) : Follows [] st (st.refuse r) :=
  ⟨rfl, (List.append_nil _).symm⟩

theorem applyText_follows (settings : List PolicySetting) (key : String) (name : PrefName)
    (get : Prefs → Option String) (set : Option String → Prefs → Prefs)
    (put_get : ∀ p, set (get p) p = p) (st : Applying) :
    Follows ((configuredString settings key).toList.map (textWrite key name get set)) st
      (applyText settings key name get set st) := by
  unfold applyText
  cases configuredString settings key with
  | none => exact Follows.refl st
  | some text =>
    by_cases h : get st.1 = wantedText text
    · -- already there: writing the wanted value again is the identity
      have hput : set (wantedText text) st.1 = st.1 := h ▸ put_get st.1
      simp [Follows, run, reports, textWrite, h, hput]
    · simp [Follows, run, reports, textWrite, h, Applying.write]

theorem applyExitNodePolicy_follows (settings : List PolicySetting) (o : Bool) (st : Applying) :
    Follows (if o then [] else (policyExitNodeIn settings).toList.map exitNodeWrite) st
      (applyExitNodePolicy settings o st) := by
  have none_follows : ∀ st' : Applying, Follows [] st st' →
      policyExitNodeIn settings = none →
      Follows (if o then [] else (policyExitNodeIn settings).toList.map exitNodeWrite) st st' := by
    intro st' h hnone
    rw [hnone]
    cases o <;> exact h
  unfold applyExitNodePolicy
  cases hid : (configuredString settings "ExitNodeID").filter fun id => !id.isEmpty with
  | some id =>
    refine none_follows _ (Follows.refuse st _) ?_
    obtain ⟨hs, hne⟩ := Option.filter_eq_some_iff.mp hid
    simp [policyExitNodeIn, hs, hne]
  | none =>
    have hany : ((configuredString settings "ExitNodeID").any fun id => !id.isEmpty) = false := by
      cases hs : configuredString settings "ExitNodeID" with
      | none => rfl
      | some id => simpa [hs] using hid
    cases hip : (configuredString settings "ExitNodeIP").filter fun ip => !ip.isEmpty with
    | none =>
      refine none_follows _ (Follows.refl st) ?_
      simp [policyExitNodeIn, hany, hip]
    | some raw =>
      cases haddr : readIpAddr raw with
      | none =>
        simp only [haddr]
        refine none_follows _ (Follows.refuse st _) ?_
        simp [policyExitNodeIn, hany, hip, haddr]
      | some addr =>
        have hpin : policyExitNodeIn settings = some addr.toText := by
          simp [policyExitNodeIn, hany, hip, haddr]
        simp only [haddr, hpin]
        cases o with
        | true => exact Follows.refl st
        | false =>
          by_cases h : st.1.exitNode = some addr.toText
          · have hsame : { st.1 with exitNode := some addr.toText } = st.1 := by rw [← h]
            simp [Follows, run, reports, exitNodeWrite, h, hsame]
          · simp [Follows, run, reports, exitNodeWrite, h, Applying.write]

theorem applyAlwaysOn_follows (settings : List PolicySetting) (o : Bool) (st : Applying) :
    Follows (if configuredBoolean settings "AlwaysOn.Enabled" = some true ∧ o = false then
        [alwaysOnWrite] else []) st (applyAlwaysOn settings o st) := by
  unfold applyAlwaysOn
  by_cases hon : configuredBoolean settings "AlwaysOn.Enabled" = some true ∧ o = false
  · obtain ⟨h1, h2⟩ := hon
    cases hw : st.1.wantRunning with
    | false => simp [Follows, run, reports, alwaysOnWrite, h1, h2, hw, Applying.write]
    | true =>
      have hsame : { st.1 with wantRunning := true } = st.1 := by rw [← hw]
      simp [Follows, run, reports, alwaysOnWrite, h1, h2, hw, hsame]
  · rw [if_neg hon, if_neg fun h => hon ⟨h.1, h.2.1⟩]
    exact Follows.refl st

theorem PreferencePolicy.apply_follows (settings : List PolicySetting)
    (policy : PreferencePolicy) (st : Applying) :
    Follows (policy.write? settings).toList st (policy.apply settings st) := by
  unfold PreferencePolicy.apply PreferencePolicy.write?
  cases configuredPreference settings policy.key with
  | none => exact Follows.refl st
  | some option =>
    cases option with
    | userDecides =>
      show Follows [] st (if policy.get st.1 ≠ policy.get st.1 then _ else st)
      rw [if_neg fun h => h rfl]
      exact Follows.refl st
    | always =>
      cases hg : policy.get st.1 <;>
        simp [Follows, run, reports, PreferenceOption.forced, PreferenceOption.shouldEnable,
          PreferencePolicy.write, hg, Applying.write]
    | never =>
      cases hg : policy.get st.1 <;>
        simp [Follows, run, reports, PreferenceOption.forced, PreferenceOption.shouldEnable,
          PreferencePolicy.write, hg, Applying.write]

theorem table_follows (settings : List PolicySetting) (table : List PreferencePolicy)
    (st : Applying) :
    Follows (table.filterMap (·.write? settings)) st
      (table.foldl (fun st policy => policy.apply settings st) st) := by
  induction table generalizing st with
  | nil => exact Follows.refl st
  | cons policy table ih =>
    have h := (policy.apply_follows settings st).trans (ih (policy.apply settings st))
    cases hw : policy.write? settings with
    | none => simpa [List.filterMap_cons, hw] using h
    | some w => simpa [List.filterMap_cons, hw] using h

/-- **The application is the run of its writes**, and it reports exactly theirs. -/
theorem applySettingsToPrefs_follows (settings : List PolicySetting) (p : Prefs)
    (o : PolicyOverrides) :
    Follows (policyWrites settings o) (p, {}) (applySettingsToPrefs settings p o) := by
  have h1 := applyText_follows settings "LoginURL" .controlUrl (·.controlUrl)
    (fun v p => { p with controlUrl := v }) (fun _ => rfl) (p, {})
  have h2 := h1.trans (applyText_follows settings "Hostname" .hostname (·.hostname)
    (fun v p => { p with hostname := v }) (fun _ => rfl) _)
  have h3 := h2.trans (applyExitNodePolicy_follows settings o.exitNode _)
  have h4 := h3.trans (applyAlwaysOn_follows settings o.alwaysOn _)
  have h5 := h4.trans (table_follows settings preferencePolicies _)
  have h6 : ∀ st : Applying, Follows [] st (refuseUnattendedMode settings st) := by
    intro st
    unfold refuseUnattendedMode
    split
    · exact Follows.refuse st _
    · exact Follows.refl st
  have h7 := h5.trans (h6 _)
  simp only [List.append_nil, List.append_assoc] at h7
  exact h7

/-! ## The writes are lawful and have distinct targets -/

/-- The effective value of a preference: an unset auto-update choice counts as off. -/
def PrefValue.effective : PrefValue → PrefValue
  | .choice v => .choice (some (v.getD false))
  | v => v

/-- What a row of the preference table satisfies: reading back what was written, touching one
    preference only, depending on nothing but that preference, and deciding its effective value. -/
structure PreferencePolicy.Lawful (policy : PreferencePolicy) : Prop where
  get_set : ∀ v p, policy.get (policy.set v p) = v
  set_frame : ∀ v p n, n ≠ policy.pref → (policy.set v p).field n = p.field n
  set_const : ∀ v p q, (policy.set v p).field policy.pref = (policy.set v q).field policy.pref
  get_congr : ∀ p q, p.field policy.pref = q.field policy.pref → policy.get p = policy.get q
  effective : ∀ p q, policy.get p = policy.get q →
    (p.field policy.pref).effective = (q.field policy.pref).effective

theorem preferencePolicies_lawful : ∀ policy ∈ preferencePolicies, policy.Lawful := by
  intro policy h
  simp only [preferencePolicies, List.mem_cons, List.not_mem_nil, or_false] at h
  rcases h with rfl | rfl | rfl | rfl | rfl | rfl | rfl <;>
    refine ⟨?_, ?_, ?_, ?_, ?_⟩
  all_goals first
    | (intro v p; cases v <;> rfl)
    | (intro v p n hn; cases n <;> first | rfl | exact absurd rfl hn)
    | (intro v p q; rfl)
    | (intro p q h
       simp only [Prefs.field, allowIncomingConnections, exitNodeAllowLANAccess,
        useTailscaleDNSSettings, useTailscaleSubnets, checkUpdates, advertiseExitNodePolicy,
        installUpdates, PrefValue.effective] at h ⊢
       simp_all)

/-- After a row's write its preference reads as the answer. -/
theorem PreferencePolicy.Lawful.get_put {policy : PreferencePolicy} (law : policy.Lawful)
    (wanted : Bool) (p : Prefs) : policy.get ((policy.write wanted).put p) = wanted := by
  show policy.get (if wanted ≠ policy.get p then policy.set wanted p else p) = wanted
  by_cases h : wanted = policy.get p
  · rw [if_neg fun hne => hne h, ← h]
  · rw [if_pos h, law.get_set]

theorem PreferencePolicy.Lawful.write_lawful {policy : PreferencePolicy} (law : policy.Lawful)
    (wanted : Bool) : (policy.write wanted).Lawful Prefs.field where
  frame p n hn := by
    show (if wanted ≠ policy.get p then policy.set wanted p else p).field n = p.field n
    split
    · exact law.set_frame wanted p n hn
    · rfl
  congr p q h := by
    have hg := law.get_congr p q h
    show (if wanted ≠ policy.get p then policy.set wanted p else p).field policy.pref =
      (if wanted ≠ policy.get q then policy.set wanted q else q).field policy.pref
    rw [hg]
    split
    · exact law.set_const wanted p q
    · exact h
  idem p := by
    -- after the write the preference reads as wanted, so the second write does nothing
    show (if wanted ≠ policy.get ((policy.write wanted).put p) then _
      else (policy.write wanted).put p).field policy.pref = _
    rw [law.get_put, if_neg fun hne => hne rfl]
    rfl
  honest p := by
    show (if wanted ≠ policy.get p then [_] else []) = [] ↔
      (if wanted ≠ policy.get p then policy.set wanted p else p).field policy.pref =
        p.field policy.pref
    by_cases h : wanted = policy.get p
    · rw [if_neg fun hne => hne h, if_neg fun hne => hne h]
      exact ⟨fun _ => rfl, fun _ => rfl⟩
    · rw [if_pos h, if_pos h]
      constructor
      · intro hnil
        cases hnil
      · intro hsame
        have hget := law.get_congr _ _ hsame
        rw [law.get_set] at hget
        exact absurd hget h

theorem exitNodeWrite_lawful (addr : String) : (exitNodeWrite addr).Lawful Prefs.field where
  frame p n hn := by cases n <;> first | rfl | exact absurd rfl hn
  congr _ _ _ := rfl
  idem _ := rfl
  honest p := by
    by_cases h : p.exitNode = some addr <;> simp [exitNodeWrite, Prefs.field, h, eq_comm]

theorem alwaysOnWrite_lawful : alwaysOnWrite.Lawful Prefs.field where
  frame p n hn := by cases n <;> first | rfl | exact absurd rfl hn
  congr _ _ _ := rfl
  idem _ := rfl
  honest p := by
    cases h : p.wantRunning <;> simp [alwaysOnWrite, Prefs.field, h]

theorem loginUrlWrite_lawful (text : String) : (loginUrlWrite text).Lawful Prefs.field where
  frame p n hn := by cases n <;> first | rfl | exact absurd rfl hn
  congr _ _ _ := rfl
  idem _ := rfl
  honest p := by
    by_cases h : p.controlUrl = wantedText text <;>
      simp [loginUrlWrite, textWrite, Prefs.field, h, eq_comm]

theorem hostnameWrite_lawful (text : String) : (hostnameWrite text).Lawful Prefs.field where
  frame p n hn := by cases n <;> first | rfl | exact absurd rfl hn
  congr _ _ _ := rfl
  idem _ := rfl
  honest p := by
    by_cases h : p.hostname = wantedText text <;>
      simp [hostnameWrite, textWrite, Prefs.field, h, eq_comm]

/-- Where a write of the policy comes from. -/
theorem mem_policyWrites {settings : List PolicySetting} {o : PolicyOverrides} {w : PrefWrite} :
    w ∈ policyWrites settings o ↔
      (∃ url, configuredString settings "LoginURL" = some url ∧ loginUrlWrite url = w) ∨
      (∃ host, configuredString settings "Hostname" = some host ∧ hostnameWrite host = w) ∨
      (o.exitNode = false ∧ ∃ addr, policyExitNodeIn settings = some addr ∧
        exitNodeWrite addr = w) ∨
      ((configuredBoolean settings "AlwaysOn.Enabled" = some true ∧ o.alwaysOn = false) ∧
        alwaysOnWrite = w) ∨
      ∃ policy ∈ preferencePolicies, ∃ wanted,
        (configuredPreference settings policy.key).bind PreferenceOption.forced = some wanted ∧
        policy.write wanted = w := by
  have hexit : w ∈ (if o.exitNode then [] else (policyExitNodeIn settings).toList.map exitNodeWrite)
      ↔ o.exitNode = false ∧ ∃ addr, policyExitNodeIn settings = some addr ∧
        exitNodeWrite addr = w := by
    cases o.exitNode <;> simp
  have hon : w ∈ (if configuredBoolean settings "AlwaysOn.Enabled" = some true ∧
      o.alwaysOn = false then [alwaysOnWrite] else []) ↔
      (configuredBoolean settings "AlwaysOn.Enabled" = some true ∧ o.alwaysOn = false) ∧
        alwaysOnWrite = w := by
    split
    · rename_i h
      rw [List.mem_singleton]
      exact ⟨fun e => ⟨h, e.symm⟩, fun e => e.2.symm⟩
    · rename_i h
      constructor
      · intro e
        cases e
      · intro e
        exact absurd e.1 h
  rw [policyWrites, List.mem_append, List.mem_append, List.mem_append, List.mem_append, hexit, hon]
  simp only [List.mem_map, Option.mem_toList, List.mem_filterMap,
    PreferencePolicy.write?, Option.map_eq_some_iff]

theorem policyWrites_lawful (settings : List PolicySetting) (o : PolicyOverrides) :
    ∀ w ∈ policyWrites settings o, w.Lawful Prefs.field := by
  intro w hw
  rcases mem_policyWrites.mp hw with ⟨url, -, rfl⟩ | ⟨host, -, rfl⟩ | ⟨-, addr, -, rfl⟩ |
    ⟨-, rfl⟩ | ⟨policy, hmem, wanted, -, rfl⟩
  · exact loginUrlWrite_lawful url
  · exact hostnameWrite_lawful host
  · exact exitNodeWrite_lawful addr
  · exact alwaysOnWrite_lawful
  · exact (preferencePolicies_lawful policy hmem).write_lawful wanted

theorem policyWrites_distinct (settings : List PolicySetting) (o : PolicyOverrides) :
    ((policyWrites settings o).map Write.target).Nodup := by
  -- the targets are a sublist of the fixed list of everything a policy can decide
  have hfixed : ([.controlUrl] ++ ([.hostname] ++ ([.exitNode] ++ ([.wantRunning] ++
      preferencePolicies.map (·.pref)))) : List PrefName).Nodup := by decide
  refine List.Sublist.nodup ?_ hfixed
  have text_sub : ∀ (v : Option String) (write : String → PrefWrite) (n : PrefName),
      (∀ t, (write t).target = n) → ((v.toList.map write).map Write.target).Sublist [n] := by
    intro v write n h
    cases v with
    | none => exact List.nil_sublist _
    | some t => simp [h]
  have table_sub : ∀ table : List PreferencePolicy,
      ((table.filterMap (·.write? settings)).map Write.target).Sublist (table.map (·.pref)) := by
    intro table
    induction table with
    | nil => exact List.Sublist.slnil
    | cons policy table ih =>
      cases hw : policy.write? settings with
      | none => simpa [List.filterMap_cons, hw] using ih.cons policy.pref
      | some w =>
        have ht : w.target = policy.pref := by
          obtain ⟨wanted, -, rfl⟩ := Option.map_eq_some_iff.mp hw
          rfl
        simpa [List.filterMap_cons, hw, ht] using ih
  simp only [policyWrites, List.map_append]
  refine (text_sub _ loginUrlWrite _ fun _ => rfl).append
    ((text_sub _ hostnameWrite _ fun _ => rfl).append
      (List.Sublist.append ?_ (List.Sublist.append ?_ (table_sub _))))
  · cases o.exitNode with
    | true => exact List.nil_sublist _
    | false => exact text_sub _ exitNodeWrite _ fun _ => rfl
  · split
    · exact List.Sublist.refl _
    · exact List.nil_sublist _

/-- The pinned list names the targets of the policy's writes, want-running apart. -/
theorem mem_pinnedPrefsIn {settings : List PolicySetting} {n : PrefName} :
    n.key ∈ pinnedPrefsIn settings ↔
      n ≠ .wantRunning ∧ ∃ w ∈ policyWrites settings {}, w.target = n := by
  have hkey : ∀ m : PrefName, n.key = m.key ↔ n = m :=
    fun m => ⟨fun h => PrefName.key_injective h, fun h => h ▸ rfl⟩
  have hforced : ∀ policy : PreferencePolicy,
      ((configuredPreference settings policy.key).any fun option => option ≠ .userDecides) =
        ((configuredPreference settings policy.key).bind PreferenceOption.forced).isSome := by
    intro policy
    cases configuredPreference settings policy.key with
    | none => rfl
    | some option => cases option <;> rfl
  constructor
  · intro h
    simp only [pinnedPrefsIn, List.mem_append, List.mem_filterMap] at h
    rcases h with ((h | h) | h) | ⟨policy, hmem, h⟩
    · split at h
      · rename_i hs
        obtain ⟨url, hurl⟩ := Option.isSome_iff_exists.mp hs
        obtain rfl := (hkey .controlUrl).mp (List.mem_singleton.mp h)
        exact ⟨by decide, _, mem_policyWrites.mpr (.inl ⟨url, hurl, rfl⟩), rfl⟩
      · cases h
    · split at h
      · rename_i hs
        obtain ⟨host, hhost⟩ := Option.isSome_iff_exists.mp hs
        obtain rfl := (hkey .hostname).mp (List.mem_singleton.mp h)
        exact ⟨by decide, _, mem_policyWrites.mpr (.inr (.inl ⟨host, hhost, rfl⟩)), rfl⟩
      · cases h
    · split at h
      · rename_i hs
        obtain ⟨addr, haddr⟩ := Option.isSome_iff_exists.mp hs
        obtain rfl := (hkey .exitNode).mp (List.mem_singleton.mp h)
        exact ⟨by decide, _, mem_policyWrites.mpr (.inr (.inr (.inl ⟨rfl, addr, haddr, rfl⟩))), rfl⟩
      · cases h
    · rw [hforced] at h
      split at h
      · rename_i hs
        obtain ⟨wanted, hwanted⟩ := Option.isSome_iff_exists.mp hs
        obtain rfl := ((hkey policy.pref).mp (Option.some.inj h).symm)
        refine ⟨?_, policy.write wanted, mem_policyWrites.mpr (.inr (.inr (.inr (.inr
          ⟨policy, hmem, wanted, hwanted, rfl⟩)))), rfl⟩
        intro hw
        have htable : ∀ policy ∈ preferencePolicies, policy.pref ≠ .wantRunning := by decide
        exact htable policy hmem hw
      · cases h
  · rintro ⟨hne, w, hw, rfl⟩
    simp only [pinnedPrefsIn, List.mem_append, List.mem_filterMap]
    rcases mem_policyWrites.mp hw with ⟨url, hurl, rfl⟩ | ⟨host, hhost, rfl⟩ |
      ⟨-, addr, haddr, rfl⟩ | ⟨-, rfl⟩ | ⟨policy, hmem, wanted, hwanted, rfl⟩
    · refine .inl (.inl (.inl ?_))
      simp only [hurl, Option.isSome_some, if_true]
      exact List.mem_singleton.mpr rfl
    · refine .inl (.inl (.inr ?_))
      simp only [hhost, Option.isSome_some, if_true]
      exact List.mem_singleton.mpr rfl
    · refine .inl (.inr ?_)
      simp only [haddr, Option.isSome_some, if_true]
      exact List.mem_singleton.mpr rfl
    · exact absurd rfl hne
    · refine .inr ⟨policy, hmem, ?_⟩
      simp only [hforced, hwanted, Option.isSome_some, if_true]
      rfl

/-! ## The projection -/

/-- A pinned preference's write decides its effective value, whatever was stored. -/
theorem pinned_write_const {settings : List PolicySetting} {o : PolicyOverrides} {w : PrefWrite}
    (hw : w ∈ policyWrites settings o) (p q : Prefs) :
    ((w.put p).field w.target).effective = ((w.put q).field w.target).effective := by
  rcases mem_policyWrites.mp hw with ⟨url, -, rfl⟩ | ⟨host, -, rfl⟩ | ⟨-, addr, -, rfl⟩ |
    ⟨-, rfl⟩ | ⟨policy, hmem, wanted, -, rfl⟩
  · rfl
  · rfl
  · rfl
  · rfl
  · have law := preferencePolicies_lawful policy hmem
    refine law.effective _ _ ?_
    rw [law.get_put, law.get_put]

/-- **Policy application is an idempotent projection.**  With no exemption standing it moves only
    the pinned preferences (and want-running, under an always-on policy); a second application
    changes nothing and reports no change; and the effective value of a pinned preference does
    not depend on what was stored. -/
theorem policy_application_projection (settings : List PolicySetting) (p q : Prefs) :
    (∀ n : PrefName, n.key ∉ pinnedPrefsIn settings →
      (n = .wantRunning → configuredBoolean settings "AlwaysOn.Enabled" ≠ some true) →
      (applySettingsToPrefs settings p {}).1.field n = p.field n) ∧
    (applySettingsToPrefs settings (applySettingsToPrefs settings p {}).1 {}).1 =
      (applySettingsToPrefs settings p {}).1 ∧
    (applySettingsToPrefs settings (applySettingsToPrefs settings p {}).1 {}).2.changed = [] ∧
    ∀ n : PrefName, n.key ∈ pinnedPrefsIn settings →
      ((applySettingsToPrefs settings p {}).1.field n).effective =
        ((applySettingsToPrefs settings q {}).1.field n).effective := by
  have lawful := policyWrites_lawful settings {}
  have distinct := policyWrites_distinct settings {}
  have applied : ∀ r, (applySettingsToPrefs settings r {}).1 = run (policyWrites settings {}) r :=
    fun r => (applySettingsToPrefs_follows settings r {}).1
  refine ⟨?_, ?_, ?_, ?_⟩
  · intro n hpin hrun
    rw [applied]
    refine run_frame lawful ?_ p
    intro w hw htarget
    by_cases hn : n = .wantRunning
    · -- only the always-on write targets want-running
      subst hn
      rcases mem_policyWrites.mp hw with ⟨url, -, rfl⟩ | ⟨host, -, rfl⟩ | ⟨-, addr, -, rfl⟩ |
        ⟨⟨hon, -⟩, -⟩ | ⟨policy, hmem, wanted, -, rfl⟩
      · cases htarget
      · cases htarget
      · cases htarget
      · exact hrun rfl hon
      · have htable : ∀ policy ∈ preferencePolicies, policy.pref ≠ .wantRunning := by decide
        exact htable policy hmem htarget
    · exact hpin (mem_pinnedPrefsIn.mpr ⟨hn, w, hw, htarget⟩)
  · rw [applied, applied]
    exact Prefs.ext_field fun n => run_run lawful distinct p n
  · rw [(applySettingsToPrefs_follows settings _ {}).2, applied]
    exact reports_run lawful distinct p
  · intro n hpin
    obtain ⟨-, w, hw, rfl⟩ := mem_pinnedPrefsIn.mp hpin
    rw [applied, applied]
    exact run_insensitive PrefValue.effective lawful distinct hw (pinned_write_const hw) p q

end Tailnetd
