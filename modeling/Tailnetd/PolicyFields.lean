/-
  What the policy does to a single preference.

  The application is a run of writes with distinct targets, so each field can be read off alone: a
  field no write targets is kept, want-running is switched on by an always-on policy, the exit node
  is replaced by the pinned one.  Two applications that start from the same field and decide it
  alike end in the same field, which is how a second application is compared with a first.
-/
import Tailnetd.PolicyProjection

namespace Tailnetd

open FieldWrites

theorem applied_run (settings : List PolicySetting) (p : Prefs) (o : PolicyOverrides) :
    (applySettingsToPrefs settings p o).1 = run (policyWrites settings o) p :=
  (applySettingsToPrefs_follows settings p o).1

/-- The preferences a policy can decide. -/
def policyTargets : List PrefName :=
  [.controlUrl, .hostname, .exitNode, .wantRunning] ++ preferencePolicies.map (·.pref)

theorem target_mem {settings : List PolicySetting} {o : PolicyOverrides} {w : PrefWrite}
    (hw : w ∈ policyWrites settings o) : w.target ∈ policyTargets := by
  rcases mem_policyWrites.mp hw with ⟨url, -, rfl⟩ | ⟨host, -, rfl⟩ | ⟨-, addr, -, rfl⟩ |
    ⟨-, rfl⟩ | ⟨policy, hmem, wanted, -, rfl⟩
  · simp [policyTargets, loginUrlWrite, textWrite]
  · simp [policyTargets, hostnameWrite, textWrite]
  · simp [policyTargets, exitNodeWrite]
  · simp [policyTargets, alwaysOnWrite]
  · exact List.mem_append_right _ (List.mem_map_of_mem hmem)

/-- A preference outside the policy's reach is kept. -/
theorem policy_free {n : PrefName} (hn : n ∉ policyTargets) (settings : List PolicySetting)
    (p : Prefs) (o : PolicyOverrides) :
    (applySettingsToPrefs settings p o).1.field n = p.field n := by
  rw [applied_run]
  refine run_frame (policyWrites_lawful settings o) ?_ p
  rintro w hw rfl
  exact hn (target_mem hw)

@[simp] theorem policy_loggedOut (settings : List PolicySetting) (p : Prefs) (o : PolicyOverrides) :
    (applySettingsToPrefs settings p o).1.loggedOut = p.loggedOut :=
  PrefValue.flag.inj (policy_free (n := .loggedOut) (by decide) settings p o)

@[simp] theorem policy_hasLoggedIn (settings : List PolicySetting) (p : Prefs)
    (o : PolicyOverrides) :
    (applySettingsToPrefs settings p o).1.hasLoggedIn = p.hasLoggedIn :=
  PrefValue.flag.inj (policy_free (n := .hasLoggedIn) (by decide) settings p o)

/-- Only the always-on write targets want-running. -/
theorem target_wantRunning {settings : List PolicySetting} {o : PolicyOverrides} {w : PrefWrite}
    (hw : w ∈ policyWrites settings o) (ht : w.target = .wantRunning) :
    configuredBoolean settings "AlwaysOn.Enabled" = some true ∧ o.alwaysOn = false := by
  rcases mem_policyWrites.mp hw with ⟨url, -, rfl⟩ | ⟨host, -, rfl⟩ | ⟨-, addr, -, rfl⟩ |
    ⟨hon, rfl⟩ | ⟨policy, hmem, wanted, -, rfl⟩
  · cases ht
  · cases ht
  · cases ht
  · exact hon
  · have htable : ∀ policy ∈ preferencePolicies, policy.pref ≠ .wantRunning := by decide
    exact absurd ht (htable policy hmem)

/-- Only the exit-node write targets the exit node. -/
theorem target_exitNode {settings : List PolicySetting} {o : PolicyOverrides} {w : PrefWrite}
    (hw : w ∈ policyWrites settings o) (ht : w.target = .exitNode) :
    o.exitNode = false ∧ ∃ addr, policyExitNodeIn settings = some addr := by
  rcases mem_policyWrites.mp hw with ⟨url, -, rfl⟩ | ⟨host, -, rfl⟩ | ⟨hflag, addr, haddr, rfl⟩ |
    ⟨-, rfl⟩ | ⟨policy, hmem, wanted, -, rfl⟩
  · cases ht
  · cases ht
  · exact ⟨hflag, addr, haddr⟩
  · cases ht
  · have htable : ∀ policy ∈ preferencePolicies, policy.pref ≠ .exitNode := by decide
    exact absurd ht (htable policy hmem)

/-- **The policy can only switch the intent on**, and not under an exemption. -/
theorem policy_wantRunning (settings : List PolicySetting) (p : Prefs) (o : PolicyOverrides) :
    (applySettingsToPrefs settings p o).1.wantRunning =
      (p.wantRunning ||
        (decide (configuredBoolean settings "AlwaysOn.Enabled" = some true) && !o.alwaysOn)) := by
  have lawful := policyWrites_lawful settings o
  rw [applied_run]
  by_cases hon : configuredBoolean settings "AlwaysOn.Enabled" = some true ∧ o.alwaysOn = false
  · have hw : alwaysOnWrite ∈ policyWrites settings o :=
      mem_policyWrites.mpr (.inr (.inr (.inr (.inl ⟨hon, rfl⟩))))
    have hat := run_at lawful (policyWrites_distinct settings o) hw p
    rw [PrefValue.flag.inj hat]
    simp [alwaysOnWrite, hon.1, hon.2]
  · have hframe := run_frame (i := .wantRunning) lawful
      (fun w hw ht => hon (target_wantRunning hw ht)) p
    rw [PrefValue.flag.inj hframe]
    rcases not_and_or.mp hon with h | h
    · simp [h]
    · simp [h]

/-- **The pinned exit node replaces the stored one**, unless an override stands. -/
theorem policy_exitNode (settings : List PolicySetting) (p : Prefs) (o : PolicyOverrides) :
    (applySettingsToPrefs settings p o).1.exitNode =
      if o.exitNode then p.exitNode else (policyExitNodeIn settings).or p.exitNode := by
  have lawful := policyWrites_lawful settings o
  have keep (h : ¬ (o.exitNode = false ∧ ∃ addr, policyExitNodeIn settings = some addr)) :
      (run (policyWrites settings o) p).exitNode = p.exitNode :=
    PrefValue.text.inj (run_frame (i := .exitNode) lawful
      (fun w hw ht => h (target_exitNode hw ht)) p)
  rw [applied_run]
  cases hflag : o.exitNode with
  | true => exact keep (by simp [hflag])
  | false =>
    cases hpin : policyExitNodeIn settings with
    | none => exact keep (by simp [hpin])
    | some addr =>
      have hw : exitNodeWrite addr ∈ policyWrites settings o :=
        mem_policyWrites.mpr (.inr (.inr (.inl ⟨hflag, addr, hpin, rfl⟩)))
      exact PrefValue.text.inj (run_at lawful (policyWrites_distinct settings o) hw p)

/-- Only the login-server write targets the control URL. -/
theorem target_controlUrl {settings : List PolicySetting} {o : PolicyOverrides} {w : PrefWrite}
    (hw : w ∈ policyWrites settings o) (ht : w.target = .controlUrl) :
    ∃ url, configuredString settings "LoginURL" = some url := by
  rcases mem_policyWrites.mp hw with ⟨url, hurl, rfl⟩ | ⟨host, -, rfl⟩ | ⟨-, addr, -, rfl⟩ |
    ⟨-, rfl⟩ | ⟨policy, hmem, wanted, -, rfl⟩
  · exact ⟨url, hurl⟩
  · cases ht
  · cases ht
  · cases ht
  · have htable : ∀ policy ∈ preferencePolicies, policy.pref ≠ .controlUrl := by decide
    exact absurd ht (htable policy hmem)

/-- **A configured login server replaces the stored one.** -/
theorem policy_controlUrl (settings : List PolicySetting) (p : Prefs) (o : PolicyOverrides) :
    (applySettingsToPrefs settings p o).1.controlUrl =
      ((configuredString settings "LoginURL").map wantedText).getD p.controlUrl := by
  have lawful := policyWrites_lawful settings o
  rw [applied_run]
  cases hurl : configuredString settings "LoginURL" with
  | none =>
    refine PrefValue.text.inj (run_frame (i := .controlUrl) lawful (fun w hw ht => ?_) p)
    obtain ⟨url, h⟩ := target_controlUrl hw ht
    rw [hurl] at h
    cases h
  | some url =>
    have hw : loginUrlWrite url ∈ policyWrites settings o :=
      mem_policyWrites.mpr (.inl ⟨url, hurl, rfl⟩)
    exact PrefValue.text.inj (run_at lawful (policyWrites_distinct settings o) hw p)

/-- Two rows of the table that target one preference are configured by one key. -/
theorem preferencePolicies_key : ∀ policy ∈ preferencePolicies, ∀ other ∈ preferencePolicies,
    other.pref = policy.pref → other.key = policy.key := by
  decide

/-- **A row of the table has its answer**, and leaves the choice to the operator without one. -/
theorem policy_preference {policy : PreferencePolicy} (hmem : policy ∈ preferencePolicies)
    (settings : List PolicySetting) (p : Prefs) (o : PolicyOverrides) :
    policy.get (applySettingsToPrefs settings p o).1 =
      ((configuredPreference settings policy.key).bind PreferenceOption.forced).getD
        (policy.get p) := by
  have law := preferencePolicies_lawful policy hmem
  have lawful := policyWrites_lawful settings o
  rw [applied_run]
  cases hforced : (configuredPreference settings policy.key).bind PreferenceOption.forced with
  | some wanted =>
    have hw : policy.write wanted ∈ policyWrites settings o :=
      mem_policyWrites.mpr (.inr (.inr (.inr (.inr ⟨policy, hmem, wanted, hforced, rfl⟩))))
    have hat := run_at lawful (policyWrites_distinct settings o) hw p
    exact (law.get_congr _ _ hat).trans (law.get_put wanted p)
  | none =>
    have hfree : ∀ w ∈ policyWrites settings o, w.target ≠ policy.pref := by
      intro w hw ht
      have htable : ∀ other ∈ preferencePolicies,
          other.pref ≠ .controlUrl ∧ other.pref ≠ .hostname ∧ other.pref ≠ .exitNode ∧
            other.pref ≠ .wantRunning := by decide
      obtain ⟨hurl, hhost, hexit, hrun⟩ := htable policy hmem
      rcases mem_policyWrites.mp hw with ⟨url, -, rfl⟩ | ⟨host, -, rfl⟩ | ⟨-, addr, -, rfl⟩ |
        ⟨-, rfl⟩ | ⟨other, hother, wanted, hwanted, rfl⟩
      · exact hurl ht.symm
      · exact hhost ht.symm
      · exact hexit ht.symm
      · exact hrun ht.symm
      · rw [preferencePolicies_key policy hmem other hother ht, hforced] at hwanted
        cases hwanted
    exact law.get_congr _ _ (run_frame lawful hfree p)

/-! ## Comparing two applications -/

/-- A field that starts the same ends the same. -/
theorem policy_congr {n : PrefName} {p q : Prefs} (h : p.field n = q.field n)
    (settings : List PolicySetting) (o : PolicyOverrides) :
    (applySettingsToPrefs settings p o).1.field n =
      (applySettingsToPrefs settings q o).1.field n := by
  rw [applied_run, applied_run]
  exact run_congr (policyWrites_lawful settings o) (policyWrites_distinct settings o) h

/-- A write is made under any other exemption too, unless that one suspends it. -/
theorem policyWrites_exempt {settings : List PolicySetting} {o o' : PolicyOverrides} {w : PrefWrite}
    (hw : w ∈ policyWrites settings o) (hexit : w.target = .exitNode → o'.exitNode = false)
    (hrun : w.target ≠ .wantRunning) : w ∈ policyWrites settings o' := by
  rcases mem_policyWrites.mp hw with h | h | ⟨-, addr, haddr, rfl⟩ | ⟨-, rfl⟩ | h
  · exact mem_policyWrites.mpr (.inl h)
  · exact mem_policyWrites.mpr (.inr (.inl h))
  · exact mem_policyWrites.mpr (.inr (.inr (.inl ⟨hexit rfl, addr, haddr, rfl⟩)))
  · exact absurd rfl hrun
  · exact mem_policyWrites.mpr (.inr (.inr (.inr (.inr h))))

/-- The exemptions concern want-running and the exit node only. -/
theorem policy_exempt {n : PrefName} (hrun : n ≠ .wantRunning) (hexit : n ≠ .exitNode)
    (settings : List PolicySetting) (p : Prefs) (o o' : PolicyOverrides) :
    (applySettingsToPrefs settings p o).1.field n =
      (applySettingsToPrefs settings p o').1.field n := by
  have hmove {a b : PolicyOverrides} {w : PrefWrite} (hw : w ∈ policyWrites settings a)
      (ht : w.target = n) : w ∈ policyWrites settings b :=
    policyWrites_exempt hw (fun he => absurd (ht.symm.trans he) hexit)
      (fun he => hrun (ht.symm.trans he))
  rw [applied_run, applied_run]
  by_cases h : ∃ w ∈ policyWrites settings o, w.target = n
  · obtain ⟨w, hw, rfl⟩ := h
    rw [run_at (policyWrites_lawful settings o) (policyWrites_distinct settings o) hw,
      run_at (policyWrites_lawful settings o') (policyWrites_distinct settings o') (hmove hw rfl)]
  · rw [run_frame (policyWrites_lawful settings o) (fun w hw ht => h ⟨w, hw, ht⟩),
      run_frame (policyWrites_lawful settings o') (fun w hw ht => h ⟨w, hmove hw ht, ht⟩)]

/-- Applying the policy again changes nothing. -/
theorem policy_idem (settings : List PolicySetting) (p : Prefs) (o : PolicyOverrides) :
    (applySettingsToPrefs settings (applySettingsToPrefs settings p o).1 o).1 =
      (applySettingsToPrefs settings p o).1 := by
  refine Prefs.ext_field fun n => ?_
  rw [applied_run, applied_run]
  exact run_run (policyWrites_lawful settings o) (policyWrites_distinct settings o) p n

/-- Only the auto-update choice has two values that count as one. -/
theorem effective_injective {n : PrefName} (hn : n ≠ .autoUpdateApply) {p q : Prefs}
    (h : (p.field n).effective = (q.field n).effective) : p.field n = q.field n := by
  cases n <;> first | exact h | exact absurd rfl hn

/-- **A pinned preference ends the same from any prefs**, the auto-update choice apart. -/
theorem policy_pinned {settings : List PolicySetting} {o : PolicyOverrides} {n : PrefName}
    (hpin : n.key ∈ pinnedPrefsIn settings) (hn : n ≠ .autoUpdateApply)
    (hexit : n = .exitNode → o.exitNode = false) (p q : Prefs) :
    (applySettingsToPrefs settings p o).1.field n =
      (applySettingsToPrefs settings q o).1.field n := by
  obtain ⟨hrun, w, hw, rfl⟩ := mem_pinnedPrefsIn.mp hpin
  have hw' := policyWrites_exempt hw hexit hrun
  rw [applied_run, applied_run]
  exact effective_injective hn (run_insensitive PrefValue.effective (policyWrites_lawful settings o)
    (policyWrites_distinct settings o) hw' (pinned_write_const hw') p q)

end Tailnetd
