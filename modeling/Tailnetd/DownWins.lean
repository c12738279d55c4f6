/-
  A disconnect against the rebuild of a `set` or a reload.

  A rebuild owes three more sections: its preflight, its `begin_up`, and the `finish_up` of its
  handshake.  A disconnect in the handshake makes the bring-up stale, and a disconnect after the
  install tears the engine down.  A disconnect before `begin_up` does neither: nothing tells
  `begin_up` that it happened, and `begin_up` writes the intent back.
-/
import Tailnetd.PolicyFields
import Tailnetd.Boot

namespace Tailnetd

open Machine

/-! ## The run of one rebuild -/

/-- The sections of one rebuild, and disconnects that succeed. -/
def OneRebuild (H : Host) (d : Daemon) : Event → Prop
  | .preflight _ _ => True
  | .rebuild _ _ => True
  | .finish _ _ _ => True
  | .down reason io => (d.backend.down (d.env H) (.operator reason) io).1 = .ok ()
  | .logout reason io => (d.backend.logout (d.env H) (.operator reason) io).1 = .ok ()
  | _ => False

def Event.disconnects : Event → Bool
  | .down _ _ => true
  | .logout _ _ => true
  | _ => false

def Event.logsOut : Event → Bool
  | .logout _ _ => true
  | _ => false

/-- The node is as the disconnect `e` left it. -/
def StoppedBy (e : Event) (d : Daemon) : Prop :=
  d.backend.device = none ∧ d.backend.prefs.wantRunning = false ∧
    (e.logsOut = true → d.backend.prefs.loggedOut = true)

/-- After the last disconnect the rebuild goes on: its preflight passes, or is already behind it,
    and the checks of `begin_up` accept the stored prefs. -/
def RebuildGoesOn (H : Host) (d : Daemon) (rest : List Event) : Prop :=
  (d.backend.checkUp (d.env H) {} {}).isOk = true ∧
    ((∃ cause, d.tasks = [.rebuild cause]) ∨
      ∃ cause i io later, d.tasks = [.preflight cause] ∧ rest = .preflight i io :: later ∧
        io.key.ok = true ∧ d.backend.keyFile ≠ some .malformed ∧
        buildChecks H d.backend.prefs = true)

/-- Where one rebuild stands. -/
inductive Phase (d : Daemon) : Prop
  | preflight {cause : Cause} (htasks : d.tasks = [.preflight cause])
  | rebuild {cause : Cause} (htasks : d.tasks = [.rebuild cause])
  | handshake {pending : PendingUp} {authkey : Option String} {origin : Origin}
      (htasks : d.tasks = [.handshake pending authkey origin])
      (hgen : pending.generation ≤ d.backend.generation)
  | done (htasks : d.tasks = [])

/-! ## The sections, each the only one owed -/

/-- The only task is picked up at position zero. -/
theorem only_task {ts : List Task} {t u : Task} {i : Nat} (hts : ts = [t])
    (hu : ts[i]? = some u) : u = t ∧ ts.eraseIdx i = [] := by
  subst hts
  cases i with
  | zero => exact ⟨(Option.some.inj hu).symm, rfl⟩
  | succ i => cases hu

theorem preflight_only {H : Host} {d d' : Daemon} {cause : Cause} {i : Nat} {io : Io}
    (htasks : d.tasks = [.preflight cause])
    (h : Daemon.step H d (.preflight i io) = some d') :
    DiskOnly d.backend d'.backend ∧ d'.policy = d.policy ∧
    if (d.backend.buildConfig (d.env H) io).1.isOk then d'.tasks = [.rebuild cause]
    else d'.tasks = [] := by
  have hb := Backend.buildConfig_diskOnly (d.env H) d.backend io
  dsimp only [Daemon.step] at h
  split at h
  · rename_i cause' htask
    obtain ⟨hcause, herase⟩ := only_task htasks htask
    cases hcause
    cases h
    dsimp only [Daemon.preflight, Daemon.take]
    rw [show Daemon.env H { d with tasks := d.tasks.eraseIdx i } = d.env H from rfl]
    rcases hc : d.backend.buildConfig (d.env H) io with ⟨f | config, b1⟩
    · rw [hc] at hb
      exact ⟨hb, rfl, herase⟩
    · rw [hc] at hb
      refine ⟨hb, rfl, ?_⟩
      show d.tasks.eraseIdx i ++ [.rebuild cause] = [.rebuild cause]
      rw [herase]
      rfl
  · cases h

theorem rebuild_only {H : Host} {d d' : Daemon} {cause : Cause} {i : Nat} {io : Io}
    (htasks : d.tasks = [.rebuild cause]) (h : Daemon.step H d (.rebuild i io) = some d') :
    ((d.backend.checkUp (d.env H) {} {}).isOk = false ∧ d'.backend = d.backend ∧ d'.tasks = []) ∨
    ((d.backend.checkUp (d.env H) {} {}).isOk = true ∧ d'.backend.prefs.wantRunning = true ∧
      (d'.tasks = [] ∨ ∃ pending authkey origin, d'.tasks = [.handshake pending authkey origin] ∧
        pending.generation ≤ d'.backend.generation)) := by
  dsimp only [Daemon.step] at h
  split at h
  · rename_i cause' htask
    obtain ⟨-, herase⟩ := only_task htasks htask
    cases h
    rcases beginUp_shift H d (.rebuild cause') none {} none {} io (d.tasks.eraseIdx i) with
      ⟨⟨m, hcheck⟩, heq⟩ | hup
    · left
      rw [show (d.take i).beginUp H (.rebuild cause') none {} none {} io = _ from heq, hcheck]
      exact ⟨rfl, rfl, herase⟩
    · right
      change UpShift H d (.rebuild cause') none {} {} io _
        ((d.take i).beginUp H (.rebuild cause') none {} none {} io) at hup
      generalize (d.take i).beginUp H (.rebuild cause') none {} none {} io = d' at hup ⊢
      cases hup with
      | keyKept hforce => cases hforce
      | failed hcheck hfail hb =>
        obtain ⟨disk, ticks, key, -, rfl⟩ := hb
        rw [hcheck]
        refine ⟨rfl, ?_, .inl herase⟩
        show (d.backend.upResult _ _ _ _).prefs.wantRunning = true
        rw [Backend.upResult, Backend.applyUp_eq, policy_wantRunning]
        rfl
      | begun hcheck hconfig hkey hb =>
        obtain ⟨disk, ticks, key, -, rfl⟩ := hb
        rw [hcheck, herase]
        refine ⟨rfl, ?_, .inr ⟨_, _, _, rfl, ?_⟩⟩
        · show (d.backend.upResult _ _ _ _).prefs.wantRunning = true
          rw [Backend.upResult, Backend.applyUp_eq, policy_wantRunning]
          rfl
        · show d.backend.generation + 1 ≤ (d.backend.upResult _ _ _ _).generation + 1
          rw [Backend.upResult_generation]
  · cases h

theorem finish_only {H : Host} {d d' : Daemon} {pending : PendingUp} {authkey : Option String}
    {origin : Origin} {i : Nat} {built : Option DeviceState} {io : Io}
    (htasks : d.tasks = [.handshake pending authkey origin])
    (h : Daemon.step H d (.finish i built io) = some d') :
    d'.tasks = [] ∧ d'.backend.prefs.wantRunning = d.backend.prefs.wantRunning ∧
      (pending.generation ≠ d.backend.generation → DiskOnly d.backend d'.backend) := by
  dsimp only [Daemon.step] at h
  split at h
  · rename_i pending' authkey' origin' htask
    obtain ⟨hpending, herase⟩ := only_task htasks htask
    cases hpending
    cases h
    have hcases (result : Except Failure Device) :=
      Backend.finishSection_cases (d.env H) d.backend pending result io
    cases built with
    | none =>
      rcases hcases (.error (.io "engine start failed")) with ⟨hgen, -, hb⟩ | ⟨hgen, e, -, hres⟩ |
        ⟨-, dev, hdev, -⟩
      · exact ⟨herase, congrArg Prefs.wantRunning hb.prefs, fun _ => hb⟩
      · refine ⟨herase, ?_, fun hne => absurd hgen hne⟩
        exact congrArg Prefs.wantRunning (congrArg (fun out => out.2.prefs) hres)
      · cases hdev
    | some state =>
      dsimp only [Daemon.finish, Daemon.take]
      rw [show Daemon.env H { d with tasks := d.tasks.eraseIdx i, nextDevice := d.nextDevice + 1 }
        = d.env H from rfl]
      have hsection := hcases (.ok ⟨d.nextDevice, pending.config, state⟩)
      generalize d.backend.finishSection (d.env H) pending
        (.ok ⟨d.nextDevice, pending.config, state⟩) io = out at hsection ⊢
      obtain ⟨result, b1⟩ := out
      rcases hsection with ⟨-, hres, hb⟩ | ⟨-, e, hdev, -⟩ | ⟨hgen, dev, hdev, hres, hb⟩
      · cases hres
        exact ⟨herase, congrArg Prefs.wantRunning hb.prefs, fun _ => hb⟩
      · cases hdev
      · cases hdev
        cases hres
        have hprefs : b1.prefs = { d.backend.prefs with hasLoggedIn := true } := hb.prefs
        refine ⟨herase, ?_, fun hne => absurd hgen hne⟩
        show b1.prefs.wantRunning = d.backend.prefs.wantRunning
        rw [hprefs]
  · cases h

/-- A successful disconnect stops the node under a fresh generation and owes nothing. -/
theorem disconnect_only {H : Host} {d d' : Daemon} {e : Event} (he : e.disconnects = true)
    (hgood : OneRebuild H d e) (h : Daemon.step H d e = some d') :
    StoppedBy e d' ∧ d'.tasks = d.tasks ∧
      d'.backend.generation = d.backend.generation + 1 := by
  cases e with
  | down reason io =>
    cases h
    rcases Backend.down_cases (d.env H) d.backend (.operator reason) io with ⟨m, -, hres⟩ |
      ⟨-, hb, -⟩
    · have hok : (d.backend.down (d.env H) (.operator reason) io).1 = .ok () := hgood
      rw [hres] at hok
      cases hok
    · obtain ⟨disk, ticks, key, -, heq⟩ := hb
      have hback : (d.down H (.operator reason) io).backend = _ := heq
      unfold StoppedBy
      rw [hback, Backend.downResult_eq]
      exact ⟨⟨rfl, rfl, nofun⟩, rfl, rfl⟩
  | logout reason io =>
    cases h
    have hok : (d.backend.logout (d.env H) (.operator reason) io).1 = .ok () := hgood
    rcases Backend.logout_cases (d.env H) d.backend (.operator reason) io with ⟨m, -, hres⟩ |
      ⟨-, -, m, hres⟩ | ⟨-, hb, -⟩
    · rw [hres] at hok
      cases hok
    · rw [hres] at hok
      cases hok
    · obtain ⟨disk, ticks, key, -, heq⟩ := hb
      have hback : (d.logout H (.operator reason) io).backend = _ := heq
      unfold StoppedBy
      rw [hback, Backend.logoutResult_eq]
      exact ⟨⟨rfl, rfl, fun _ => rfl⟩, rfl, rfl⟩
  | _ => cases he

/-! ## The phases along a run -/

/-- With one task owed, only its own section or a disconnect can run. -/
theorem enabled_only {H : Host} {d d' : Daemon} {e : Event} (hphase : Phase d)
    (hgood : OneRebuild H d e) (he : e.disconnects = false) (h : Daemon.step H d e = some d') :
    (∃ cause i io, d.tasks = [.preflight cause] ∧ e = .preflight i io) ∨
    (∃ cause i io, d.tasks = [.rebuild cause] ∧ e = .rebuild i io) ∨
    (∃ pending authkey origin i built io, d.tasks = [.handshake pending authkey origin] ∧
      pending.generation ≤ d.backend.generation ∧ e = .finish i built io) := by
  cases e with
  | preflight i io =>
    left
    dsimp only [Daemon.step] at h
    split at h
    · rename_i cause htask
      cases hphase with
      | preflight htasks => exact ⟨_, i, io, htasks, rfl⟩
      | rebuild htasks => cases (only_task htasks htask).1
      | handshake htasks hgen => cases (only_task htasks htask).1
      | done htasks =>
        rw [htasks] at htask
        cases htask
    · cases h
  | rebuild i io =>
    right; left
    dsimp only [Daemon.step] at h
    split at h
    · rename_i cause htask
      cases hphase with
      | preflight htasks => cases (only_task htasks htask).1
      | rebuild htasks => exact ⟨_, i, io, htasks, rfl⟩
      | handshake htasks hgen => cases (only_task htasks htask).1
      | done htasks =>
        rw [htasks] at htask
        cases htask
    · cases h
  | finish i built io =>
    right; right
    dsimp only [Daemon.step] at h
    split at h
    · rename_i pending authkey origin htask
      cases hphase with
      | preflight htasks => cases (only_task htasks htask).1
      | rebuild htasks => cases (only_task htasks htask).1
      | handshake htasks hgen => exact ⟨_, _, _, i, built, io, htasks, hgen, rfl⟩
      | done htasks =>
        rw [htasks] at htask
        cases htask
    · cases h
  | down reason io => cases he
  | logout reason io => cases he
  | _ => exact hgood.elim

theorem phase_step {H : Host} {d d' : Daemon} {e : Event} (hphase : Phase d)
    (hgood : OneRebuild H d e) (h : Daemon.step H d e = some d') : Phase d' := by
  cases he : e.disconnects with
  | true =>
    obtain ⟨-, htasks', hgen'⟩ := disconnect_only he hgood h
    cases hphase with
    | preflight htasks => exact .preflight (htasks'.trans htasks)
    | rebuild htasks => exact .rebuild (htasks'.trans htasks)
    | handshake htasks hgen => exact .handshake (htasks'.trans htasks) (by omega)
    | done htasks => exact .done (htasks'.trans htasks)
  | false =>
    rcases enabled_only hphase hgood he h with ⟨cause, i, io, htasks, rfl⟩ |
      ⟨cause, i, io, htasks, rfl⟩ | ⟨pending, authkey, origin, i, built, io, htasks, -, rfl⟩
    · obtain ⟨-, -, htasks'⟩ := preflight_only htasks h
      split at htasks'
      · exact .rebuild htasks'
      · exact .done htasks'
    · rcases rebuild_only htasks h with ⟨-, -, htasks'⟩ | ⟨-, -, htasks' | ⟨p, k, o, htasks', hgen⟩⟩
      · exact .done htasks'
      · exact .done htasks'
      · exact .handshake htasks' hgen
    · exact .done (finish_only htasks h).1

/-- A run with nothing owed and no disconnect is over. -/
theorem run_done {H : Host} {d d' : Daemon} {es : List Event} (htasks : d.tasks = [])
    (hlast : ∀ e ∈ es, e.disconnects = false) (hrun : Run (Daemon.step H) (OneRebuild H) d es d') :
    d' = d ∧ es = [] := by
  cases hrun with
  | nil => exact ⟨rfl, rfl⟩
  | cons hgood hstep hrest =>
    rcases enabled_only (.done htasks) hgood (hlast _ List.mem_cons_self) hstep with
      ⟨_, _, _, h, -⟩ | ⟨_, _, _, h, -⟩ | ⟨_, _, _, _, _, _, h, -⟩
    all_goals
      rw [htasks] at h
      cases h

/-- A handshake that settles keeps the intent, and is nothing if it is stale. -/
theorem run_handshake {H : Host} {d d' : Daemon} {es : List Event} {pending : PendingUp}
    {authkey : Option String} {origin : Origin}
    (htasks : d.tasks = [.handshake pending authkey origin])
    (hgen : pending.generation ≤ d.backend.generation)
    (hlast : ∀ e ∈ es, e.disconnects = false) (hrun : Run (Daemon.step H) (OneRebuild H) d es d')
    (hdone : d'.tasks = []) :
    d'.backend.prefs.wantRunning = d.backend.prefs.wantRunning ∧
      (pending.generation ≠ d.backend.generation → DiskOnly d.backend d'.backend) := by
  cases hrun with
  | nil =>
    rw [htasks] at hdone
    cases hdone
  | cons hgood hstep hrest =>
    rcases enabled_only (.handshake htasks hgen) hgood (hlast _ List.mem_cons_self) hstep with
      ⟨_, _, _, h, -⟩ | ⟨_, _, _, h, -⟩ | ⟨_, _, _, i, built, io, h, -, rfl⟩
    · rw [htasks] at h
      cases h
    · rw [htasks] at h
      cases h
    · obtain ⟨htasks', hkeep⟩ := finish_only htasks hstep
      obtain ⟨rfl, -⟩ := run_done htasks' (fun e he => hlast e (List.mem_cons_of_mem _ he)) hrest
      exact hkeep

/-- What is left of a rebuild runs on to the end: it writes the intent back exactly when the checks
    of `begin_up` accept the stored prefs. -/
theorem run_rebuild {H : Host} {d d' : Daemon} {es : List Event} {cause : Cause}
    (htasks : d.tasks = [.rebuild cause]) (hlast : ∀ e ∈ es, e.disconnects = false)
    (hrun : Run (Daemon.step H) (OneRebuild H) d es d') (hdone : d'.tasks = []) :
    if (d.backend.checkUp (d.env H) {} {}).isOk then d'.backend.prefs.wantRunning = true
    else d'.backend = d.backend := by
  cases hrun with
  | nil =>
    rw [htasks] at hdone
    cases hdone
  | cons hgood hstep hrest =>
    have hlast' : ∀ e ∈ (_ : List Event), e.disconnects = false :=
      fun e he => hlast e (List.mem_cons_of_mem _ he)
    rcases enabled_only (.rebuild htasks) hgood (hlast _ List.mem_cons_self) hstep with
      ⟨_, _, _, h, -⟩ | ⟨_, i, io, h, rfl⟩ | ⟨_, _, _, _, _, _, h, -⟩
    · rw [htasks] at h
      cases h
    · rcases rebuild_only htasks hstep with ⟨hcheck, hback, htasks'⟩ |
        ⟨hcheck, hwant, htasks' | ⟨p, k, o, htasks', hgen⟩⟩
      · obtain ⟨rfl, -⟩ := run_done htasks' hlast' hrest
        rw [hcheck]
        exact hback
      · obtain ⟨rfl, -⟩ := run_done htasks' hlast' hrest
        rw [hcheck]
        exact hwant
      · obtain ⟨hkeep, -⟩ := run_handshake htasks' hgen hlast' hrest hdone
        rw [hcheck]
        exact hkeep.trans hwant
    · rw [htasks] at h
      cases h

/-! ## When the disconnect wins -/

theorem StoppedBy.diskOnly {e : Event} {d d' : Daemon} (h : StoppedBy e d)
    (hb : DiskOnly d.backend d'.backend) : StoppedBy e d' := by
  unfold StoppedBy
  rw [hb.device, hb.prefs]
  exact h

/-- Disk traffic that wrote no key file leaves the checks of `begin_up` as they were. -/
theorem checkUp_diskOnly {b b' : Backend} (hb : DiskOnly b b') (E : Env) :
    b'.checkUp E {} {} = b.checkUp E {} {} := by
  obtain ⟨disk, ticks, key, -, rfl⟩ := hb
  rfl

/-- **Exactly when a disconnect wins over a rebuild.**  Among the sections of one rebuild and
    successful disconnects, the last disconnect has the last word unless the rebuild's `begin_up`
    was still to come, its preflight passed, and its checks accepted the stored prefs. -/
theorem disconnect_wins_iff {H : Host} {d₀ d₁ d₂ d : Daemon} {cause : Cause}
    {before after : List Event} {e : Event} (howed : d₀.tasks = [.preflight cause])
    (hbefore : Run (Daemon.step H) (OneRebuild H) d₀ before d₁)
    (he : e.disconnects = true) (hgood : OneRebuild H d₁ e) (hstep : Daemon.step H d₁ e = some d₂)
    (hafter : Run (Daemon.step H) (OneRebuild H) d₂ after d)
    (hlast : ∀ x ∈ after, x.disconnects = false) (hdone : d.tasks = []) :
    StoppedBy e d ↔ ¬ RebuildGoesOn H d₂ after := by
  have hphase : Phase d₁ :=
    hbefore.invariant (fun _ _ _ hp hg hs => phase_step hp hg hs) (.preflight howed)
  obtain ⟨hstopped, htasks₂, hgen₂⟩ := disconnect_only he hgood hstep
  have resurrected (hwant : d.backend.prefs.wantRunning = true) : ¬ StoppedBy e d := by
    rintro ⟨-, hoff, -⟩
    rw [hwant] at hoff
    cases hoff
  cases hphase with
  | done htasks =>
    obtain ⟨rfl, -⟩ := run_done (htasks₂.trans htasks) hlast hafter
    refine iff_of_true hstopped ?_
    rintro ⟨-, ⟨c, h⟩ | ⟨c, i, io, later, h, -⟩⟩ <;>
    · rw [hdone] at h
      cases h
  | handshake htasks hgen =>
    have htasks₂ := htasks₂.trans htasks
    obtain ⟨-, hstale⟩ := run_handshake htasks₂ (by omega) hlast hafter hdone
    refine iff_of_true (hstopped.diskOnly (hstale (by omega))) ?_
    rintro ⟨-, ⟨c, h⟩ | ⟨c, i, io, later, h, -⟩⟩ <;>
    · rw [htasks₂] at h
      cases h
  | rebuild htasks =>
    have htasks₂ := htasks₂.trans htasks
    have hend := run_rebuild htasks₂ hlast hafter hdone
    cases hcheck : (d₂.backend.checkUp (d₂.env H) {} {}).isOk with
    | true =>
      rw [hcheck] at hend
      exact iff_of_false (resurrected hend) fun h => h ⟨hcheck, .inl ⟨_, htasks₂⟩⟩
    | false =>
      rw [hcheck] at hend
      refine iff_of_true (hstopped.diskOnly ?_) ?_
      · rw [show d.backend = d₂.backend from hend]
        exact .refl _
      · rintro ⟨hok, -⟩
        rw [hcheck] at hok
        cases hok
  | preflight htasks =>
    have htasks₂ := htasks₂.trans htasks
    cases hafter with
    | nil =>
      rw [htasks₂] at hdone
      cases hdone
    | cons hg hs hrest =>
      have hlast' : ∀ x ∈ (_ : List Event), x.disconnects = false :=
        fun x hx => hlast x (List.mem_cons_of_mem _ hx)
      rcases enabled_only (.preflight htasks₂) hg (hlast _ List.mem_cons_self) hs with
        ⟨_, i, io, -, rfl⟩ | ⟨_, _, _, h, -⟩ | ⟨_, _, _, _, _, _, h, -⟩
      · obtain ⟨hdisk, hpolicy, htasks₃⟩ := preflight_only htasks₂ hs
        have hpass := Backend.buildConfig_isOk (d₂.env H) d₂.backend io
        split at htasks₃
        · -- the preflight passed: what the rebuild does is decided by its checks
          rename_i hok
          have hend := run_rebuild htasks₃ hlast' hrest hdone
          rw [checkUp_diskOnly hdisk, show Daemon.env H _ = d₂.env H by
            unfold Daemon.env
            rw [hpolicy]] at hend
          cases hcheck : (d₂.backend.checkUp (d₂.env H) {} {}).isOk with
          | true =>
            rw [hcheck] at hend
            obtain ⟨hio, hfile, hchecks⟩ := hpass.mp hok
            exact iff_of_false (resurrected hend) fun h =>
              h ⟨hcheck, .inr ⟨_, i, io, _, htasks₂, rfl, hio, hfile, hchecks⟩⟩
          | false =>
            rw [hcheck] at hend
            refine iff_of_true ((hstopped.diskOnly hdisk).diskOnly ?_) ?_
            · rw [show d.backend = _ from hend]
              exact .refl _
            · rintro ⟨hok, -⟩
              rw [hcheck] at hok
              cases hok
        · -- the preflight failed: nothing follows it
          rename_i hfail
          obtain ⟨rfl, -⟩ := run_done htasks₃ hlast' hrest
          refine iff_of_true (hstopped.diskOnly hdisk) ?_
          rintro ⟨-, ⟨c, h⟩ | ⟨c, i', io', later, -, heq, hio, hfile, hchecks⟩⟩
          · rw [htasks₂] at h
            cases h
          · cases heq
            exact hfail (hpass.mpr ⟨hio, hfile, hchecks⟩)
      · rw [htasks₂] at h
        cases h
      · rw [htasks₂] at h
        cases h

/-- A running node whose operator turns shields-up on: a rebuild is owed. -/
def shieldsUpSet : List Event :=
  [.up {} none none {} {}, .finish 0 (some .running) {}, .set { shieldsUp := some true } {} {}]

/-- A disconnect in the rebuild's handshake wins. -/
theorem disconnect_wins_iff_handshake :
    ∃ d₂ d : Daemon, StoppedBy (.down none {}) d ↔
      ¬ RebuildGoesOn plainHost d₂ [.finish 0 (some .running) {}] := by
  obtain ⟨d₀, d₁, d₂, d, -, howed, hbefore, hgood, hstep, hafter, hdone⟩ :
      ∃ d₀ d₁ d₂ d, Daemon.replay plainHost [] firstBoot shieldsUpSet = some d₀ ∧
        d₀.tasks = [.preflight .set] ∧
        follow (Daemon.step plainHost) d₀ [.preflight 0 {}, .rebuild 0 {}] = some d₁ ∧
        OneRebuild plainHost d₁ (.down none {}) ∧
        Daemon.step plainHost d₁ (.down none {}) = some d₂ ∧
        follow (Daemon.step plainHost) d₂ [.finish 0 (some .running) {}] = some d ∧
        d.tasks = [] := ⟨_, _, _, _, rfl, rfl, rfl, rfl, rfl, rfl, rfl⟩
  refine ⟨d₂, d, disconnect_wins_iff howed (run_of_follow ?_ hbefore) rfl hgood hstep
    (run_of_follow ?_ hafter) (by simp [Event.disconnects]) hdone⟩
  · simp [OneRebuild]
  · simp [OneRebuild]

/-- **A disconnect before the rebuild's `begin_up` loses**: the node the operator stopped runs
    again. -/
theorem disconnect_before_rebuild_loses :
    ¬ ∀ (d₀ d : Daemon) (es : List Event), Daemon.Reachable plainHost (fun _ _ => True) d₀ →
      d₀.tasks = [.preflight .set] → Run (Daemon.step plainHost) (OneRebuild plainHost) d₀ es d →
      (∃ e ∈ es, e.disconnects = true) → d.tasks = [] →
      d.backend.device = none ∧ d.backend.prefs.wantRunning = false := by
  intro hclaim
  obtain ⟨d₀, d₁, d, hreach, howed, hgood, hstep, hafter, hdone, hon⟩ :
      ∃ d₀ d₁ d, Daemon.replay plainHost [] firstBoot shieldsUpSet = some d₀ ∧
        d₀.tasks = [.preflight .set] ∧ OneRebuild plainHost d₀ (.down none {}) ∧
        Daemon.step plainHost d₀ (.down none {}) = some d₁ ∧
        follow (Daemon.step plainHost) d₁
          [.preflight 0 {}, .rebuild 0 {}, .finish 0 (some .running) {}] = some d ∧
        d.tasks = [] ∧ d.backend.prefs.wantRunning = true :=
    ⟨_, _, _, rfl, rfl, rfl, rfl, rfl, rfl, rfl⟩
  have hrun : Run (Daemon.step plainHost) (OneRebuild plainHost) d₁
      [.preflight 0 {}, .rebuild 0 {}, .finish 0 (some .running) {}] d := by
    refine run_of_follow ?_ hafter
    simp [OneRebuild]
  have hstopped := hclaim d₀ d _ (Daemon.reachable_replay (fun _ _ _ => trivial) hreach) howed
    (.cons hgood hstep hrun) ⟨_, List.mem_cons_self, rfl⟩ hdone
  rw [hon] at hstopped
  cases hstopped.2

end Tailnetd
