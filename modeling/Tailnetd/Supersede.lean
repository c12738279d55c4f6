/-
  Supersede safety: the lifecycle generation is an epoch, and the engine is its holder.

  A bring-up captures the generation in `begin_up`, builds its engine without the lock, and comes
  back in `finish_up`.  `slotOf` reads a daemon as a slot guarded by an epoch: the generation is the
  epoch, the installed engine the holder, and the bring-ups in flight hold the tickets.  `slot_step`
  shows that every event is one move of that slot, or none; the safety of the three-phase bring-up
  is then the soundness of the slot.
-/
import Tailnetd.Boot
import Tailnetd.Lib.Epoch

namespace Tailnetd

open Machine Epoch

/-! ## Reading the log -/

/-- What an entry of the log is to the slot. -/
def Did.mark? : Did → Option (Mark Nat)
  | .began _ g _ => some (.issued g)
  | .installed g id => some (.installed g id)
  | .handedBack g id => some (.returned g id)
  | .down => some .revoked
  | .logout => some .revoked
  | .tornDown => some .revoked
  | .profileChanged _ => some .revoked
  | .buildFailed _ => none
  | .exitNodeOverride _ => none

/-- The generation this entry captured. -/
def Did.captured? : Did → Option Nat
  | .began _ g _ => some g
  | _ => none

/-- The engine this entry installed or handed back. -/
def Did.engine? : Did → Option Nat
  | .installed _ id => some id
  | .handedBack _ id => some id
  | _ => none

/-- Whether this entry makes the bring-ups begun before it stale: a down, a logout, a profile
    change or reset, another begin or an install. -/
def Did.supersedes : Did → Bool
  | .handedBack _ _ => false
  | .buildFailed _ => false
  | .exitNodeOverride _ => false
  | _ => true

/-- The slot a daemon is. -/
def slotOf (d : Daemon) : Slot Nat where
  epoch := d.backend.generation
  holder := d.backend.device.map (·.id)
  tickets := (handshakes d.tasks).map (·.generation)
  history := d.log.filterMap Did.mark?

theorem issue?_mark? (x : Did) : x.mark?.bind Mark.issue? = x.captured? := by
  cases x <;> rfl

theorem slotOf_issued (d : Daemon) : (slotOf d).issued = d.log.filterMap Did.captured? := by
  unfold slotOf Slot.issued
  rw [List.filterMap_filterMap]
  exact congrArg (List.filterMap · d.log) (funext issue?_mark?)

/-- A granted exit-node override is nothing to the slot. -/
theorem grantOf_mark? (v : Option (Option String)) (edit : ExitNodeEdit) :
    (Daemon.grantOf v edit).filterMap Did.mark? = [] := by
  unfold Daemon.grantOf
  split <;> rfl

/-- A granted exit-node override is no engine. -/
theorem grantOf_engine? (v : Option (Option String)) (edit : ExitNodeEdit) :
    (Daemon.grantOf v edit).filterMap Did.engine? = [] := by
  unfold Daemon.grantOf
  split <;> rfl

/-! ## The refinement -/

/-- What the slot reads is unchanged. -/
theorem slotOf_same {d d' : Daemon} (hgen : d'.backend.generation = d.backend.generation)
    (hdev : d'.backend.device.map (·.id) = d.backend.device.map (·.id))
    (hh : handshakes d'.tasks = handshakes d.tasks)
    (hlog : d'.log.filterMap Did.mark? = d.log.filterMap Did.mark?) : slotOf d' = slotOf d := by
  unfold slotOf
  rw [hgen, hdev, hh, hlog]

/-- A torn-down engine with a fresh generation, and a mark of it, is a revocation. -/
theorem slotOf_revoked {d d' : Daemon} {x : Did}
    (hgen : d'.backend.generation = d.backend.generation + 1) (hdev : d'.backend.device = none)
    (hh : handshakes d'.tasks = handshakes d.tasks) (hlog : d'.log = x :: d.log)
    (hx : x.mark? = some .revoked) : (slotOf d).step .revoke = some (slotOf d') := by
  unfold slotOf Slot.step
  rw [hgen, hdev, hh, hlog, List.filterMap_cons, hx]
  rfl

/-- The bring-ups in flight, one of them picked up. -/
theorem tickets_take {pre post : List PendingUp} {pending : PendingUp} {ts us : List Task}
    (hpre : handshakes ts = pre ++ pending :: post) (hh : handshakes us = pre ++ post) :
    ((handshakes ts).map (·.generation))[pre.length]? = some pending.generation ∧
      (handshakes us).map (·.generation) =
        ((handshakes ts).map (·.generation)).eraseIdx pre.length := by
  rw [hpre, hh]
  constructor
  · simp
  · rw [List.map_append, List.map_append, List.map_cons,
      List.eraseIdx_append_of_length_le (by simp)]
    simp

/-- A `begin_up` section is a clearing or an issue. -/
theorem slot_upShift {H : Host} {d d' : Daemon} {origin : Origin} {authkey : Option String}
    {o : UpOptions} {netmap : ExitNodeFacts} {io : Io} {ts : List Task}
    (hh : handshakes ts = handshakes d.tasks)
    (hup : UpShift H d origin authkey o netmap io ts d') :
    ∃ m, (slotOf d).step m = some (slotOf d') := by
  cases hup with
  | keyKept hforce hremove =>
    refine ⟨.clear, ?_⟩
    unfold slotOf Slot.step
    rw [hh]
    rfl
  | failed hcheck hfail hb =>
    obtain ⟨disk, ticks, key, -, rfl⟩ := hb
    refine ⟨.clear, ?_⟩
    unfold slotOf Slot.step
    rw [hh, List.filterMap_append, grantOf_mark?, Backend.upResult, Backend.applyUp_eq]
    rfl
  | begun hcheck hconfig hkey hb =>
    obtain ⟨disk, ticks, key, -, rfl⟩ := hb
    refine ⟨.issue, ?_⟩
    unfold slotOf Slot.step
    rw [handshakes_append, hh, List.filterMap_cons, List.filterMap_append, grantOf_mark?,
      Backend.upResult, Backend.applyUp_eq, List.map_append]
    rfl

/-- An event leaves the slot alone, makes a move that issues no ticket, or is a `begin_up`. -/
theorem slot_shift {H : Host} {d d' : Daemon} {e : Event} (h : Daemon.step H d e = some d') :
    slotOf d' = slotOf d ∨
    (∃ m, m ≠ .issue ∧ (slotOf d).step m = some (slotOf d')) ∨
    ∃ origin authkey o netmap io ts, Starts H d e origin authkey o netmap io ∧
      handshakes ts = handshakes d.tasks ∧ UpShift H d origin authkey o netmap io ts d' := by
  cases step_shift h with
  | kept he hb hts hh hr =>
    obtain ⟨disk, ticks, key, -, rfl⟩ := hb
    exact .inl (slotOf_same rfl rfl hh rfl)
  | preflightFailed hfail hb hts hh =>
    obtain ⟨disk, ticks, key, -, rfl⟩ := hb
    exact .inl (slotOf_same rfl rfl hh rfl)
  | preflightPassed hcause hb hts hh =>
    obtain ⟨disk, ticks, key, -, rfl⟩ := hb
    refine .inl (slotOf_same rfl rfl ?_ rfl)
    rw [handshakes_append, hh]
    exact List.append_nil _
  | rebuildRefused hcheck hts hh => exact .inl (slotOf_same rfl rfl hh rfl)
  | started hstart hts hh hup => exact .inr (.inr ⟨_, _, _, _, _, _, hstart, hh, hup⟩)
  | @installed i state io pending b' ts pre post hgen hb hts hr hpre hh =>
    obtain ⟨disk, ticks, key, -, rfl⟩ := hb
    obtain ⟨hget, herase⟩ := tickets_take hpre hh
    refine .inr (.inl ⟨.settle pre.length d.nextDevice, by simp, ?_⟩)
    unfold slotOf Slot.step
    dsimp only
    rw [hget, herase, List.filterMap_cons]
    dsimp only
    rw [if_pos hgen]
    rfl
  | @handedBack i state io pending b' ts pre post hgen hb hts hr hpre hh =>
    obtain ⟨disk, ticks, key, -, rfl⟩ := hb
    obtain ⟨hget, herase⟩ := tickets_take hpre hh
    refine .inr (.inl ⟨.settle pre.length d.nextDevice, by simp, ?_⟩)
    unfold slotOf Slot.step
    dsimp only
    rw [hget, herase, List.filterMap_cons]
    dsimp only
    rw [if_neg hgen]
    rfl
  | @buildFailed i io pending b' ts pre post hb hts hr hpre hh =>
    obtain ⟨disk, ticks, key, -, rfl⟩ := hb
    obtain ⟨hget, herase⟩ := tickets_take hpre hh
    refine .inr (.inl ⟨.expire pre.length, by simp, ?_⟩)
    unfold slotOf Slot.step
    dsimp only
    rw [hget, herase, List.filterMap_cons]
    rfl
  | setFailed hcheck hfail hb =>
    obtain ⟨disk, ticks, key, -, rfl⟩ := hb
    refine .inl (slotOf_same ?_ ?_ rfl ?_)
    · rw [Backend.setResult, Backend.applySet_eq]
    · rw [Backend.setResult, Backend.applySet_eq]
    · rw [List.filterMap_append, grantOf_mark?, List.nil_append]
  | setPersisted hcheck hdev hb =>
    obtain ⟨disk, ticks, key, -, rfl⟩ := hb
    refine .inl (slotOf_same ?_ ?_ rfl ?_)
    · rw [Backend.setResult, Backend.applySet_eq]
    · rw [Backend.setResult, Backend.applySet_eq]
    · rw [List.filterMap_append, grantOf_mark?, List.nil_append]
  | setRebuild hcheck hdev hneeds hb =>
    obtain ⟨disk, ticks, key, -, rfl⟩ := hb
    refine .inl (slotOf_same ?_ ?_ ?_ ?_)
    · rw [Backend.setResult, Backend.applySet_eq]
    · rw [Backend.setResult, Backend.applySet_eq]
    · rw [handshakes_append]
      exact List.append_nil _
    · rw [List.filterMap_append, grantOf_mark?, List.nil_append]
  | setLive hcheck hdev hneeds hb =>
    obtain ⟨disk, ticks, key, -, rfl⟩ := hb
    refine .inl (slotOf_same ?_ ?_ rfl ?_)
    · rw [Backend.setResult, Backend.applySet_eq]
    · rw [hdev]
      rfl
    · rw [List.filterMap_append, grantOf_mark?, List.nil_append]
  | reloadKeyFailed hsource hdoc hvalid hkey => exact .inl rfl
  | reloadFailed hsource hdoc hvalid hfail hb =>
    obtain ⟨disk, ticks, key, -, rfl⟩ := hb
    exact .inl rfl
  | @reloadApplied document contents io c path b' owed hsource hdoc hvalid howed hb =>
    obtain ⟨disk, ticks, key, -, rfl⟩ := hb
    refine .inl (slotOf_same rfl rfl ?_ rfl)
    rw [handshakes_append, howed, handshakes_reloadOwes]
    exact List.append_nil _
  | down he hmark hb hts hh =>
    obtain ⟨disk, ticks, key, -, rfl⟩ := hb
    refine .inr (.inl ⟨.revoke, by simp, slotOf_revoked ?_ ?_ hh rfl ?_⟩)
    · rw [Backend.downResult_eq]
    · rw [Backend.downResult_eq]
    · rcases hmark with rfl | rfl <;> rfl
  | logout hmark hb =>
    obtain ⟨disk, ticks, key, -, rfl⟩ := hb
    refine .inr (.inl ⟨.revoke, by simp, slotOf_revoked ?_ ?_ rfl rfl ?_⟩)
    · rw [Backend.logoutResult_eq]
    · rw [Backend.logoutResult_eq]
    · rcases hmark with rfl | rfl <;> rfl
  | tornDown he hb =>
    obtain ⟨disk, ticks, key, -, rfl⟩ := hb
    exact .inr (.inl ⟨.revoke, by simp, slotOf_revoked rfl rfl rfl rfl rfl⟩)
  | profileActivated he hne hb =>
    obtain ⟨disk, ticks, key, -, rfl⟩ := hb
    exact .inr (.inl ⟨.revoke, by simp, slotOf_revoked rfl rfl rfl rfl rfl⟩)
  | profileEmptied he hb =>
    obtain ⟨disk, ticks, key, -, rfl⟩ := hb
    exact .inr (.inl ⟨.revoke, by simp, slotOf_revoked rfl rfl rfl rfl rfl⟩)
  | policyMoved => exact .inl rfl
  | policyTick =>
    refine .inl (slotOf_same ?_ ?_ rfl rfl)
    · rw [Backend.exitNodePolicyChanged_eq, Backend.sysPolicyChanged_eq]
    · rw [Backend.exitNodePolicyChanged_eq, Backend.sysPolicyChanged_eq]
  | timerDropped => exact .inl rfl
  | timerClaimed harmed hprofile =>
    refine .inl (slotOf_same rfl rfl ?_ rfl)
    rw [handshakes_append]
    exact List.append_nil _
  | retried hretry =>
    refine .inl (slotOf_same rfl rfl ?_ rfl)
    rw [handshakes_append]
    exact List.append_nil _
  | resumeKeyed htask hkey hts hh hr =>
    refine .inl (slotOf_same rfl rfl ?_ rfl)
    rw [handshakes_append, hh]
    exact List.append_nil _
  | engine =>
    refine .inl (slotOf_same rfl ?_ rfl rfl)
    cases d.backend.device <;> rfl

/-- **Every event of the daemon is one move of the slot, or none.** -/
theorem slot_step {H : Host} {d d' : Daemon} {e : Event} (h : Daemon.step H d e = some d') :
    slotOf d' = slotOf d ∨ ∃ m, (slotOf d).step m = some (slotOf d') := by
  rcases slot_shift h with hsame | ⟨m, -, hm⟩ | ⟨origin, authkey, o, netmap, io, ts, -, hh, hup⟩
  · exact .inl hsame
  · exact .inr ⟨m, hm⟩
  · exact .inr (slot_upShift hh hup)

/-- **Only a `begin_up` makes a daemon live**: any other event finds the engine, or the bring-up of
    the current generation, already there. -/
theorem live_shift {H : Host} {d d' : Daemon} {e : Event} (hsound : Sound (slotOf d))
    (h : Daemon.step H d e = some d') (hlive : (slotOf d').Live) :
    (slotOf d).Live ∨
    ∃ origin authkey o netmap io ts, Starts H d e origin authkey o netmap io ∧
      handshakes ts = handshakes d.tasks ∧ UpShift H d origin authkey o netmap io ts d' := by
  rcases slot_shift h with hsame | ⟨m, hm, hmove⟩ | hup
  · exact .inl (hsame ▸ hlive)
  · exact .inl (hsound.live_of_step hmove hm hlive)
  · exact .inr hup

/-- An engine torn down under a fresh generation leaves a daemon that is not live. -/
theorem not_live_of_torn {d d' : Daemon} (hsound : Sound (slotOf d))
    (hgen : d'.backend.generation = d.backend.generation + 1) (hdev : d'.backend.device = none)
    (hh : handshakes d'.tasks = handshakes d.tasks) : ¬ (slotOf d').Live := by
  rintro (hholder | hticket)
  · unfold slotOf at hholder
    rw [hdev] at hholder
    cases hholder
  · unfold slotOf at hticket
    rw [hgen, hh] at hticket
    exact hsound.fresh hticket

theorem sound_step {H : Host} {d d' : Daemon} {e : Event} (hsound : Sound (slotOf d))
    (h : Daemon.step H d e = some d') : Sound (slotOf d') := by
  rcases slot_step h with hsame | ⟨m, hm⟩
  · rw [hsame]
    exact hsound
  · exact hsound.step hm

theorem sound_upShift {H : Host} {d d' : Daemon} {origin : Origin} {authkey : Option String}
    {o : UpOptions} {netmap : ExitNodeFacts} {io : Io} {ts : List Task}
    (hh : handshakes ts = handshakes d.tasks) (hsound : Sound (slotOf d))
    (hup : UpShift H d origin authkey o netmap io ts d') : Sound (slotOf d') := by
  obtain ⟨m, hm⟩ := slot_upShift hh hup
  exact hsound.step hm

/-- An idle daemon is an empty slot. -/
theorem slotOf_idle {H : Host} {d : Daemon} (h : Idle H d) :
    slotOf d = Slot.empty Nat d.backend.generation := by
  unfold slotOf
  rw [h.backend.device, h.tasks, h.log]
  rfl

theorem boot_sound {H : Host} {policy : List PolicySource} {s : Daemon.BootInput} {d : Daemon}
    (h : Daemon.boot H policy s = .ok d) : Sound (slotOf d) := by
  have hidle : ∀ d, Idle H d → Sound (slotOf d) := by
    intro d hd
    rw [slotOf_idle hd]
    exact sound_empty _
  obtain ⟨d₁, hbooted, hrest⟩ := Daemon.boot_cases h
  have h₁ : Sound (slotOf d₁) := by
    cases hbooted with
    | idle hd => exact hidle d₁ hd
    | begun hd hup => exact sound_upShift rfl (hidle _ hd) hup
  rcases hrest with rfl | hstep
  · exact h₁
  · exact sound_step h₁ hstep

/-- **The daemon refines the slot.** -/
theorem slot_simulates (H : Host) (good : Daemon → Event → Prop) :
    Simulates (Daemon.step H) good (fun _ => True) Slot.step slotOf := by
  rintro d e d' - - hstep
  exact slot_step hstep

/-- Every run of the daemon is a run of its slot. -/
theorem slot_moves {H : Host} {good : Daemon → Event → Prop} {d d' : Daemon} {es : List Event}
    (hrun : Run (Daemon.step H) good d es d') :
    ∃ ms, Run Slot.step (fun _ _ => True) (slotOf d) ms (slotOf d') :=
  (slot_simulates H good).run (fun _ _ _ _ _ _ => trivial) hrun trivial

/-- **Every reachable daemon is a sound slot.** -/
theorem slot_run {H : Host} {good : Daemon → Event → Prop} {d : Daemon}
    (h : Daemon.Reachable H good d) : Sound (slotOf d) := by
  obtain ⟨policy, s, d₀, es, hboot, hrun⟩ := h
  obtain ⟨ms, hmoves⟩ := slot_moves hrun
  exact Sound.run hmoves (boot_sound hboot)

/-- The generation never decreases along a run. -/
theorem generation_le_run {H : Host} {good : Daemon → Event → Prop} {d d' : Daemon}
    {es : List Event} (hrun : Run (Daemon.step H) good d es d') :
    d.backend.generation ≤ d'.backend.generation := by
  obtain ⟨ms, hmoves⟩ := slot_moves hrun
  exact epoch_le_run hmoves

/-! ## The engines -/

/-- How an event treats the engines. -/
inductive EngineStep (d : Daemon) (d' : Daemon) : Prop
  /-- No engine comes in: the installed one stays or goes. -/
  | same (entries : List Did) (hlog : d'.log = entries ++ d.log)
      (hentries : entries.filterMap Did.engine? = []) (hnext : d'.nextDevice = d.nextDevice)
      (hdev : d'.backend.device = none ∨
        d'.backend.device.map (·.id) = d.backend.device.map (·.id))
  | installed {g : Nat} (hcur : d.backend.generation ∈ (slotOf d).tickets)
      (hdev : d'.backend.device.map (·.id) = some d.nextDevice)
      (hlog : d'.log = .installed g d.nextDevice :: d.log)
      (hnext : d'.nextDevice = d.nextDevice + 1)
  | handedBack {g : Nat} (hdev : d'.backend.device = d.backend.device)
      (hlog : d'.log = .handedBack g d.nextDevice :: d.log)
      (hnext : d'.nextDevice = d.nextDevice + 1)

theorem engine_upShift {H : Host} {d d' : Daemon} {origin : Origin} {authkey : Option String}
    {o : UpOptions} {netmap : ExitNodeFacts} {io : Io} {ts : List Task}
    (hup : UpShift H d origin authkey o netmap io ts d') : EngineStep d d' := by
  cases hup with
  | keyKept hforce hremove => exact .same [] rfl rfl rfl (.inl rfl)
  | failed hcheck hfail hb =>
    obtain ⟨disk, ticks, key, -, rfl⟩ := hb
    refine .same _ rfl (grantOf_engine? _ _) rfl (.inl ?_)
    rw [Backend.upResult, Backend.applyUp_eq]
    rfl
  | @begun wif tags edit key config b' hcheck hconfig hkey hb =>
    obtain ⟨disk, ticks, key, -, rfl⟩ := hb
    refine .same (.began origin (d.backend.generation + 1) authkey ::
      Daemon.grantOf o.exitNode edit) rfl ?_ rfl (.inl ?_)
    · exact grantOf_engine? _ _
    · rw [Backend.upResult, Backend.applyUp_eq]
      rfl

theorem engine_step {H : Host} {d d' : Daemon} {e : Event} (h : Daemon.step H d e = some d') :
    EngineStep d d' := by
  cases step_shift h with
  | kept he hb hts hh hr =>
    obtain ⟨disk, ticks, key, -, rfl⟩ := hb
    exact .same [] rfl rfl rfl (.inr rfl)
  | preflightFailed hfail hb hts hh =>
    obtain ⟨disk, ticks, key, -, rfl⟩ := hb
    exact .same [] rfl rfl rfl (.inr rfl)
  | preflightPassed hcause hb hts hh =>
    obtain ⟨disk, ticks, key, -, rfl⟩ := hb
    exact .same [] rfl rfl rfl (.inr rfl)
  | rebuildRefused hcheck hts hh => exact .same [] rfl rfl rfl (.inr rfl)
  | started hstart hts hh hup => exact engine_upShift hup
  | @installed i state io pending b' ts pre post hgen hb hts hr hpre hh =>
    obtain ⟨disk, ticks, key, -, rfl⟩ := hb
    refine .installed ?_ rfl rfl rfl
    unfold slotOf
    rw [hpre, ← hgen]
    exact List.mem_map_of_mem (List.mem_append_right _ List.mem_cons_self)
  | handedBack hgen hb hts hr hpre hh =>
    obtain ⟨disk, ticks, key, -, rfl⟩ := hb
    exact .handedBack rfl rfl rfl
  | buildFailed hb hts hr hpre hh =>
    obtain ⟨disk, ticks, key, -, rfl⟩ := hb
    exact .same [.buildFailed _] rfl rfl rfl (.inr rfl)
  | setFailed hcheck hfail hb =>
    obtain ⟨disk, ticks, key, -, rfl⟩ := hb
    refine .same _ rfl (grantOf_engine? _ _) rfl (.inr ?_)
    rw [Backend.setResult, Backend.applySet_eq]
  | setPersisted hcheck hdev hb =>
    obtain ⟨disk, ticks, key, -, rfl⟩ := hb
    refine .same _ rfl (grantOf_engine? _ _) rfl (.inr ?_)
    rw [Backend.setResult, Backend.applySet_eq]
  | setRebuild hcheck hdev hneeds hb =>
    obtain ⟨disk, ticks, key, -, rfl⟩ := hb
    refine .same _ rfl (grantOf_engine? _ _) rfl (.inr ?_)
    rw [Backend.setResult, Backend.applySet_eq]
  | setLive hcheck hdev hneeds hb =>
    obtain ⟨disk, ticks, key, -, rfl⟩ := hb
    refine .same _ rfl (grantOf_engine? _ _) rfl (.inr ?_)
    rw [hdev]
    rfl
  | reloadKeyFailed hsource hdoc hvalid hkey => exact .same [] rfl rfl rfl (.inr rfl)
  | reloadFailed hsource hdoc hvalid hfail hb =>
    obtain ⟨disk, ticks, key, -, rfl⟩ := hb
    exact .same [] rfl rfl rfl (.inr rfl)
  | reloadApplied hsource hdoc hvalid howed hb =>
    obtain ⟨disk, ticks, key, -, rfl⟩ := hb
    exact .same [] rfl rfl rfl (.inr rfl)
  | @down e b' ts mark he hmark hb hts hh =>
    obtain ⟨disk, ticks, key, -, rfl⟩ := hb
    refine .same [mark] rfl ?_ rfl (.inl ?_)
    · rcases hmark with rfl | rfl <;> rfl
    · rw [Backend.downResult_eq]
  | @logout reason io b' mark hmark hb =>
    obtain ⟨disk, ticks, key, -, rfl⟩ := hb
    refine .same [mark] rfl ?_ rfl (.inl ?_)
    · rcases hmark with rfl | rfl <;> rfl
    · rw [Backend.logoutResult_eq]
  | tornDown he hb =>
    obtain ⟨disk, ticks, key, -, rfl⟩ := hb
    exact .same [.tornDown] rfl rfl rfl (.inl rfl)
  | profileActivated he hne hb =>
    obtain ⟨disk, ticks, key, -, rfl⟩ := hb
    exact .same [.profileChanged _] rfl rfl rfl (.inl rfl)
  | profileEmptied he hb =>
    obtain ⟨disk, ticks, key, -, rfl⟩ := hb
    exact .same [.profileChanged _] rfl rfl rfl (.inl rfl)
  | policyMoved => exact .same [] rfl rfl rfl (.inr rfl)
  | policyTick =>
    refine .same [] rfl rfl rfl (.inr ?_)
    rw [Backend.exitNodePolicyChanged_eq, Backend.sysPolicyChanged_eq]
  | timerDropped => exact .same [] rfl rfl rfl (.inr rfl)
  | timerClaimed harmed hprofile => exact .same [] rfl rfl rfl (.inr rfl)
  | retried hretry => exact .same [] rfl rfl rfl (.inr rfl)
  | resumeKeyed htask hkey hts hh hr => exact .same [] rfl rfl rfl (.inr rfl)
  | engine =>
    refine .same [] rfl rfl rfl (.inr ?_)
    cases d.backend.device <;> rfl

/-- Every engine that started was installed or handed back, once. -/
def EnginesSettled (d : Daemon) : Prop :=
  d.log.filterMap Did.engine? = (List.range d.nextDevice).reverse

theorem EngineStep.settled {d d' : Daemon} (h : EngineStep d d') (hd : EnginesSettled d) :
    EnginesSettled d' := by
  unfold EnginesSettled at hd ⊢
  cases h with
  | same entries hlog hentries hnext hdev =>
    rw [hlog, List.filterMap_append, hentries, hnext, List.nil_append]
    exact hd
  | installed hcur hdev hlog hnext =>
    rw [hlog, hnext, List.range_succ, List.reverse_append, ← hd]
    rfl
  | handedBack hdev hlog hnext =>
    rw [hlog, hnext, List.range_succ, List.reverse_append, ← hd]
    rfl

theorem engines_run {H : Host} {d : Daemon} (h : Daemon.Reachable H (fun _ _ => True) d) :
    EnginesSettled d := by
  have hidle : ∀ d, Idle H d → EnginesSettled d := by
    rintro d hidle
    unfold EnginesSettled
    rw [hidle.log, hidle.nextDevice]
    rfl
  refine h.invariant (fun _ _ _ _ => trivial) hidle ?_ ?_
  · rintro d d' authkey io hd hup
    exact (engine_upShift hup).settled (hidle d hd)
  · rintro d e d' hd - hstep
    exact (engine_step hstep).settled hd

/-- An engine that comes back from its start is installed, or handed back with the backend's engine
    as it was. -/
theorem finish_settles {H : Host} {d d' : Daemon} {i : Nat} {state : DeviceState} {io : Io}
    (h : Daemon.step H d (.finish i (some state) io) = some d') :
    d'.nextDevice = d.nextDevice + 1 ∧
    ((d'.backend.device.map (·.id) = some d.nextDevice ∧
        ∃ g, d'.log = .installed g d.nextDevice :: d.log) ∨
      (d'.backend.device = d.backend.device ∧
        ∃ g, d'.log = .handedBack g d.nextDevice :: d.log)) := by
  cases step_shift h with
  | kept he hb hts hh hr => cases he
  | started hstart hts hh hup => cases hstart
  | installed hgen hb hts hr hpre hh =>
    obtain ⟨disk, ticks, key, -, rfl⟩ := hb
    exact ⟨rfl, .inl ⟨rfl, _, rfl⟩⟩
  | handedBack hgen hb hts hr hpre hh =>
    obtain ⟨disk, ticks, key, -, rfl⟩ := hb
    exact ⟨rfl, .inr ⟨rfl, _, rfl⟩⟩
  | down he hmark hb hts hh => rcases he with ⟨_, _, he⟩ | ⟨_, _, he⟩ <;> cases he
  | tornDown he hb => rcases he with he | ⟨_, _, he⟩ <;> cases he
  | profileActivated he hne hb => cases he
  | profileEmptied he hb => cases he

/-! ## Supersede safety -/

/-- What a quiet ticket says about the log. -/
theorem began_of_quiet {g : Nat} {older : List Did} (h : Quiet g (older.filterMap Did.mark?)) :
    ∃ mid origin authkey rest, older = mid ++ .began origin g authkey :: rest ∧
      ∀ x ∈ mid, x.supersedes = false := by
  obtain ⟨newer, old, heq, hquiet⟩ := h
  obtain ⟨mid₁, tail, rfl, hmid₁, htail⟩ := List.filterMap_eq_append_iff.mp heq
  obtain ⟨mid₂, x, rest, rfl, hmid₂, hx, -⟩ := List.filterMap_eq_cons_iff.mp htail
  have hnone : ∀ y : Did, y.mark? = none → y.supersedes = false := by
    rintro (_ | _ | _ | _ | _ | _ | _ | _ | _) <;> simp [Did.mark?, Did.supersedes]
  have hmoves : ∀ (y : Did) (m : Mark Nat), y.mark? = some m → m.moves = false →
      y.supersedes = false := by
    rintro (_ | _ | _ | _ | _ | _ | _ | _ | _) m <;> rintro ⟨⟩ <;>
      simp [Mark.moves, Did.supersedes]
  have hbegan : ∃ origin authkey, x = .began origin g authkey := by
    cases x <;> simp [Did.mark?] at hx
    exact ⟨_, _, by rw [hx]⟩
  obtain ⟨origin, authkey, rfl⟩ := hbegan
  refine ⟨mid₁ ++ mid₂, origin, authkey, rest, (List.append_assoc _ _ _).symm, ?_⟩
  intro y hy
  rcases List.mem_append.mp hy with hy | hy
  · cases hm : y.mark? with
    | none => exact hnone y hm
    | some m =>
      refine hmoves y m hm (hquiet m ?_)
      rw [← hmid₁]
      exact List.mem_filterMap.mpr ⟨y, hy, hm⟩
  · exact hnone y (hmid₂ y hy)

/-- **Supersede safety.**  In every reachable state:
    the generation only grows from here, and no two bring-ups captured the same one;
    an engine was installed only when nothing superseded its bring-up since its `begin_up`;
    an engine that comes in finds no other installed;
    every engine that started has been installed or handed back, exactly once, and the next one
    that comes back will be. -/
theorem supersede_safety {H : Host} {d : Daemon}
    (h : Daemon.Reachable H (fun _ _ => True) d) :
    ((∀ es d', Run (Daemon.step H) (fun _ _ => True) d es d' →
        d.backend.generation ≤ d'.backend.generation) ∧
      (d.log.filterMap Did.captured?).Nodup) ∧
    (∀ newer g id older, d.log = newer ++ .installed g id :: older →
      ∃ mid origin authkey rest, older = mid ++ .began origin g authkey :: rest ∧
        ∀ x ∈ mid, x.supersedes = false) ∧
    (∀ e d' dev, Daemon.step H d e = some d' → d'.backend.device = some dev →
      (∃ dev₀, d.backend.device = some dev₀ ∧ dev.id = dev₀.id) ∨
      (d.backend.device = none ∧ ∃ g, d'.log = .installed g dev.id :: d.log)) ∧
    d.log.filterMap Did.engine? = (List.range d.nextDevice).reverse ∧
    (∀ i state io d', Daemon.step H d (.finish i (some state) io) = some d' →
      d'.nextDevice = d.nextDevice + 1 ∧
      ((d'.backend.device.map (·.id) = some d.nextDevice ∧
          ∃ g, d'.log = .installed g d.nextDevice :: d.log) ∨
        (d'.backend.device = d.backend.device ∧
          ∃ g, d'.log = .handedBack g d.nextDevice :: d.log))) := by
  have hsound := slot_run h
  refine ⟨⟨fun es d' hrun => generation_le_run hrun, ?_⟩, ?_, ?_, engines_run h,
    fun i state io d' hstep => finish_settles hstep⟩
  · have hnodup := hsound.issued_nodup
    rwa [slotOf_issued] at hnodup
  · intro newer g id older hlog
    refine began_of_quiet (hsound.installs_quiet (newer.filterMap Did.mark?) g id _ ?_)
    unfold slotOf
    rw [hlog, List.filterMap_append, List.filterMap_cons]
    rfl
  · intro e d' dev hstep hdev
    cases engine_step hstep with
    | same entries hlog hentries hnext hsame =>
      left
      rw [hdev] at hsame
      rcases hsame with hnone | hid
      · cases hnone
      · obtain ⟨dev₀, hdev₀, hid₀⟩ := Option.map_eq_some_iff.mp hid.symm
        exact ⟨dev₀, hdev₀, hid₀.symm⟩
    | installed hcur hid hlog hnext =>
      right
      rw [hdev] at hid
      have hdevId : dev.id = d.nextDevice := Option.some.inj hid
      rw [hdevId]
      exact ⟨Option.map_eq_none_iff.mp (hsound.current_empty hcur), _, hlog⟩
    | handedBack hsame hlog hnext =>
      left
      exact ⟨dev, by rw [← hsame, hdev], rfl⟩

/-- A bring-up overtaken by a second one. -/
def overtaken : List Event :=
  [.up {} none none {} {}, .up {} none none {} {}, .finish 0 (some .running) {},
    .finish 0 (some .running) {}]

/-- The first engine of the run is handed back, and the second one installed. -/
theorem supersede_safety_overtaken :
    ∃ d, Daemon.replay plainHost [] firstBoot overtaken = some d ∧
      d.log.filterMap Did.engine? = (List.range d.nextDevice).reverse ∧
      (d.log.filterMap Did.captured?).Nodup := by
  obtain ⟨d, hd⟩ : ∃ d, Daemon.replay plainHost [] firstBoot overtaken = some d := ⟨_, rfl⟩
  obtain ⟨⟨-, hnodup⟩, -, -, hengines, -⟩ :=
    supersede_safety (Daemon.reachable_replay (fun _ _ _ => trivial) hd)
  exact ⟨d, hd, hengines, hnodup⟩

end Tailnetd
