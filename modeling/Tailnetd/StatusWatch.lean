/-
  The status feed of a watch (`server.rs`, `stream_watch`).

  A bare watch sends the status once, and again whenever the connection state of the engine moves.
  The engine's state is a channel of that engine, and engines come and go, so the watch also listens
  to the lifecycle, which is the generation of the backend.  The backend is the hub of
  `Tailnetd.Lib.EpochWatch`: its epoch is the generation, and its channel is the installed engine.

  An engine is never installed without a new generation, but a bring-up that fails after its edits
  takes the engine out and bumps nothing (`watched_status_current`): then it is the end of the
  engine's channel that wakes the watch.
-/
import Tailnetd.Boot
import Tailnetd.Lib.EpochWatch

namespace Tailnetd

open Machine EpochWatch

/-! ## The backend as a hub -/

/-- The engine installed and the connection state it publishes. -/
def Backend.watched (b : Backend) : Option (Nat × DeviceState) :=
  b.device.map fun dev => (dev.id, dev.state)

/-- The daemon as a watch sees it; `sends` counts the states each engine published and `closed` says
    which engines dropped the sender of theirs. -/
def Daemon.hub (d : Daemon) (sends : Nat → Nat) (closed : Nat → Bool) : Hub DeviceState where
  epoch := d.backend.generation
  current := d.backend.watched
  next := d.nextDevice
  sends := sends
  closed := closed

/-- The states published, after an event. -/
def Daemon.published (d : Daemon) (sends : Nat → Nat) : Event → Nat → Nat
  | .engine _ =>
    match d.backend.device with
    | some dev => Function.update sends dev.id (sends dev.id + 1)
    | none => sends
  | _ => sends

namespace Daemon

variable {H : Host} {d d' : Daemon} {e : Event} {sends : Nat → Nat} {closed : Nat → Bool}

/-- The engine stays as it is. -/
theorem hub_stays (hgen : d'.backend.generation = d.backend.generation)
    (hdev : d'.backend.watched = d.backend.watched) (hnext : d.nextDevice ≤ d'.nextDevice) :
    Moves (d.hub sends closed) (d'.hub sends closed) := by
  have hmove := Moves.stays (h := d.hub sends closed) hnext
  unfold hub at hmove ⊢
  rw [hgen, hdev]
  exact hmove

/-- The engine goes. -/
theorem hub_stopped (hgen : d.backend.generation ≤ d'.backend.generation)
    (hdev : d'.backend.device = none) (hnext : d.nextDevice ≤ d'.nextDevice) :
    Moves (d.hub sends closed) (d'.hub sends closed) := by
  have hmove := Moves.stopped (h := d.hub sends closed) hgen hnext
  have hnone : d'.backend.watched = none := by rw [Backend.watched, hdev]; rfl
  unfold hub at hmove ⊢
  rw [hnone]
  exact hmove

/-- The engine published a state. -/
theorem hub_engine (state : DeviceState) : Moves (d.hub sends closed)
    (hub { d with
      backend := { d.backend with
        device := d.backend.device.map fun dev => { dev with state := state } } }
      (d.published sends (.engine state)) closed) := by
  cases hdev : d.backend.device with
  | none =>
    have hmove := Moves.stays (h := d.hub sends closed) (Nat.le_refl d.nextDevice)
    simp only [published, hub, Backend.watched, hdev, Option.map_none] at hmove ⊢
    exact hmove
  | some dev =>
    have hcurrent : (d.hub sends closed).current = some (dev.id, dev.state) := by
      rw [hub, Backend.watched, hdev]
      rfl
    have hmove := @Moves.sent _ _ dev.id dev.state state hcurrent
    simp only [published, hub, Backend.watched, hdev, Option.map_some] at hmove ⊢
    exact hmove

theorem hub_upShift {origin : Origin} {authkey : Option String} {o : UpOptions}
    {netmap : ExitNodeFacts} {io : Io} {ts : List Task}
    (hup : UpShift H d origin authkey o netmap io ts d') :
    Moves (d.hub sends closed) (d'.hub sends closed) := by
  cases hup with
  | keyKept => exact hub_stopped (Nat.le_refl _) rfl (Nat.le_refl _)
  | @failed tags edit b' hcheck hfail hb =>
    obtain ⟨disk, ticks, key, -, rfl⟩ := hb
    refine hub_stopped (Nat.le_of_eq ?_) ?_ (Nat.le_refl _)
    · exact (Backend.upResult_generation (d.env H) d.backend o tags edit).symm
    · rw [Backend.upResult, Backend.applyUp_eq]
      rfl
  | @begun wif tags edit key config b' hcheck hconfig hkey hb =>
    obtain ⟨disk, ticks, key, -, rfl⟩ := hb
    refine hub_stopped ?_ ?_ (Nat.le_refl _)
    · have hgen := Backend.upResult_generation (d.env H) d.backend o tags edit
      show d.backend.generation ≤ (d.backend.upResult (d.env H) o tags edit).generation + 1
      omega
    · rw [Backend.upResult, Backend.applyUp_eq]
      rfl

/-- **No engine comes without a new generation.** -/
theorem hub_step (sends : Nat → Nat) (closed : Nat → Bool) (h : Daemon.step H d e = some d') :
    Moves (d.hub sends closed) (d'.hub (d.published sends e) closed) := by
  by_cases he : ∃ state, e = .engine state
  · obtain ⟨state, rfl⟩ := he
    cases h
    exact hub_engine state
  have hpublished : d.published sends e = sends := by
    cases e <;> first | rfl | exact absurd ⟨_, rfl⟩ he
  rw [hpublished]
  cases step_shift h with
  | kept _ hb | preflightFailed _ hb | preflightPassed _ hb =>
    obtain ⟨disk, ticks, key, -, rfl⟩ := hb
    exact hub_stays rfl rfl (Nat.le_refl _)
  | rebuildRefused => exact hub_stays rfl rfl (Nat.le_refl _)
  | started hstart hts hh hup => exact hub_upShift hup
  | @installed i state io pending b' ts pre post hgen hb =>
    obtain ⟨disk, ticks, key, -, rfl⟩ := hb
    exact Moves.installed (h := d.hub sends closed) (Nat.lt_succ_self _)
  | handedBack _ hb =>
    obtain ⟨disk, ticks, key, -, rfl⟩ := hb
    exact hub_stays rfl rfl (Nat.le_succ _)
  | buildFailed hb =>
    obtain ⟨disk, ticks, key, -, rfl⟩ := hb
    exact hub_stays rfl rfl (Nat.le_refl _)
  | setFailed _ _ hb | setPersisted _ _ hb | setRebuild _ _ _ hb =>
    obtain ⟨disk, ticks, key, -, rfl⟩ := hb
    refine hub_stays ?_ ?_ (Nat.le_refl _)
    · rw [Backend.setResult, Backend.applySet_eq]
    · unfold Backend.watched
      rw [Backend.setResult, Backend.applySet_eq]
  | setLive hcheck hdev hneeds hb =>
    obtain ⟨disk, ticks, key, -, rfl⟩ := hb
    refine hub_stays ?_ ?_ (Nat.le_refl _)
    · rw [Backend.setResult, Backend.applySet_eq]
    · unfold Backend.watched
      rw [hdev]
      rfl
  | reloadKeyFailed => exact hub_stays rfl rfl (Nat.le_refl _)
  | reloadFailed _ _ _ _ hb | reloadApplied _ _ _ _ hb =>
    obtain ⟨disk, ticks, key, -, rfl⟩ := hb
    exact hub_stays rfl rfl (Nat.le_refl _)
  | down _ _ hb =>
    obtain ⟨disk, ticks, key, -, rfl⟩ := hb
    refine hub_stopped ?_ ?_ (Nat.le_refl _)
    · rw [Backend.downResult_eq]
      exact Nat.le_succ _
    · rw [Backend.downResult_eq]
  | logout _ hb =>
    obtain ⟨disk, ticks, key, -, rfl⟩ := hb
    refine hub_stopped ?_ ?_ (Nat.le_refl _)
    · rw [Backend.logoutResult_eq]
      exact Nat.le_succ _
    · rw [Backend.logoutResult_eq]
  | tornDown _ hb | profileActivated _ _ hb | profileEmptied _ hb =>
    obtain ⟨disk, ticks, key, -, rfl⟩ := hb
    exact hub_stopped (Nat.le_succ _) rfl (Nat.le_refl _)
  | policyMoved => exact hub_stays rfl rfl (Nat.le_refl _)
  | policyTick =>
    refine hub_stays ?_ ?_ (Nat.le_refl _)
    · rw [Backend.exitNodePolicyChanged_eq, Backend.sysPolicyChanged_eq]
    · unfold Backend.watched
      rw [Backend.exitNodePolicyChanged_eq, Backend.sysPolicyChanged_eq]
  | timerDropped | timerClaimed | retried | resumeKeyed =>
    exact hub_stays rfl rfl (Nat.le_refl _)
  | engine => exact absurd ⟨_, rfl⟩ he

/-- The engine of a reachable daemon was made before the next one. -/
theorem hub_sound {good : Daemon → Event → Prop} (h : Reachable H good d)
    (hgood : ∀ d i built io, good d (.finish i built io)) : (d.hub sends closed).Sound := by
  refine h.invariant (P := fun d => ∀ sends, (d.hub sends closed).Sound) hgood ?_ ?_ ?_ sends
  · intro d hidle sends k v hk
    rw [hub, Backend.watched, hidle.backend.device] at hk
    cases hk
  · intro d d' authkey io hidle hup sends
    refine (hub_upShift hup).sound fun k v hk => ?_
    rw [hub, Backend.watched, hidle.backend.device] at hk
    cases hk
  · intro d e d' hs _ hstep sends k v hk
    exact (hub_step sends closed hstep).sound (hs sends) k v hk

end Daemon

/-! ## The watch -/

/-- The daemon, what its engines have published and dropped, and a status watch. -/
structure StatusStream where
  daemon : Daemon
  sends : Nat → Nat
  closed : Nat → Bool
  watcher : Option (Watcher DeviceState)

/-- What can happen while the status is watched. -/
inductive StatusEvent where
  | daemon (e : Event)
  /-- The last handle of an engine that is not installed is dropped. -/
  | dropped (engine : Nat)
  /-- The watch subscribes to the lifecycle. -/
  | subscribe
  /-- The report and the receiver are taken under one lock, and the report is sent. -/
  | snapshot (seen : Nat)
  /-- `rx.changed()`. -/
  | stateChanged
  /-- The report that follows it. -/
  | resent
  /-- `life.changed()`. -/
  | lifeChanged
  /-- `rx.changed()` on a channel that ended. -/
  | stateEnded
  /-- The client hung up. -/
  | hungUp

namespace StatusStream

/-- What the watch sees. -/
def hub (s : StatusStream) : Hub DeviceState := s.daemon.hub s.sends s.closed

/-- The watch goes on as it can. -/
def watch (s : StatusStream) (f : Watcher DeviceState → Option (Watcher DeviceState)) :
    Option StatusStream :=
  (s.watcher.bind f).map fun w => { s with watcher := some w }

/-- One event. -/
def step (H : Host) (s : StatusStream) : StatusEvent → Option StatusStream
  | .daemon e =>
    (s.daemon.step H e).map fun d => { s with daemon := d, sends := s.daemon.published s.sends e }
  | .dropped engine =>
    if engine < s.daemon.nextDevice ∧ s.daemon.backend.device.map (·.id) ≠ some engine then
      some { s with closed := Function.update s.closed engine true }
    else none
  | .subscribe => some { s with watcher := some (.subscribe s.hub) }
  | .snapshot seen => s.watch fun w => w.look s.hub seen
  | .stateChanged => s.watch fun w => w.wakeSend s.hub
  | .resent => s.watch fun w => w.lookAgain s.hub
  | .lifeChanged => s.watch fun w => w.wakeEpoch s.hub
  | .stateEnded => s.watch fun w => w.wakeClosed s.hub
  | .hungUp => some { s with watcher := none }

/-- A daemon nobody watches yet. -/
def start (d : Daemon) : StatusStream := ⟨d, fun _ => 0, fun _ => false, none⟩

/-- Every watch knows what it can. -/
structure Watched (s : StatusStream) : Prop where
  sound : s.hub.Sound
  fresh : ∀ w, s.watcher = some w → Fresh w s.hub

variable {H : Host} {s t : StatusStream} {e : StatusEvent}

theorem Watched.watch {f : Watcher DeviceState → Option (Watcher DeviceState)} (hs : Watched s)
    (hf : ∀ w w', Fresh w s.hub → f w = some w' → Fresh w' s.hub) (h : s.watch f = some t) :
    Watched t := by
  obtain ⟨w', hw', rfl⟩ := Option.map_eq_some_iff.mp h
  obtain ⟨w, hw, hfw⟩ := Option.bind_eq_some_iff.mp hw'
  refine ⟨hs.sound, fun u hu => ?_⟩
  cases hu
  exact hf w w' (hs.fresh w hw) hfw

theorem Watched.step (hs : Watched s) (h : StatusStream.step H s e = some t) : Watched t := by
  cases e with
  | daemon e =>
    obtain ⟨d, hd, rfl⟩ := Option.map_eq_some_iff.mp h
    have hmove := Daemon.hub_step s.sends s.closed hd
    exact ⟨hmove.sound hs.sound, fun w hw => (hs.fresh w hw).moves hmove⟩
  | dropped engine =>
    dsimp only [StatusStream.step] at h
    split at h <;> cases h
    rename_i hold
    have hmove : Moves s.hub { s.hub with closed := Function.update s.closed engine true } := by
      refine .closed hold.1 fun v hv => hold.2 ?_
      obtain ⟨dev, hdev, heq⟩ := Option.map_eq_some_iff.mp hv
      cases heq
      rw [hdev]
      rfl
    exact ⟨hmove.sound hs.sound, fun w hw => (hs.fresh w hw).moves hmove⟩
  | subscribe =>
    cases h
    refine ⟨hs.sound, fun w hw => ?_⟩
    cases hw
    exact Fresh.subscribe _
  | snapshot seen => exact hs.watch (fun _ _ hw hlook => hw.look hs.sound hlook) h
  | stateChanged => exact hs.watch (fun _ _ hw hwake => hw.wakeSend hwake) h
  | resent => exact hs.watch (fun _ _ hw hlook => hw.lookAgain hlook) h
  | lifeChanged => exact hs.watch (fun _ _ _ hwake => Fresh.wakeEpoch hwake) h
  | stateEnded => exact hs.watch (fun _ _ hw hwake => hw.wakeClosed hwake) h
  | hungUp =>
    cases h
    exact ⟨hs.sound, fun w hw => by cases hw⟩

/-- **A watched status is current.**  Whatever the daemon does and however the watch is woken: a
    watch that waits with nothing about to wake it has sent the connection state of the installed
    engine; with none installed it has said so, or it waits for the end of an engine that is gone
    and that somebody still holds. -/
theorem watched_status_current {d : Daemon} {es : List StatusEvent} {w : Watcher DeviceState}
    (hd : Daemon.Reachable H (fun _ _ => True) d)
    (hrun : Run (StatusStream.step H) (fun _ _ => True) (start d) es s)
    (hw : s.watcher = some w) (hidle : w.Idle s.hub) :
    (∀ dev, s.daemon.backend.device = some dev → w.shown = some (some (dev.id, dev.state))) ∧
      (s.daemon.backend.device = none → w.shown = some none ∨
        ∃ rx, w.place = .waiting (some rx) ∧ s.closed rx.channel = false) := by
  have hstart : Watched (start d) :=
    ⟨Daemon.hub_sound hd fun _ _ _ _ => trivial, fun w hw => by cases hw⟩
  have hs : Watched s := hrun.invariant (fun _ _ _ hs _ hstep => hs.step hstep) hstart
  have hcurrent : s.hub.current = s.daemon.backend.watched := rfl
  rcases (hs.fresh w hw).current hidle with hshown | ⟨hnone, hopen⟩
  · rw [hshown, hcurrent, Backend.watched]
    refine ⟨fun dev hdev => ?_, fun hdev => .inl ?_⟩ <;> rw [hdev] <;> rfl
  · refine ⟨fun dev hdev => ?_, fun _ => .inr hopen⟩
    rw [hcurrent, Backend.watched, hdev] at hnone
    cases hnone

/-- A node comes up, is watched, and its key expires. -/
theorem watched_status_current_expired :
    ∃ d s w, Daemon.replay plainHost [] firstBoot
        [.up {} none none {} {}, .finish 0 (some .running) {}] = some d ∧
      follow (StatusStream.step plainHost) (start d)
        [.subscribe, .snapshot 0, .daemon (.engine .expired), .stateChanged, .resent] = some s ∧
      s.watcher = some w ∧ w.shown = some (some (0, .expired)) := by
  obtain ⟨d, s, w, dev, hd, hrun, hw, hidle, hdev, hstate⟩ : ∃ d s w dev,
      Daemon.replay plainHost [] firstBoot
        [.up {} none none {} {}, .finish 0 (some .running) {}] = some d ∧
      follow (StatusStream.step plainHost) (start d)
        [.subscribe, .snapshot 0, .daemon (.engine .expired), .stateChanged, .resent] = some s ∧
      s.watcher = some w ∧ w.Idle s.hub ∧ s.daemon.backend.device = some dev ∧
      (dev.id, dev.state) = (0, .expired) :=
    ⟨_, _, _, _, rfl, rfl, rfl, ⟨⟨_, rfl⟩, rfl, rfl, rfl⟩, rfl, rfl⟩
  have hshown := (watched_status_current
    (Daemon.reachable_replay (fun _ _ _ => trivial) hd)
    (run_of_follow (fun _ _ _ => trivial) hrun) hw hidle).1 dev hdev
  rw [hstate] at hshown
  exact ⟨d, s, w, hd, hrun, hw, hshown⟩

end StatusStream

end Tailnetd
