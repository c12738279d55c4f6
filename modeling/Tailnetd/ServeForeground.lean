/-
  Foreground serves.

  Without `--bg`, `tnet serve` and `tnet funnel` hold what they set until they are interrupted, and
  then send the config they saw before their own edit.  The restore is a write of the whole document
  like any other: the daemon has no session to tie the serve to, so it takes back all that was
  accepted since, whoever sent it, and brings back all that was there before.

  A history is a log of accepted writes again, with an edit that does nothing for a restore, and how
  many writes there were when the session read.  What the config holds after any history is the
  log's kept edits.  Sessions that end in reverse order, with no other command in between, undo
  their own edits and nothing else; every other history may take away a port that is being served,
  or bring one back.
-/
import Tailnetd.ServeRaces

namespace Tailnetd

open Machine ReadModifyWrite

/-! ## The machine -/

/-- An accepted write: a complete command, the edit of a session, or a restore. -/
inductive ForegroundWrite where
  | command (edit : String × ServeCommand)
  | start (edit : String × ServeCommand)
  | restore

/-- What a write makes of the config its writer read. -/
def ForegroundWrite.apply : ForegroundWrite → ServeConfig → ServeConfig
  | .command edit, cfg => applied edit cfg
  | .start edit, cfg => applied edit cfg
  | .restore, cfg => cfg

/-- The edit of a complete command. -/
def ForegroundWrite.background : ForegroundWrite → Option (String × ServeCommand)
  | .command edit => some edit
  | .start _ => none
  | .restore => none

/-- A session that holds its serve: what it asked for, the config it saw before its edit, and how
    many writes had been accepted then. -/
structure HeldServe where
  name : String
  flags : ServeFlags
  funnel : Bool
  previous : ServeConfig
  seen : Nat

/-- The edit a session holds. -/
def HeldServe.edit (held : HeldServe) : String × ServeCommand :=
  (held.name, .flags held.flags held.funnel)

/-- The daemon, the sessions that hold a serve, the newest first, and the accepted writes. -/
structure Foreground where
  serving : ServingDaemon
  sessions : List HeldServe := []
  log : List (Write ForegroundWrite) := []

/-- A complete command, the start of a session, its interrupt, or an event of the daemon. -/
inductive ForegroundMessage where
  | command (name : String) (cmd : ServeCommand) (getIo : ServeIo) (netmapName : Option String)
      (setIo : ServeIo)
  | start (name : String) (f : ServeFlags) (funnel : Bool) (getIo : ServeIo)
      (netmapName : Option String) (setIo : ServeIo)
  | stop (i : Nat) (netmapName : Option String) (setIo : ServeIo)
  | daemon (e : Event)

/-- A `SetServeConfig` at the daemon. -/
structure SentConfig where
  cfg : ServeConfig
  netmapName : Option String
  io : ServeIo

/-- What a command sends of the config it was answered with. -/
def editSends (name : String) (cmd : ServeCommand) (cfg : ServeConfig) : Option ServeConfig :=
  match cmd.edit name cfg with
  | .ok copy => copy
  | .error _ => none

namespace Foreground

/-- The stored config. -/
def stored (s : Foreground) : ServeConfig := s.serving.serveConfig {}

/-- What a message sends to the daemon. -/
def sends (s : Foreground) : ForegroundMessage → Option SentConfig
  | .command name cmd getIo netmapName setIo =>
    (editSends name cmd (s.serving.serveConfig getIo)).map fun copy => ⟨copy, netmapName, setIo⟩
  | .start name f funnel getIo netmapName setIo =>
    (editSends name (.flags f funnel) (s.serving.serveConfig getIo)).map fun copy =>
      ⟨copy, netmapName, setIo⟩
  | .stop i netmapName setIo =>
    s.sessions[i]?.map fun held => ⟨held.previous, netmapName, setIo⟩
  | .daemon _ => none

/-- The daemon takes what a message sends. -/
def accepts (G : ServeEngine) (s : Foreground) (m : ForegroundMessage) : Bool :=
  match s.sends m with
  | some sent => (s.serving.setServeConfig G sent.cfg sent.netmapName sent.io).1.isOk
  | none => false

/-- The daemon after what a message sends. -/
def receive (G : ServeEngine) (s : Foreground) (m : ForegroundMessage) : ServingDaemon :=
  match s.sends m with
  | some sent => (s.serving.setServeConfig G sent.cfg sent.netmapName sent.io).2
  | none => s.serving

/-- The log with a write, if it is accepted. -/
def record (G : ServeEngine) (s : Foreground) (m : ForegroundMessage) (w : Write ForegroundWrite) :
    List (Write ForegroundWrite) :=
  if s.accepts G m then w :: s.log else s.log

/-- One message.  A session whose set is refused does not come to hold; one whose restore is refused
    is over all the same. -/
def step (H : Host) (G : ServeEngine) (s : Foreground) : ForegroundMessage → Option Foreground
  | .command name cmd getIo netmapName setIo =>
    let m := ForegroundMessage.command name cmd getIo netmapName setIo
    some { s with
      serving := s.receive G m
      log := s.record G m ⟨.command (name, cmd), s.log.length⟩ }
  | .start name f funnel getIo netmapName setIo =>
    let m := ForegroundMessage.start name f funnel getIo netmapName setIo
    let held : HeldServe :=
      { name, flags := f, funnel, previous := s.serving.serveConfig getIo, seen := s.log.length }
    if f.isOff then none
    else
      some
        { serving := s.receive G m
          sessions := if s.accepts G m then held :: s.sessions else s.sessions
          log := s.record G m ⟨.start held.edit, s.log.length⟩ }
  | .stop i netmapName setIo =>
    let m := ForegroundMessage.stop i netmapName setIo
    s.sessions[i]?.map fun held =>
      { serving := s.receive G m
        sessions := s.sessions.eraseIdx i
        log := s.record G m ⟨.restore, held.seen⟩ }
  | .daemon e =>
    (s.serving.daemon.step H e).map fun d => { s with serving := { s.serving with daemon := d } }

/-- The file is readable at a get, and the daemon stays with its profile. -/
def plain (H : Host) (s : Foreground) : ForegroundMessage → Bool
  | .command _ _ getIo _ _ => getIo.readConfig
  | .start _ _ _ getIo _ _ => getIo.readConfig
  | .stop _ _ _ => true
  | .daemon e => !s.serving.daemon.switches H e

/-- Besides, no complete command is accepted while a session holds, and the session that ends is the
    newest, with its restore accepted. -/
def nested (H : Host) (G : ServeEngine) (s : Foreground) (m : ForegroundMessage) : Bool :=
  s.plain H m &&
    match m with
    | .command _ _ _ _ _ => s.sessions.isEmpty || !s.accepts G m
    | .start _ _ _ _ _ _ => true
    | .stop i _ _ => i == 0 && s.accepts G m
    | .daemon _ => true

/-- No session holds, and nothing was written yet. -/
def Fresh (s : Foreground) : Prop := s.sessions = [] ∧ s.log = []

/-- The complete commands that were accepted, newest first. -/
def background (s : Foreground) : List (String × ServeCommand) :=
  s.log.filterMap fun w => w.edit.background

end Foreground

/-! ## What a message can do -/

namespace Foreground

variable {H : Host} {G : ServeEngine} {s t : Foreground} {m : ForegroundMessage}

/-- A message that is not accepted leaves the daemon alone; one that is stores what it sent. -/
theorem receive_cases (G : ServeEngine) (s : Foreground) (m : ForegroundMessage) :
    (s.accepts G m = false ∧ s.receive G m = s.serving) ∨
      (s.accepts G m = true ∧ ∃ sent, s.sends m = some sent ∧
        (s.receive G m).serveConfig {} = sent.cfg) := by
  unfold accepts receive
  cases s.sends m with
  | none => exact .inl ⟨rfl, rfl⟩
  | some sent =>
    rcases ServeSession.setServeConfig_stored (G := G) s.serving sent.cfg sent.netmapName sent.io with
      hrefused | ⟨haccepted, hstored⟩
    · exact .inl hrefused
    · exact .inr ⟨haccepted, sent, rfl, hstored⟩

/-- What an edit sends is the edit of what it was answered with. -/
theorem editSends_eq {name : String} {cmd : ServeCommand} {cfg copy : ServeConfig}
    (h : editSends name cmd cfg = some copy) : applied (name, cmd) cfg = copy := by
  unfold editSends at h
  cases hedit : cmd.edit name cfg with
  | ok sent =>
    rw [hedit] at h
    refine applied_eq ?_
    rw [← h]
    exact hedit
  | error e =>
    rw [hedit] at h
    cases h

/-- A readable get answers with the store. -/
theorem serveConfig_readable {io : ServeIo} (h : io.readConfig = true) :
    s.serving.serveConfig io = s.stored := by
  unfold stored ServingDaemon.serveConfig
  rw [h]

/-- **What an accepted message stores.**  A command and the start of a session store their edit of
    the store; an interrupt stores what the session saw before its own edit. -/
inductive Stores (s : Foreground) : ForegroundMessage → ServeConfig → Prop
  | command {name : String} {cmd : ServeCommand} {getIo setIo : ServeIo}
      {netmapName : Option String} :
      Stores s (.command name cmd getIo netmapName setIo) (applied (name, cmd) s.stored)
  | start {name : String} {f : ServeFlags} {funnel : Bool} {getIo setIo : ServeIo}
      {netmapName : Option String} :
      Stores s (.start name f funnel getIo netmapName setIo)
        (applied (name, .flags f funnel) s.stored)
  | stop {i : Nat} {netmapName : Option String} {setIo : ServeIo} {held : HeldServe}
      (hheld : s.sessions[i]? = some held) : Stores s (.stop i netmapName setIo) held.previous

theorem accepted_stores (hplain : s.plain H m = true) (haccepted : s.accepts G m = true) :
    ∃ cfg, Stores s m cfg ∧ (s.receive G m).serveConfig {} = cfg := by
  rcases receive_cases G s m with ⟨hrefused, -⟩ | ⟨-, sent, hsent, hstored⟩
  · rw [hrefused] at haccepted
    cases haccepted
  · refine ⟨sent.cfg, ?_, hstored⟩
    cases m with
    | command name cmd getIo netmapName setIo =>
      obtain ⟨copy, hcopy, rfl⟩ := Option.map_eq_some_iff.mp hsent
      rw [serveConfig_readable hplain] at hcopy
      dsimp only
      rw [← editSends_eq hcopy]
      exact .command
    | start name f funnel getIo netmapName setIo =>
      obtain ⟨copy, hcopy, rfl⟩ := Option.map_eq_some_iff.mp hsent
      rw [serveConfig_readable hplain] at hcopy
      dsimp only
      rw [← editSends_eq hcopy]
      exact .start
    | stop i netmapName setIo =>
      obtain ⟨held, hheld, rfl⟩ := Option.map_eq_some_iff.mp hsent
      exact .stop hheld
    | daemon e => cases hsent

/-- What a step does to the log and to the daemon: nothing, or it records an accepted write. -/
theorem record_cases (G : ServeEngine) (s : Foreground) (m : ForegroundMessage)
    (w : Write ForegroundWrite) :
    (s.accepts G m = false ∧ s.receive G m = s.serving ∧ s.record G m w = s.log) ∨
      (s.accepts G m = true ∧ s.record G m w = w :: s.log) := by
  unfold record
  rcases receive_cases G s m with ⟨hrefused, hsame⟩ | ⟨haccepted, -⟩
  · rw [hrefused]
    exact .inl ⟨rfl, hsame, rfl⟩
  · rw [haccepted]
    exact .inr ⟨rfl, rfl⟩

/-- An event of the daemon that stays with the profile leaves the store alone. -/
theorem step_daemon_stored {e : Event} (hplain : s.plain H (.daemon e) = true)
    (hstep : s.step H G (.daemon e) = some t) :
    t.stored = s.stored ∧ t.sessions = s.sessions ∧ t.log = s.log := by
  obtain ⟨d, hd, rfl⟩ := Option.map_eq_some_iff.mp hstep
  have hstays : s.serving.daemon.switches H e = false := by simpa [plain] using hplain
  have hprofile : d.backend.currentProfile = s.serving.daemon.backend.currentProfile := by
    rcases step_profile hd with ⟨hswitch, -⟩ | ⟨-, hprofile⟩
    · rw [hstays] at hswitch
      cases hswitch
    · exact hprofile
  refine ⟨?_, rfl, rfl⟩
  dsimp only [stored, ServingDaemon.serveConfig]
  rw [hprofile]

/-- What a message does when its get is readable: nothing, or an accepted write; and a session whose
    restore is refused is over all the same. -/
inductive Did (G : ServeEngine) (s t : Foreground) : ForegroundMessage → Prop
  | nothing {m : ForegroundMessage} (hstored : t.stored = s.stored)
      (hsessions : t.sessions = s.sessions) (hlog : t.log = s.log) : Did G s t m
  | command {name : String} {cmd : ServeCommand} {getIo setIo : ServeIo}
      {netmapName : Option String}
      (haccepted : s.accepts G (.command name cmd getIo netmapName setIo) = true)
      (hstored : t.stored = applied (name, cmd) s.stored) (hsessions : t.sessions = s.sessions)
      (hlog : t.log = ⟨.command (name, cmd), s.log.length⟩ :: s.log) :
      Did G s t (.command name cmd getIo netmapName setIo)
  | start {name : String} {f : ServeFlags} {funnel : Bool} {getIo setIo : ServeIo}
      {netmapName : Option String} (hstored : t.stored = applied (name, .flags f funnel) s.stored)
      (hsessions : t.sessions = ⟨name, f, funnel, s.stored, s.log.length⟩ :: s.sessions)
      (hlog : t.log = ⟨.start (name, .flags f funnel), s.log.length⟩ :: s.log) :
      Did G s t (.start name f funnel getIo netmapName setIo)
  | refused {i : Nat} {netmapName : Option String} {setIo : ServeIo}
      (hrefused : s.accepts G (.stop i netmapName setIo) = false) (hstored : t.stored = s.stored)
      (hsessions : t.sessions = s.sessions.eraseIdx i) (hlog : t.log = s.log) :
      Did G s t (.stop i netmapName setIo)
  | restored {i : Nat} {netmapName : Option String} {setIo : ServeIo} {held : HeldServe}
      (hheld : s.sessions[i]? = some held) (hstored : t.stored = held.previous)
      (hsessions : t.sessions = s.sessions.eraseIdx i)
      (hlog : t.log = ⟨.restore, held.seen⟩ :: s.log) : Did G s t (.stop i netmapName setIo)

/-- **The inversion of a step.** -/
theorem step_did (hplain : s.plain H m = true) (hstep : s.step H G m = some t) : Did G s t m := by
  cases m with
  | command name cmd getIo netmapName setIo =>
    obtain rfl := Option.some.inj hstep
    rcases record_cases G s (.command name cmd getIo netmapName setIo)
        ⟨.command (name, cmd), s.log.length⟩ with ⟨-, hsame, hlog⟩ | ⟨haccepted, hlog⟩
    · exact .nothing (congrArg (fun d => d.serveConfig {}) hsame) rfl hlog
    · obtain ⟨cfg, hstores, hstored⟩ := accepted_stores hplain haccepted
      cases hstores
      exact .command haccepted hstored rfl hlog
  | start name f funnel getIo netmapName setIo =>
    unfold step at hstep
    dsimp only at hstep
    split at hstep
    · cases hstep
    · obtain rfl := Option.some.inj hstep
      rcases record_cases G s (.start name f funnel getIo netmapName setIo)
          ⟨.start (name, .flags f funnel), s.log.length⟩ with
        ⟨hrefused, hsame, hlog⟩ | ⟨haccepted, hlog⟩
      · refine .nothing (congrArg (fun d => d.serveConfig {}) hsame) ?_ hlog
        dsimp only
        rw [hrefused]
        rfl
      · obtain ⟨cfg, hstores, hstored⟩ := accepted_stores hplain haccepted
        cases hstores
        refine .start hstored ?_ hlog
        dsimp only
        rw [if_pos haccepted, serveConfig_readable hplain]
  | stop i netmapName setIo =>
    obtain ⟨held, hheld, rfl⟩ := Option.map_eq_some_iff.mp hstep
    rcases record_cases G s (.stop i netmapName setIo) ⟨.restore, held.seen⟩ with
      ⟨hrefused, hsame, hlog⟩ | ⟨haccepted, hlog⟩
    · exact .refused hrefused (congrArg (fun d => d.serveConfig {}) hsame) rfl hlog
    · obtain ⟨cfg, hstores, hstored⟩ := accepted_stores hplain haccepted
      cases hstores with
      | stop hheld' =>
        rw [hheld] at hheld'
        cases hheld'
        exact .restored hheld hstored rfl hlog
  | daemon e =>
    obtain ⟨hstored, hsessions, hlog⟩ := step_daemon_stored hplain hstep
    exact .nothing hstored hsessions hlog

/-! ## Any history -/

/-- A session's snapshot is what the store held when it was taken. -/
def Holds (start : ServeConfig) (log : List (Write ForegroundWrite)) (held : HeldServe) : Prop :=
  held.seen ≤ log.length ∧
    held.previous = document ForegroundWrite.apply start (before log held.seen)

theorem Holds.cons {start : ServeConfig} {log : List (Write ForegroundWrite)} {held : HeldServe}
    (h : Holds start log held) (w : Write ForegroundWrite) : Holds start (w :: log) held := by
  obtain ⟨hseen, hprevious⟩ := h
  refine ⟨Nat.le_succ_of_le hseen, ?_⟩
  rw [before_cons _ hseen]
  exact hprevious

/-- The store is what the log makes of the config at the start, and so is every snapshot. -/
structure Accounts (start : ServeConfig) (s : Foreground) : Prop where
  stored : s.stored = document ForegroundWrite.apply start s.log
  held : ∀ held ∈ s.sessions, Holds start s.log held

/-- An edit that is accepted is made of the whole log. -/
theorem document_edit {start : ServeConfig} (h : Accounts start s) (w : ForegroundWrite) :
    document ForegroundWrite.apply start (⟨w, s.log.length⟩ :: s.log) = w.apply s.stored := by
  rw [document, before_length, h.stored]

theorem accounts_step {start : ServeConfig} (h : Accounts start s) (hplain : s.plain H m = true)
    (hstep : s.step H G m = some t) : Accounts start t := by
  cases step_did hplain hstep with
  | nothing hstored hsessions hlog =>
    constructor
    · rw [hstored, hlog]
      exact h.stored
    · rw [hsessions, hlog]
      exact h.held
  | command haccepted hstored hsessions hlog =>
    constructor
    · -- the edit read every write so far, so it stands on the document there was
      rw [hlog, document_edit h]
      exact hstored
    · rw [hsessions, hlog]
      exact fun held hheld => (h.held held hheld).cons _
  | start hstored hsessions hlog =>
    constructor
    · rw [hlog, document_edit h]
      exact hstored
    · rw [hsessions, hlog]
      intro held hheld
      rcases List.mem_cons.mp hheld with rfl | hold
      · refine Holds.cons ⟨Nat.le_refl _, ?_⟩ _
        dsimp only
        rw [before_length, h.stored]
      · exact (h.held held hold).cons _
  | refused hrefused hstored hsessions hlog =>
    constructor
    · rw [hstored, hlog]
      exact h.stored
    · rw [hsessions, hlog]
      exact fun held hheld => h.held held (List.mem_of_mem_eraseIdx hheld)
  | @restored i netmapName setIo held hheld hstored hsessions hlog =>
    constructor
    · -- a restore is an edit that does nothing, read before the session's own write
      rw [hstored, hlog, document]
      exact (h.held held (List.mem_of_getElem? hheld)).2
    · rw [hsessions, hlog]
      exact fun other hother => (h.held other (List.mem_of_mem_eraseIdx hother)).cons _

theorem Fresh.accounts (h : s.Fresh) : Accounts s.stored s := by
  obtain ⟨hsessions, hlog⟩ := h
  constructor
  · rw [hlog, document]
  · rw [hsessions]
    intro held hheld
    cases hheld

/-! ## Histories that nest -/

/-- Each session saw the config with the older sessions' edits on it. -/
def Stacked (base : ServeConfig) : List HeldServe → Prop
  | [] => True
  | held :: older =>
    held.previous = (older.map HeldServe.edit).foldr applied base ∧ Stacked base older

/-- The store is the config at the start with the accepted commands, and the open sessions on
    top. -/
structure Nested (start : ServeConfig) (s : Foreground) : Prop where
  stored : s.stored =
    (s.sessions.map HeldServe.edit).foldr applied (s.background.foldr applied start)
  stacked : Stacked (s.background.foldr applied start) s.sessions

theorem background_of_log {ws : List (Write ForegroundWrite)} (hlog : t.log = ws) :
    t.background = ws.filterMap fun w => w.edit.background := by
  rw [background, hlog]

theorem nested_step {start : ServeConfig} (h : Nested start s) (hnested : s.nested H G m = true)
    (hstep : s.step H G m = some t) : Nested start t := by
  unfold nested at hnested
  rw [Bool.and_eq_true] at hnested
  obtain ⟨hplain, hnested⟩ := hnested
  cases step_did hplain hstep with
  | nothing hstored hsessions hlog =>
    have hbackground : t.background = s.background := background_of_log hlog
    constructor
    · rw [hstored, hsessions, hbackground]
      exact h.stored
    · rw [hsessions, hbackground]
      exact h.stacked
  | @command name cmd getIo setIo netmapName haccepted hstored hsessions hlog =>
    have hbackground : t.background = (name, cmd) :: s.background := background_of_log hlog
    -- an accepted command finds no session open
    have hnone : s.sessions = [] := by
      dsimp only at hnested
      rw [haccepted] at hnested
      simpa using hnested
    have hbase : s.stored = s.background.foldr applied start := by
      rw [h.stored, hnone]
      rfl
    rw [hnone] at hsessions
    constructor
    · rw [hstored, hsessions, hbackground, hbase]
      rfl
    · rw [hsessions]
      trivial
  | start hstored hsessions hlog =>
    have hbackground : t.background = s.background :=
      (background_of_log hlog).trans rfl
    constructor
    · rw [hstored, hsessions, hbackground, h.stored]
      rfl
    · rw [hsessions, hbackground]
      exact ⟨h.stored, h.stacked⟩
  | refused hrefused =>
    rw [Bool.and_eq_true, hrefused] at hnested
    cases hnested.2
  | @restored i netmapName setIo held hheld hstored hsessions hlog =>
    have hbackground : t.background = s.background :=
      (background_of_log hlog).trans rfl
    rw [Bool.and_eq_true] at hnested
    have hi : i = 0 := by simpa using hnested.1
    subst hi
    cases hopen : s.sessions with
    | nil =>
      rw [hopen] at hheld
      cases hheld
    | cons newest older =>
      have hstacked := h.stacked
      rw [hopen] at hheld hstacked hsessions
      cases hheld
      constructor
      · rw [hstored, hsessions, hbackground]
        exact hstacked.1
      · rw [hsessions, hbackground]
        exact hstacked.2

theorem Fresh.nested (h : s.Fresh) : Nested s.stored s := by
  obtain ⟨hsessions, hlog⟩ := h
  have hbackground : s.background = [] := background_of_log hlog
  constructor
  · rw [hsessions, hbackground]
    rfl
  · rw [hsessions]
    trivial

end Foreground

/-- **What a foreground serve undoes.**  After any history the store is the log's kept edits; an
    accepted restore stores what its session saw before its own edit, and so forgets that edit and
    every write since.  Where histories nest, the store is the accepted commands with the open
    sessions' edits on top, and when no session is left, the accepted commands alone. -/
theorem foreground_serve_restores {H : Host} {G : ServeEngine} {s : Foreground} (hfresh : s.Fresh) :
    (∀ ms t, Run (Foreground.step H G) (fun s m => s.plain H m = true) s ms t →
      t.stored = (kept t.log).foldr ForegroundWrite.apply s.stored ∧
      ∀ i held netmapName io u, t.sessions[i]? = some held →
        t.accepts G (.stop i netmapName io) = true →
        t.step H G (.stop i netmapName io) = some u →
        u.stored = held.previous ∧
          held.previous =
            (kept (before t.log held.seen)).foldr ForegroundWrite.apply s.stored) ∧
    ∀ ms t, Run (Foreground.step H G) (fun s m => s.nested H G m = true) s ms t →
      t.stored =
        (t.sessions.map HeldServe.edit).foldr applied (t.background.foldr applied s.stored) ∧
      (t.sessions = [] → t.stored = t.background.foldr applied s.stored) := by
  constructor
  · intro ms t hrun
    have haccounts : Foreground.Accounts s.stored t :=
      hrun.invariant (fun _ _ _ h hplain hstep => Foreground.accounts_step h hplain hstep)
        hfresh.accounts
    refine ⟨?_, ?_⟩
    · rw [haccounts.stored, document_eq_kept]
    · intro i held netmapName io u hheld haccepted hstep
      obtain ⟨held', hheld', rfl⟩ := Option.map_eq_some_iff.mp hstep
      have hplain : t.plain H (.stop i netmapName io) = true := rfl
      obtain ⟨cfg, hstores, hstored⟩ := Foreground.accepted_stores hplain haccepted
      cases hstores with
      | stop hsession =>
        rw [hheld] at hsession
        cases hsession
        refine ⟨hstored, ?_⟩
        rw [← document_eq_kept]
        exact (haccounts.held held (List.mem_of_getElem? hheld)).2
  · intro ms t hrun
    have hnested : Foreground.Nested s.stored t :=
      hrun.invariant (fun _ _ _ h hnested hstep => Foreground.nested_step h hnested hstep)
        hfresh.nested
    refine ⟨hnested.stored, fun hnone => ?_⟩
    rw [hnested.stored, hnone]
    rfl

/-- A forward in the foreground. -/
def forwardFlags (port : UInt16) (target : String) : ServeFlags :=
  { kind := .tcp, port, target := some target }

/-- The node comes up. -/
def foregroundUp : List ForegroundMessage :=
  [.daemon (.up {} none none {} {}), .daemon (.finish 0 (some .running) {})]

/-- Two sessions on different ports begin. -/
def twoSessions : List ForegroundMessage :=
  [.start "node.ts.net." (forwardFlags 8080 "3000") false {} (some "node.ts.net.") {},
    .start "node.ts.net." (forwardFlags 7070 "4000") false {} (some "node.ts.net.") {}]

/-- The second ends first, over a forward that a complete command left. -/
def nestedSessions : List ForegroundMessage :=
  foregroundUp ++
    [.command "node.ts.net." serve9090 {} (some "node.ts.net.") {}] ++ twoSessions ++
    [.stop 0 (some "node.ts.net.") {}, .stop 0 (some "node.ts.net.") {}]

/-- The first ends first. -/
def crossedSessions : List ForegroundMessage :=
  foregroundUp ++ twoSessions ++ [.stop 1 (some "node.ts.net.") {}, .stop 0 (some "node.ts.net.") {}]

/-- Sessions that nest leave the command's forward alone. -/
theorem foreground_serve_restores_nested :
    ∃ d₀ t, Daemon.boot plainHost [] firstBoot = .ok d₀ ∧
      follow (Foreground.step plainHost proxyEngine) ⟨⟨d₀, fun _ => none⟩, [], []⟩ nestedSessions =
        some t ∧
      t.stored = applied ("node.ts.net.", serve9090) {} := by
  obtain ⟨d₀, t, hboot, hfollow, hchecked, hsessions, hbackground, hempty⟩ : ∃ d₀ t,
      Daemon.boot plainHost [] firstBoot = .ok d₀ ∧
      follow (Foreground.step plainHost proxyEngine) ⟨⟨d₀, fun _ => none⟩, [], []⟩ nestedSessions =
        some t ∧
      follow (fun s m => if s.nested plainHost proxyEngine m then
          Foreground.step plainHost proxyEngine s m else none)
        (⟨⟨d₀, fun _ => none⟩, [], []⟩ : Foreground) nestedSessions = some t ∧
      t.sessions = [] ∧ t.background = [("node.ts.net.", serve9090)] ∧
      (⟨⟨d₀, fun _ => none⟩, [], []⟩ : Foreground).stored = {} :=
    ⟨_, _, rfl, rfl, rfl, rfl, rfl, rfl⟩
  refine ⟨d₀, t, hboot, hfollow, ?_⟩
  have hrestored := ((foreground_serve_restores ⟨rfl, rfl⟩).2 _ t (run_of_checked hchecked)).2 hsessions
  rw [hrestored, hbackground, hempty]
  rfl

/-- The ports that the sessions of a history are about. -/
def sessionPorts (ms : List ForegroundMessage) : List UInt16 :=
  ms.filterMap fun m =>
    match m with
    | .start _ f _ _ _ _ => some f.port
    | _ => none

/-- A message that is plain in every state. -/
def ForegroundMessage.isPlain : ForegroundMessage → Bool
  | .command _ _ getIo _ _ => getIo.readConfig
  | .start _ _ _ getIo _ _ => getIo.readConfig
  | .stop _ _ _ => true
  | .daemon e => !e.changesProfile

theorem foreground_plain_run {H : Host} {G : ServeEngine} {s t : Foreground}
    {ms : List ForegroundMessage} (hall : ms.all ForegroundMessage.isPlain = true)
    (h : follow (Foreground.step H G) s ms = some t) :
    Run (Foreground.step H G) (fun s m => s.plain H m = true) s ms t := by
  refine run_of_follow ?_ h
  intro m hm s
  have hplain := List.all_eq_true.mp hall m hm
  cases m with
  | command name cmd getIo netmapName setIo => exact hplain
  | start name f funnel getIo netmapName setIo => exact hplain
  | stop i netmapName setIo => rfl
  | daemon e =>
    have hstays : s.serving.daemon.switches H e = false :=
      switches_eq_false (by simpa [ForegroundMessage.isPlain] using hplain)
    simp [Foreground.plain, hstays]

/-- **A session that outlives an older one brings its port back.** -/
theorem foreground_serve_revives :
    ¬ ∀ (H : Host) (G : ServeEngine) (s t : Foreground) (ms : List ForegroundMessage), s.Fresh →
      Run (Foreground.step H G) (fun s m => s.plain H m = true) s ms t → (sessionPorts ms).Nodup →
      t.sessions = [] → t.stored = t.background.foldr applied s.stored := by
  intro hclaim
  obtain ⟨d₀, t, hboot, hrun, hsessions, hbackground, hempty, hrevived⟩ : ∃ d₀ t,
      Daemon.boot plainHost [] firstBoot = .ok d₀ ∧
      follow (Foreground.step plainHost proxyEngine) ⟨⟨d₀, fun _ => none⟩, [], []⟩ crossedSessions =
        some t ∧
      t.sessions = [] ∧ t.background = [] ∧
      (⟨⟨d₀, fun _ => none⟩, [], []⟩ : Foreground).stored = {} ∧
      (t.stored.tcp.get? "8080").isSome = true := ⟨_, _, rfl, rfl, rfl, rfl, rfl, rfl⟩
  have hundone := hclaim plainHost proxyEngine _ t crossedSessions ⟨rfl, rfl⟩
    (foreground_plain_run rfl hrun) (by decide) hsessions
  rw [hbackground, hempty] at hundone
  rw [hundone] at hrevived
  exact absurd hrevived (by decide)

end Tailnetd
