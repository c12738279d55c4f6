/-
  Serve edits that race.

  `tnet serve` and `tnet funnel` are clients of one document.  A command sends `GetServeConfig`,
  edits the answer, and sends `SetServeConfig` with the edited copy; the daemon replaces the stored
  config by it, with no look at what the copy was made from.  So an accepted set stores the edit of
  its own snapshot, and a command whose set was accepted between another command's get and set is
  lost.

  A session is the serving daemon with the commands under way.  Two things in it are kept for the
  reasoning only: the log of the accepted sets, newest first, and how long it was at each get.
-/
import Tailnetd.ServeEdits
import Tailnetd.PrefsMoves
import Tailnetd.Serving
import Tailnetd.Lib.ReadModifyWrite

namespace Tailnetd

open Machine ReadModifyWrite

/-! ## The session -/

/-- A command under way: the node's name it was given, its snapshot, whether its set was sent, and
    how many sets had been accepted at its get. -/
structure ServeClient where
  name : String
  cmd : ServeCommand
  snapshot : ServeConfig
  seen : Nat
  sent : Bool := false

/-- The config a command sends; a command that was refused on its arguments sends none. -/
def ServeClient.sends (c : ServeClient) : Option ServeConfig :=
  if c.sent then none
  else
    match c.cmd.edit c.name c.snapshot with
    | .ok copy => copy
    | .error _ => none

/-- The daemon, the commands under way in the order of their gets, and the accepted sets. -/
structure ServeSession where
  serving : ServingDaemon
  clients : List ServeClient := []
  log : List (Write (String × ServeCommand)) := []

/-- A message of a command at the daemon, or an event of the daemon itself. -/
inductive ServeMessage where
  /-- `GetServeConfig`, of a new command. -/
  | get (name : String) (cmd : ServeCommand) (io : ServeIo)
  /-- `SetServeConfig`, of the command at this place. -/
  | set (i : Nat) (netmapName : Option String) (io : ServeIo)
  | daemon (e : Event)

namespace ServeSession

/-- The stored config. -/
def stored (s : ServeSession) : ServeConfig := s.serving.serveConfig {}

/-- One message. -/
def step (H : Host) (G : ServeEngine) (s : ServeSession) : ServeMessage → Option ServeSession
  | .get name cmd io =>
    some { s with
      clients := s.clients ++
        [{ name, cmd, snapshot := s.serving.serveConfig io, seen := s.log.length }] }
  | .set i netmapName io =>
    s.clients[i]?.bind fun c => c.sends.map fun copy =>
      let result := s.serving.setServeConfig G copy netmapName io
      { serving := result.2
        clients := s.clients.set i { c with sent := true }
        log := if result.1.isOk then ⟨(c.name, c.cmd), c.seen⟩ :: s.log else s.log }
  | .daemon e =>
    (s.serving.daemon.step H e).map fun d => { s with serving := { s.serving with daemon := d } }

/-- The file is readable at a get, and the daemon stays with its profile. -/
def Plain (H : Host) (s : ServeSession) : ServeMessage → Prop
  | .get _ _ io => io.readConfig = true
  | .set _ _ _ => True
  | .daemon e => s.serving.daemon.switches H e = false

/-- Nothing is under way, and no set was accepted yet. -/
def Fresh (s : ServeSession) : Prop := s.clients = [] ∧ s.log = []

end ServeSession

/-- A command's edit of a config, which stays as it is where the command sends nothing. -/
def applied (edit : String × ServeCommand) (cfg : ServeConfig) : ServeConfig :=
  match edit.2.edit edit.1 cfg with
  | .ok (some copy) => copy
  | .ok none => cfg
  | .error _ => cfg

/-- Of this config the command sends an edit. -/
def SendsEdit (edit : String × ServeCommand) (cfg : ServeConfig) : Prop :=
  edit.2.edit edit.1 cfg = .ok (some (applied edit cfg))

theorem ServeClient.sends_eq {c : ServeClient} {copy : ServeConfig} (h : c.sends = some copy) :
    c.cmd.edit c.name c.snapshot = .ok (some copy) := by
  unfold ServeClient.sends at h
  split at h
  · cases h
  · split at h
    · rename_i heq
      rw [heq, h]
    · cases h

theorem applied_eq {edit : String × ServeCommand} {cfg copy : ServeConfig}
    (h : edit.2.edit edit.1 cfg = .ok (some copy)) : applied edit cfg = copy := by
  unfold applied
  rw [h]

/-! ## What the store holds -/

/-- The store is what the log makes of the config at the start, and every snapshot was the store
    when it was taken. -/
structure Accounts (start : ServeConfig) (s : ServeSession) : Prop where
  stored : s.stored = document applied start s.log
  edits : Each applied start SendsEdit s.log
  seen : ∀ c ∈ s.clients, c.seen ≤ s.log.length
  snapshot : ∀ c ∈ s.clients, c.snapshot = document applied start (before s.log c.seen)

namespace Accounts

variable {start : ServeConfig} {s : ServeSession}

/-- The account is about the snapshots of the clients, not about what they have sent. -/
theorem of_clients (h : Accounts start s) {clients : List ServeClient}
    (hclients : ∀ c ∈ clients, ∃ c₀ ∈ s.clients, c.seen = c₀.seen ∧ c.snapshot = c₀.snapshot) :
    Accounts start { s with clients := clients } := by
  refine ⟨h.stored, h.edits, ?_, ?_⟩
  · intro c hc
    obtain ⟨c₀, hc₀, hseen, -⟩ := hclients c hc
    rw [hseen]
    exact h.seen c₀ hc₀
  · intro c hc
    obtain ⟨c₀, hc₀, hseen, hsnapshot⟩ := hclients c hc
    rw [hseen, hsnapshot]
    exact h.snapshot c₀ hc₀

/-- **An accepted set stores the edit of its own snapshot.** -/
theorem accept (h : Accounts start s) {c : ServeClient}
    (hc : c ∈ s.clients) {copy : ServeConfig} (hcopy : c.sends = some copy)
    {serving : ServingDaemon} (hstored : serving.serveConfig {} = copy) :
    Accounts start { s with
      serving
      log := ⟨(c.name, c.cmd), c.seen⟩ :: s.log } := by
  have hedit := c.sends_eq hcopy
  rw [h.snapshot c hc] at hedit
  have happlied : applied (c.name, c.cmd) _ = copy := applied_eq hedit
  refine ⟨?_, ?_, ?_, ?_⟩
  · rw [document, happlied]
    exact hstored
  · refine ⟨?_, h.edits⟩
    unfold SendsEdit
    rw [happlied]
    exact hedit
  · intro c' hc'
    exact Nat.le_succ_of_le (h.seen c' hc')
  · intro c' hc'
    rw [before_cons _ (h.seen c' hc')]
    exact h.snapshot c' hc'

end Accounts

namespace ServeSession

variable {H : Host} {G : ServeEngine} {s t : ServeSession}

/-- What a set can do: it is refused, or the config that was sent is stored. -/
theorem setServeConfig_stored (serving : ServingDaemon) (cfg : ServeConfig)
    (netmapName : Option String) (io : ServeIo) :
    ((serving.setServeConfig G cfg netmapName io).1.isOk = false ∧
      (serving.setServeConfig G cfg netmapName io).2 = serving) ∨
    ((serving.setServeConfig G cfg netmapName io).1.isOk = true ∧
      (serving.setServeConfig G cfg netmapName io).2.serveConfig {} = cfg) := by
  rcases ServingDaemon.setServeConfig_cases G serving cfg netmapName io with ⟨f, heq⟩ | ⟨-, heq⟩
  · rw [heq]
    exact .inl ⟨rfl, rfl⟩
  · rw [heq]
    refine .inr ⟨rfl, ?_⟩
    dsimp only [ServingDaemon.serveConfig]
    rw [Function.update_self]
    rfl

/-- A get answers with the store. -/
theorem accounts_get {start : ServeConfig} (h : Accounts start s) (name : String)
    (cmd : ServeCommand) {io : ServeIo} (hread : io.readConfig = true)
    (hstep : s.step H G (.get name cmd io) = some t) : Accounts start t := by
  obtain rfl := Option.some.inj hstep
  have hsnapshot : s.serving.serveConfig io = s.stored := by
    unfold stored ServingDaemon.serveConfig
    rw [hread]
  refine ⟨h.stored, h.edits, ?_, ?_⟩
  · intro c hc
    rcases List.mem_append.mp hc with hold | hnew
    · exact h.seen c hold
    · obtain rfl := List.mem_singleton.mp hnew
      exact Nat.le_refl _
  · intro c hc
    rcases List.mem_append.mp hc with hold | hnew
    · exact h.snapshot c hold
    · obtain rfl := List.mem_singleton.mp hnew
      dsimp only
      rw [before_length, hsnapshot, h.stored]

theorem accounts_set {start : ServeConfig} (h : Accounts start s) {i : Nat}
    {netmapName : Option String} {io : ServeIo}
    (hstep : s.step H G (.set i netmapName io) = some t) : Accounts start t := by
  obtain ⟨c, hget, hsends⟩ := Option.bind_eq_some_iff.mp hstep
  obtain ⟨copy, hcopy, rfl⟩ := Option.map_eq_some_iff.mp hsends
  have hc : c ∈ s.clients := List.mem_of_getElem? hget
  -- a client after the set is one from before, up to the mark that it has sent
  have hclients : ∀ c' ∈ s.clients.set i { c with sent := true },
      ∃ c₀ ∈ s.clients, c'.seen = c₀.seen ∧ c'.snapshot = c₀.snapshot := by
    intro c' hc'
    rcases List.mem_or_eq_of_mem_set hc' with hold | rfl
    · exact ⟨c', hold, rfl, rfl⟩
    · exact ⟨c, hc, rfl, rfl⟩
  rcases setServeConfig_stored (G := G) s.serving copy netmapName io with
    ⟨hrefused, hkept⟩ | ⟨haccepted, hstored⟩
  · dsimp only
    rw [hrefused, hkept]
    exact h.of_clients hclients
  · dsimp only
    rw [haccepted]
    exact (h.accept hc hcopy hstored).of_clients hclients

/-- What the daemon does while it stays with its profile leaves the store alone. -/
theorem accounts_daemon {start : ServeConfig} (h : Accounts start s) {e : Event}
    (hstays : s.serving.daemon.switches H e = false)
    (hstep : s.step H G (.daemon e) = some t) : Accounts start t := by
  obtain ⟨d, hd, rfl⟩ := Option.map_eq_some_iff.mp hstep
  have hprofile : d.backend.currentProfile = s.serving.daemon.backend.currentProfile := by
    rcases step_profile hd with ⟨hswitch, -⟩ | ⟨-, hprofile⟩
    · rw [hstays] at hswitch
      cases hswitch
    · exact hprofile
  refine ⟨?_, h.edits, h.seen, h.snapshot⟩
  rw [← h.stored]
  dsimp only [stored, ServingDaemon.serveConfig]
  rw [hprofile]

theorem accounts_step {start : ServeConfig} {m : ServeMessage} (h : Accounts start s)
    (hplain : s.Plain H m) (hstep : s.step H G m = some t) : Accounts start t := by
  cases m with
  | get name cmd io => exact accounts_get h name cmd hplain hstep
  | set i netmapName io => exact accounts_set h hstep
  | daemon e => exact accounts_daemon h hplain hstep

theorem Fresh.accounts (h : s.Fresh) : Accounts s.stored s := by
  obtain ⟨hclients, hlog⟩ := h
  refine ⟨?_, ?_, ?_, ?_⟩
  · rw [hlog, document]
  · rw [hlog]
    trivial
  · rw [hclients]
    intro c hc
    cases hc
  · rw [hclients]
    intro c hc
    cases hc

end ServeSession

/-! ## What stays of a command -/

/-- Edits of other ports leave a port as it was. -/
theorem foldr_applied_sameAt {p : UInt16} {later : List (String × ServeCommand)}
    (h : ∀ l ∈ later, l.2.port ≠ p) (cfg : ServeConfig) :
    SameAt p cfg (later.foldr applied cfg) := by
  induction later with
  | nil => exact .refl p cfg
  | cons l later ih =>
    have hrest := ih fun l' hl' => h l' (List.mem_cons_of_mem _ hl')
    have hl : p ≠ l.2.port := (h l List.mem_cons_self).symm
    rw [List.foldr_cons]
    refine hrest.trans ?_
    unfold applied
    split
    · rename_i heq
      exact (edit_makes heq).sameAt hl
    · exact .refl _ _
    · exact .refl _ _

/-- What a kept command reports is so of the store, where no later kept command is about its
    port. -/
theorem Accounts.reports {start : ServeConfig} {s : ServeSession} (h : Accounts start s)
    {later earlier : List (String × ServeCommand)} {k : String × ServeCommand}
    (hkept : kept s.log = later ++ k :: earlier) (hother : ∀ l ∈ later, l.2.port ≠ k.2.port) :
    k.2.effect.Reports s.stored k.2.port := by
  have hsends := each_kept h.edits hkept
  unfold SendsEdit at hsends
  have hreports := (edit_makes hsends).reports
  rw [h.stored, document_eq_kept, hkept, List.foldr_append, List.foldr_cons]
  exact hreports.congr (foldr_applied_sameAt hother _)

/-- **What the store holds after any interleaving.**  It is the kept edits, applied one after
    another in the order of their sets: the newest accepted one, and those its snapshot had.  They
    are all the accepted ones where no set was accepted between a command's get and its own.  What a
    kept command reported of its port stands until a kept command about that port. -/
theorem serve_edits_kept {H : Host} {G : ServeEngine} {s t : ServeSession} {ms : List ServeMessage}
    (hfresh : s.Fresh) (hrun : Run (ServeSession.step H G) (ServeSession.Plain H) s ms t) :
    t.stored = (kept t.log).foldr applied s.stored ∧
      (kept t.log).Sublist (t.log.map Write.edit) ∧
      (kept t.log).head? = (t.log.map Write.edit).head? ∧
      (Serial t.log → kept t.log = t.log.map Write.edit) ∧
      ∀ later k earlier, kept t.log = later ++ k :: earlier →
        (∀ l ∈ later, l.2.port ≠ k.2.port) → k.2.effect.Reports t.stored k.2.port := by
  have haccounts : Accounts s.stored t :=
    hrun.invariant (fun _ _ _ h hplain hstep => ServeSession.accounts_step h hplain hstep)
      hfresh.accounts
  refine ⟨?_, kept_sublist _, kept_head _, kept_of_serial, ?_⟩
  · rw [haccounts.stored, document_eq_kept]
  · intro later k earlier hkept hother
    exact haccounts.reports hkept hother

/-- A message that is plain in every session. -/
def ServeMessage.isPlain : ServeMessage → Bool
  | .get _ _ io => io.readConfig
  | .set _ _ _ => true
  | .daemon e => !e.changesProfile

/-- A replay of such messages is a run of plain steps. -/
theorem plain_run {H : Host} {G : ServeEngine} {s t : ServeSession} {ms : List ServeMessage}
    (hall : ms.all ServeMessage.isPlain = true)
    (h : follow (ServeSession.step H G) s ms = some t) :
    Run (ServeSession.step H G) (ServeSession.Plain H) s ms t := by
  refine run_of_follow ?_ h
  intro m hm s
  have hplain := List.all_eq_true.mp hall m hm
  cases m with
  | get name cmd io => exact hplain
  | set i netmapName io => trivial
  | daemon e =>
    refine switches_eq_false ?_
    simpa [ServeMessage.isPlain] using hplain

/-- The node comes up. -/
def comesUp : List ServeMessage :=
  [.daemon (.up {} none none {} {}), .daemon (.finish 0 (some .running) {})]

/-- Two commands about different ports. -/
def serve8080 : ServeCommand := .tcp 8080 "3000"

def serve9090 : ServeCommand := .tcp 9090 "4000"

/-- One after the other. -/
def takingTurns : List ServeMessage :=
  comesUp ++ [.get "node.ts.net." serve8080 {}, .set 0 (some "node.ts.net.") {},
    .get "node.ts.net." serve9090 {}, .set 1 (some "node.ts.net.") {}]

/-- With both gets before both sets. -/
def racing : List ServeMessage :=
  comesUp ++ [.get "node.ts.net." serve8080 {}, .get "node.ts.net." serve9090 {},
    .set 0 (some "node.ts.net.") {}, .set 1 (some "node.ts.net.") {}]

/-- Commands that take turns both keep their ports. -/
theorem serve_edits_kept_takingTurns :
    ∃ d₀ t, Daemon.boot plainHost [] firstBoot = .ok d₀ ∧
      follow (ServeSession.step plainHost proxyEngine) { serving := ⟨d₀, fun _ => none⟩ }
        takingTurns = some t ∧
      t.stored = applied ("node.ts.net.", serve9090) (applied ("node.ts.net.", serve8080) {}) ∧
      t.stored.Serves 8080 ∧ t.stored.Serves 9090 := by
  obtain ⟨d₀, t, hboot, hrun, hlog, hempty⟩ : ∃ d₀ t,
      Daemon.boot plainHost [] firstBoot = .ok d₀ ∧
      follow (ServeSession.step plainHost proxyEngine) { serving := ⟨d₀, fun _ => none⟩ }
        takingTurns = some t ∧
      t.log = [⟨("node.ts.net.", serve9090), 1⟩, ⟨("node.ts.net.", serve8080), 0⟩] ∧
      ({ serving := ⟨d₀, fun _ => none⟩ } : ServeSession).stored = {} := ⟨_, _, rfl, rfl, rfl, rfl⟩
  obtain ⟨hstored, -, -, hserial, hreports⟩ :=
    serve_edits_kept ⟨rfl, rfl⟩ (plain_run rfl hrun)
  have hkept : kept t.log = [("node.ts.net.", serve9090), ("node.ts.net.", serve8080)] := by
    rw [hserial (by rw [hlog]; exact ⟨rfl, rfl, trivial⟩), hlog]
    rfl
  refine ⟨d₀, t, hboot, hrun, ?_, ?_, ?_⟩
  · rw [hstored, hkept, hempty]
    rfl
  · refine (hreports [("node.ts.net.", serve9090)] ("node.ts.net.", serve8080) [] hkept ?_).1
    intro l hl
    rw [List.mem_singleton.mp hl]
    decide
  · exact (hreports [] ("node.ts.net.", serve9090) [("node.ts.net.", serve8080)] hkept
      (fun l hl => by cases hl)).1

/-- **An overtaken command is lost**: both sets are accepted, and the first port is gone. -/
theorem serve_edit_overtaken :
    ¬ ∀ (H : Host) (G : ServeEngine) (s t : ServeSession) (ms : List ServeMessage), s.Fresh →
      Run (ServeSession.step H G) (ServeSession.Plain H) s ms t →
      t.stored = (t.log.map Write.edit).foldr applied s.stored := by
  intro hclaim
  obtain ⟨d₀, t, hboot, hrun, hlog, hempty, hlost⟩ : ∃ d₀ t,
      Daemon.boot plainHost [] firstBoot = .ok d₀ ∧
      follow (ServeSession.step plainHost proxyEngine) { serving := ⟨d₀, fun _ => none⟩ }
        racing = some t ∧
      t.log = [⟨("node.ts.net.", serve9090), 0⟩, ⟨("node.ts.net.", serve8080), 0⟩] ∧
      ({ serving := ⟨d₀, fun _ => none⟩ } : ServeSession).stored = {} ∧
      t.stored.tcp.get? "8080" = none := ⟨_, _, rfl, rfl, rfl, rfl, rfl⟩
  have hserial := hclaim plainHost proxyEngine _ t racing ⟨rfl, rfl⟩ (plain_run rfl hrun)
  rw [hlog, hempty] at hserial
  rw [hserial] at hlost
  exact absurd hlost (by decide)

end Tailnetd
