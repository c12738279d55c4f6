/-
  `tnet ssh` (`tnet.rs`).

  The command resolves its target against the netmap and hands the system's `ssh` a destination and
  a file of pinned host keys.  The username is what the caller typed and is checked; the host is the
  name control gave the peer, and the file is made of that name and of the keys control sent for it.

  1. The destination is `user@host`, or the host alone.  A checked username keeps the destination
     from starting with a dash; without one the host stands first, and nothing looks at it.
  2. The file holds one line for each accepted key and safe identifier (`lines_renderKnownHosts`).
     A safe identifier is one token, so it is the line's host field; whether that field means the
     identifier alone depends on characters that are not looked at, and on its not being
     `[host]:port`.

  `ssh_injectionFree_iff` says when a run that reaches `ssh` is free of both.
-/
import Tailnetd.StatusReport
import Tailnetd.Lib.TextLines
import Tailnetd.Lib.HostPatterns

namespace Tailnetd

open TextLines HostPatterns

/-! ## The target -/

/-- `str::split_once`. -/
def splitOnce (sep : Char) (s : String) : Option (String × String) :=
  if sep ∈ s.toList then
    some (String.ofList (s.toList.takeWhile (· != sep)),
      String.ofList ((s.toList.dropWhile (· != sep)).drop 1))
  else none

/-- A text is cut at its first separator. -/
theorem splitOnce_eq_some_iff {sep : Char} {s key value : String} :
    splitOnce sep s = some (key, value) ↔
      s.toList = key.toList ++ sep :: value.toList ∧ sep ∉ key.toList := by
  unfold splitOnce
  split
  · next hmem =>
    obtain ⟨front, back, hsplit, hfront⟩ := List.eq_append_cons_of_mem hmem
    have hkeep : ∀ c ∈ front, (c != sep) = true := by
      intro c hc
      exact bne_iff_ne.mpr fun heq => hfront (heq ▸ hc)
    have htake : s.toList.takeWhile (· != sep) = front := by
      rw [hsplit, List.takeWhile_append_of_pos hkeep]
      simp
    have hdrop : (s.toList.dropWhile (· != sep)).drop 1 = back := by
      rw [hsplit, List.dropWhile_append_of_pos hkeep]
      simp
    rw [htake, hdrop, Option.some.injEq, Prod.mk.injEq]
    constructor
    · rintro ⟨rfl, rfl⟩
      rw [String.toList_ofList, String.toList_ofList]
      exact ⟨hsplit, hfront⟩
    · rintro ⟨hcut, hkey⟩
      obtain ⟨hfront', hback'⟩ := Delimited.first_unique hfront hkey (hsplit.symm.trans hcut)
      rw [hfront', hback', String.ofList_toList, String.ofList_toList]
      exact ⟨rfl, rfl⟩
  · next hnone =>
    constructor
    · intro h
      cases h
    · rintro ⟨hcut, -⟩
      exact absurd (hcut ▸ List.mem_append_right _ List.mem_cons_self) hnone

/-- The whitespace a username or a host identifier is searched for. -/
def isLineBlank (c : Char) : Bool := c == ' ' || c == '\t' || c == '\n' || c == '\r'

/-- The two halves of `[user@]host`. -/
def cutSshTarget (target : String) : Option String × String :=
  match splitOnce '@' target with
  | some (u, h) => (some u, h)
  | none => (none, target)

/-- Why a username that was given is refused. -/
def sshUserRefusal (target user : String) : Option String :=
  if user = "" then
    some ("ssh: empty user in target " ++ quoted target ++
      " (use `host` to let your ssh_config decide)")
  else if startsWith "-" user || user.toList.any fun c => isLineBlank c || c == '@' then
    some ("ssh: refusing unsafe username " ++ quoted user ++
      " (leads with '-' or contains whitespace/@) — pass an explicit `user@host` with a " ++
      "valid username")
  else none

/-- `split_ssh_target`. -/
def splitSshTarget (target : String) : Except String (Option String × String) :=
  let (user, host) := cutSshTarget target
  if host = "" then
    .error ("ssh: empty host in target " ++ quoted target ++ " (expected `[user@]host`)")
  else
    match user.bind (sshUserRefusal target) with
    | some refusal => .error refusal
    | none => .ok (user, host)

/-- The peer answers to this name or address. -/
def StatusPeer.answersTo (host : String) (p : StatusPeer) : Bool :=
  p.name == host || p.ipv4 == host || p.ipv6 == some host

/-- The host `ssh` is sent to: the display name, or the IPv4 address of a peer without one. -/
def sshHost (p : StatusPeer) : String := if p.name = "" then p.ipv4 else p.name

/-- `ssh_destination`. -/
def sshDestination (user : Option String) (host : String) : String :=
  match user with
  | some u => u ++ "@" ++ host
  | none => host

/-! ## The pinned host keys -/

/-- `is_safe_known_hosts_host`. -/
def isSafeKnownHostsHost (h : String) : Bool :=
  h != "" && !startsWith "#" h && !h.toList.any isLineBlank

/-- The identifiers the peer's keys are pinned for. -/
def knownHostNames (p : StatusPeer) : List String :=
  (p.name :: p.ipv4 :: p.ipv6.toList).filter isSafeKnownHostsHost

/-- The keys that are written: trimmed, not empty, and of one line. -/
def acceptedKeys (p : StatusPeer) : List String :=
  (p.sshHostKeys.map trim).filter fun key =>
    key != "" && !key.toList.any fun c => c == '\n' || c == '\r'

/-- A line that pins a key for a host. -/
def pinnedLine (host key : String) : List Char := host.toList ++ ' ' :: key.toList

/-- `render_known_hosts`. -/
def renderKnownHosts (p : StatusPeer) : String :=
  String.ofList <| (acceptedKeys p).flatMap fun key =>
    (knownHostNames p).flatMap fun host => pinnedLine host key ++ ['\n']

/-! ## The command -/

/-- What `tnet` finds around it. -/
structure SshEnv where
  /-- `PATH`, `XDG_CONFIG_HOME` and `HOME`. -/
  path : Option String
  xdgConfigHome : Option String
  home : Option String
  isFile : String → Bool
  /-- Why a directory cannot be created, or a file not be opened or written. -/
  createDir : String → Option String
  openFile : String → Option String
  writeFile : String → Option String
  currentExe : Except String String

/-- `PathBuf::join` with a relative name. -/
def joinPath (dir name : String) : String :=
  if dir = "" ∨ endsWith "/" dir then dir ++ name else dir ++ "/" ++ name

/-- `find_ssh`. -/
def findSsh (env : SshEnv) : Except String String :=
  match env.path with
  | none => .error "PATH is not set, cannot locate `ssh`"
  | some path =>
    match ((path.toList.splitOn ':').map fun dir => joinPath (String.ofList dir) "ssh").find?
        env.isFile with
    | some candidate => .ok candidate
    | none => .error "could not find an `ssh` binary on PATH; install OpenSSH to use `tnet ssh`"

/-- `ssh_conf_dir`. -/
def sshConfDir (env : SshEnv) : Except String String :=
  match env.xdgConfigHome.filter (· != ""), env.home.filter (· != "") with
  | some x, _ => .ok (joinPath x "tailscale")
  | none, some h => .ok (joinPath (joinPath h ".config") "tailscale")
  | none, none => .error "neither XDG_CONFIG_HOME nor HOME is set; cannot place ssh_known_hosts"

/-- `write_ssh_known_hosts`: the path written, and what is written there. -/
def writeSshKnownHosts (env : SshEnv) (p : StatusPeer) : Except String (String × String) :=
  match sshConfDir env with
  | .error e => .error ("resolving the tailscale config directory: " ++ e)
  | .ok dir =>
    match env.createDir dir with
    | some e => .error ("creating " ++ dir ++ ": " ++ e)
    | none =>
      let path := joinPath dir "ssh_known_hosts"
      match env.openFile path, env.writeFile path with
      | some e, _ => .error ("opening " ++ path ++ ": " ++ e)
      | none, some e => .error ("writing " ++ path ++ ": " ++ e)
      | none, none => .ok (path, renderKnownHosts p)

/-- `shell_quote`. -/
def shellQuote (s : String) : String :=
  String.ofList ('\'' :: s.toList.flatMap (fun c => if c = '\'' then "'\\''".toList else [c]) ++
    ['\''])

/-- The `ssh` that replaces the process, and the file of pinned keys it is pointed at. -/
structure SshCommand where
  program : String
  options : List String
  destination : String
  extraArgs : List String
  knownHosts : String
  deriving DecidableEq, Repr

/-- The arguments, as `ssh` gets them. -/
def SshCommand.args (cmd : SshCommand) : List String :=
  cmd.options ++ cmd.destination :: cmd.extraArgs

/-- The user and the peer a target stands for. -/
def resolveSshTarget (status : StatusReport) (target : String) :
    Except String (Option String × StatusPeer) :=
  match splitSshTarget target with
  | .error e => .error e
  | .ok (user, host) =>
    match status.peers.find? (·.answersTo host) with
    | none =>
      .error ("ssh: no peer matching " ++ quoted host ++
        " in the current netmap (run `tnet status`)")
    | some peer =>
      if peer.sshHostKeys.isEmpty then
        .error ("ssh: peer " ++ quoted host ++ " advertises no SSH host keys (it is not running " ++
          "Tailscale SSH, or control has not provisioned them) — cannot verify the host key, " ++
          "refusing to connect")
      else .ok (user, peer)

/-- `run_ssh`, from the daemon's status report to the exec. -/
def runSsh (env : SshEnv) (explicitSocket : Option String) (status : StatusReport)
    (target : String) (extraArgs : List String) : Except String SshCommand :=
  match resolveSshTarget status target with
  | .error e => .error e
  | .ok (user, peer) =>
    match writeSshKnownHosts env peer with
    | .error e => .error ("writing the pinned ssh_known_hosts file: " ++ e)
    | .ok (knownHostsPath, knownHosts) =>
      match findSsh env with
      | .error e => .error ("locating the system `ssh` binary: " ++ e)
      | .ok sshBin =>
        match env.currentExe with
        | .error e => .error ("resolving the running `tnet` executable path: " ++ e)
        | .ok selfExe =>
          let proxyCommand :=
            match explicitSocket with
            | some s =>
              "ProxyCommand " ++ shellQuote selfExe ++ " --socket=" ++ shellQuote s ++ " nc %h %p"
            | none => "ProxyCommand " ++ shellQuote selfExe ++ " nc %h %p"
          .ok
            { program := sshBin
              options :=
                ["-o", "UpdateHostKeys no", "-o", "StrictHostKeyChecking yes",
                  "-o", "CanonicalizeHostname no", "-o", "UserKnownHostsFile " ++ knownHostsPath,
                  "-o", proxyCommand]
              destination := sshDestination user (sshHost peer)
              extraArgs := extraArgs
              knownHosts := knownHosts }

/-! ## What is pinned -/

/-- The identifiers and keys that are paired, in the order of the file. -/
def pinnedPairs (p : StatusPeer) : List (String × String) :=
  (acceptedKeys p).flatMap fun key => (knownHostNames p).map fun host => (host, key)

theorem mem_pinnedPairs {p : StatusPeer} {host key : String} :
    (host, key) ∈ pinnedPairs p ↔ key ∈ acceptedKeys p ∧ host ∈ knownHostNames p := by
  simp [pinnedPairs]

theorem renderKnownHosts_toList (p : StatusPeer) :
    (renderKnownHosts p).toList =
      unlines ((pinnedPairs p).map fun pair => pinnedLine pair.1 pair.2) := by
  simp only [renderKnownHosts, pinnedPairs, unlines, String.toList_ofList, List.map_flatMap,
    List.flatMap_assoc, List.map_map, List.flatMap_map]
  rfl

/-- A safe identifier is one token, and its line no comment. -/
theorem of_mem_knownHostNames {p : StatusPeer} {host : String} (h : host ∈ knownHostNames p) :
    host.toList ≠ [] ∧ host.toList.head? ≠ some '#' ∧ ∀ c ∈ host.toList, isLineBlank c = false := by
  have hsafe := (List.mem_filter.mp h).2
  simp only [isSafeKnownHostsHost, Bool.and_eq_true, bne_iff_ne, Bool.not_eq_true',
    List.any_eq_false] at hsafe
  obtain ⟨⟨hne, hcomment⟩, hblank⟩ := hsafe
  refine ⟨mt String.toList_eq_nil_iff.mp hne, ?_, fun c hc => eq_false_of_ne_true (hblank c hc)⟩
  intro hhead
  obtain ⟨rest, hlist⟩ := List.head?_eq_some_iff.mp hhead
  rw [startsWith, hlist] at hcomment
  simp at hcomment

/-- An accepted key is one line. -/
theorem newline_notMem_key {p : StatusPeer} {key : String} (h : key ∈ acceptedKeys p) :
    '\n' ∉ key.toList := by
  have haccepted := (List.mem_filter.mp h).2
  intro hmem
  simp only [Bool.and_eq_true, Bool.not_eq_true', List.any_eq_false] at haccepted
  exact haccepted.2 '\n' hmem rfl

theorem newline_notMem_pinnedLine {p : StatusPeer} {host key : String}
    (h : (host, key) ∈ pinnedPairs p) : '\n' ∉ pinnedLine host key := by
  obtain ⟨hkey, hhost⟩ := mem_pinnedPairs.mp h
  have hblank := (of_mem_knownHostNames hhost).2.2
  intro hmem
  obtain hmem | hmem := List.mem_append.mp hmem
  · exact absurd (hblank _ hmem) (by decide)
  · obtain heq | hmem := List.mem_cons.mp hmem
    · exact absurd heq (by decide)
    · exact newline_notMem_key hkey hmem

/-- **The file is one line for each accepted key and safe identifier.** -/
theorem lines_renderKnownHosts (p : StatusPeer) :
    lines (renderKnownHosts p).toList =
      (pinnedPairs p).map fun pair => pinnedLine pair.1 pair.2 := by
  rw [renderKnownHosts_toList]
  refine lines_unlines fun row hrow => ?_
  obtain ⟨pair, hpair, rfl⟩ := List.mem_map.mp hrow
  exact newline_notMem_pinnedLine hpair

/-- The identifier is what `ssh` reads as the host field of its line. -/
theorem hostField_pinnedLine {p : StatusPeer} {host key : String} (h : host ∈ knownHostNames p) :
    hostField (pinnedLine host key) = some host.toList := by
  obtain ⟨hne, hcomment, hblank⟩ := of_mem_knownHostNames h
  have hplain : ∀ c ∈ host.toList, isBlank c = false := by
    intro c hc
    have hc := hblank c hc
    simp only [isLineBlank, Bool.or_eq_false_iff] at hc
    simp [isBlank, hc]
  obtain ⟨first, rest, hlist⟩ := List.exists_cons_of_ne_nil hne
  rw [hlist] at hcomment hplain
  have hfirst : isBlank first = false := hplain first List.mem_cons_self
  have hkeep : ∀ c ∈ first :: rest, (!isBlank c) = true := by
    intro c hc
    rw [hplain c hc, Bool.not_false]
  unfold hostField pinnedLine
  rw [hlist, List.cons_append, List.dropWhile_cons_of_neg (by simp [hfirst])]
  dsimp only
  rw [if_neg (by simpa using hcomment), ← List.cons_append, List.takeWhile_append_of_pos hkeep,
    List.takeWhile_cons_of_neg (by decide), List.append_nil]

/-! ## What reaches `ssh` -/

/-- A destination, and pins that each mean one host. -/
structure InjectionFree (p : StatusPeer) (cmd : SshCommand) : Prop where
  /-- `ssh` takes it for no option. -/
  destination : startsWith "-" cmd.destination = false
  oneWord : ∀ c ∈ cmd.destination.toList, isWhitespace c = false
  lines : lines cmd.knownHosts.toList = (pinnedPairs p).map fun pair => pinnedLine pair.1 pair.2
  onlyNames : ∀ pair ∈ pinnedPairs p, ∃ field,
    hostField (pinnedLine pair.1 pair.2) = some field ∧ OnlyNames field pair.1.toList

/-- The user and the peer bring no harm with them. -/
structure Harmless (user : Option String) (p : StatusPeer) : Prop where
  userWord : ∀ u, user = some u → ∀ c ∈ u.toList, isWhitespace c = false
  hostWord : ∀ c ∈ (sshHost p).toList, isWhitespace c = false
  /-- Without a user the host comes first. -/
  hostFirst : user = none → startsWith "-" (sshHost p) = false
  /-- No identifier is a pattern, a list, a marker or a host with a port, when there is a key to pin
      for it. -/
  plainHosts : acceptedKeys p ≠ [] → ∀ host ∈ knownHostNames p, isPlainHost host.toList = true

/-- What a run that reaches `ssh` hands over. -/
theorem runSsh_reached {env : SshEnv} {socket : Option String} {status : StatusReport}
    {target : String} {extra : List String} {cmd : SshCommand}
    (h : runSsh env socket status target extra = .ok cmd) :
    ∃ user peer, resolveSshTarget status target = .ok (user, peer) ∧
      cmd.destination = sshDestination user (sshHost peer) ∧
      cmd.knownHosts = renderKnownHosts peer := by
  unfold runSsh at h
  cases hresolve : resolveSshTarget status target with
  | error e => rw [hresolve] at h; cases h
  | ok found =>
    obtain ⟨user, peer⟩ := found
    rw [hresolve] at h
    dsimp only at h
    refine ⟨user, peer, rfl, ?_⟩
    cases hwrite : writeSshKnownHosts env peer with
    | error e => rw [hwrite] at h; cases h
    | ok written =>
      obtain ⟨path, text⟩ := written
      have htext : text = renderKnownHosts peer := by
        unfold writeSshKnownHosts at hwrite
        split at hwrite
        · cases hwrite
        · split at hwrite
          · cases hwrite
          · dsimp only at hwrite
            split at hwrite
            · cases hwrite
            · cases hwrite
            · exact (Prod.mk.inj (Except.ok.inj hwrite)).2.symm
      rw [hwrite] at h
      dsimp only at h
      split at h
      · cases h
      · split at h
        · cases h
        · obtain rfl := Except.ok.inj h
          exact ⟨rfl, htext⟩

/-- A username that was taken is not empty and leads with no dash. -/
theorem user_of_splitSshTarget {target u host : String}
    (h : splitSshTarget target = .ok (some u, host)) : u ≠ "" ∧ startsWith "-" u = false := by
  unfold splitSshTarget at h
  dsimp only at h
  split at h
  · cases h
  · split at h
    · cases h
    · rename_i hsafe
      rw [(Prod.mk.inj (Except.ok.inj h)).1, Option.bind_some] at hsafe
      unfold sshUserRefusal at hsafe
      split at hsafe
      · cases hsafe
      · rename_i hne
        split at hsafe
        · cases hsafe
        · rename_i hsound
          rw [Bool.or_eq_true, not_or] at hsound
          exact ⟨hne, eq_false_of_ne_true hsound.1⟩

theorem user_of_resolveSshTarget {status : StatusReport} {target u : String} {peer : StatusPeer}
    (h : resolveSshTarget status target = .ok (some u, peer)) :
    u ≠ "" ∧ startsWith "-" u = false := by
  unfold resolveSshTarget at h
  cases hsplit : splitSshTarget target with
  | error e => rw [hsplit] at h; cases h
  | ok found =>
    obtain ⟨user, host⟩ := found
    rw [hsplit] at h
    dsimp only at h
    split at h
    · cases h
    · split at h
      · cases h
      · obtain ⟨rfl, -⟩ := Prod.mk.inj (Except.ok.inj h)
        exact user_of_splitSshTarget hsplit

/-- A checked username stands first, so only a bare host can make the destination an option. -/
theorem startsWith_sshDestination {user : Option String} (host : String)
    (h : ∀ u, user = some u → u ≠ "" ∧ startsWith "-" u = false) :
    startsWith "-" (sshDestination user host) = false ↔
      (user = none → startsWith "-" host = false) := by
  cases user with
  | none => exact ⟨fun hhost _ => hhost, fun hhost => hhost rfl⟩
  | some u =>
    obtain ⟨hne, hdash⟩ := h u rfl
    refine ⟨fun _ hnone => absurd hnone (Option.some_ne_none u), fun _ => ?_⟩
    obtain ⟨first, rest, hlist⟩ :=
      List.exists_cons_of_ne_nil (mt String.toList_eq_nil_iff.mp hne)
    have hhead : ∀ s : String, ∀ more, s.toList = first :: more →
        startsWith "-" s = ('-' == first) := by
      intro s more hs
      rw [startsWith, hs]
      exact Bool.and_true _
    rw [hhead u rest hlist] at hdash
    rw [sshDestination, hhead _ (rest ++ '@' :: host.toList) (by simp [hlist]), hdash]

theorem oneWord_sshDestination (user : Option String) (host : String) :
    (∀ c ∈ (sshDestination user host).toList, isWhitespace c = false) ↔
      (∀ u, user = some u → ∀ c ∈ u.toList, isWhitespace c = false) ∧
        ∀ c ∈ host.toList, isWhitespace c = false := by
  cases user with
  | none => simp [sshDestination]
  | some u =>
    have hat : isWhitespace '@' = false := by decide
    constructor
    · intro hall
      constructor
      · intro v hv c hc
        obtain rfl := Option.some.inj hv
        exact hall c (by simp [sshDestination, hc])
      · intro c hc
        exact hall c (by simp [sshDestination, hc])
    · rintro ⟨huser, hhost⟩ c hc
      rw [sshDestination, String.toList_append, String.toList_append] at hc
      obtain hc | hc := List.mem_append.mp hc
      · obtain hc | hc := List.mem_append.mp hc
        · exact huser u rfl c hc
        · rw [List.mem_singleton.mp hc]
          exact hat
      · exact hhost c hc

/-- **When `tnet ssh` is free of injection.**  A run that reaches `ssh` hands over a destination
    that is one word and no option, and pins that each mean one host, exactly when the user and the
    name control gave the peer bring no harm.  The guards cover the username, the line structure of
    the file and nothing else: a bare target puts the peer's name first, and the name may be a
    pattern or another host with its port. -/
theorem ssh_injectionFree_iff {env : SshEnv} {socket : Option String} {status : StatusReport}
    {target : String} {extra : List String} {cmd : SshCommand}
    (h : runSsh env socket status target extra = .ok cmd) :
    ∃ user peer, resolveSshTarget status target = .ok (user, peer) ∧
      (InjectionFree peer cmd ↔ Harmless user peer) := by
  obtain ⟨user, peer, hresolve, hdest, hpins⟩ := runSsh_reached h
  refine ⟨user, peer, hresolve, ?_⟩
  -- a pin is read back as its host, so it means only this host when the host is a plain name
  have hnames : (∀ pair ∈ pinnedPairs peer, ∃ field,
        hostField (pinnedLine pair.1 pair.2) = some field ∧ OnlyNames field pair.1.toList) ↔
      (acceptedKeys peer ≠ [] → ∀ host ∈ knownHostNames peer, isPlainHost host.toList = true) := by
    constructor
    · intro hall hkeys host hhost
      obtain ⟨key, hkey⟩ := List.exists_mem_of_ne_nil _ hkeys
      obtain ⟨field, hfield, honly⟩ := hall (host, key) (mem_pinnedPairs.mpr ⟨hkey, hhost⟩)
      rw [hostField_pinnedLine hhost] at hfield
      obtain rfl := Option.some.inj hfield
      exact (onlyNames_self_iff _).mp honly
    · rintro hall ⟨host, key⟩ hpair
      obtain ⟨hkey, hhost⟩ := mem_pinnedPairs.mp hpair
      exact ⟨host.toList, hostField_pinnedLine hhost,
        (onlyNames_self_iff _).mpr (hall (List.ne_nil_of_mem hkey) host hhost)⟩
  -- the guard of the username leaves the dash to the host, and the host is not guarded
  have huser : ∀ u, user = some u → u ≠ "" ∧ startsWith "-" u = false := by
    rintro u rfl
    exact user_of_resolveSshTarget hresolve
  have hdash := startsWith_sshDestination (sshHost peer) huser
  have hword := oneWord_sshDestination user (sshHost peer)
  constructor
  · intro hfree
    have hfirst := hfree.destination
    have hone := hfree.oneWord
    rw [hdest] at hfirst hone
    exact ⟨(hword.mp hone).1, (hword.mp hone).2, hdash.mp hfirst, hnames.mp hfree.onlyNames⟩
  · intro hsafe
    refine ⟨?_, ?_, ?_, hnames.mpr hsafe.plainHosts⟩
    · rw [hdest]
      exact hdash.mpr hsafe.hostFirst
    · rw [hdest]
      exact hword.mpr ⟨hsafe.userWord, hsafe.hostWord⟩
    · rw [hpins]
      exact lines_renderKnownHosts peer

/-- A desktop, with `ssh` in the first directory of the path. -/
def desktop : SshEnv where
  path := some "/usr/bin:/bin"
  xdgConfigHome := none
  home := some "/home/op"
  isFile := fun path => path == "/usr/bin/ssh"
  createDir := fun _ => none
  openFile := fun _ => none
  writeFile := fun _ => none
  currentExe := .ok "/usr/bin/tnet"

/-- A peer with a host key. -/
def sshPeer (name : String) : StatusPeer :=
  { name := name, ipv4 := "100.64.0.2", ipv6 := none, isExitNode := false,
    sshHostKeys := ["ssh-ed25519 AAAA"] }

/-- A run with a harmless name and one with a user. -/
theorem ssh_injectionFree_iff_harmless :
    ∃ cmd user peer,
      runSsh desktop none (statusOf [sshPeer "host.ts.net"]) "ann@100.64.0.2" [] = .ok cmd ∧
      resolveSshTarget (statusOf [sshPeer "host.ts.net"]) "ann@100.64.0.2" = .ok (user, peer) ∧
      (InjectionFree peer cmd ↔ Harmless user peer) := by
  obtain ⟨cmd, hcmd⟩ :
      ∃ cmd, runSsh desktop none (statusOf [sshPeer "host.ts.net"]) "ann@100.64.0.2" [] = .ok cmd :=
    ⟨_, rfl⟩
  obtain ⟨user, peer, hresolve, hiff⟩ := ssh_injectionFree_iff hcmd
  exact ⟨cmd, user, peer, hcmd, hresolve, hiff⟩

/-- A peer whose name is an option of `ssh`, reached by its address. -/
theorem bare_name_is_option :
    ∃ cmd peer,
      runSsh desktop none (statusOf [sshPeer "-oProxyCommand=id"]) "100.64.0.2" ["uptime"] =
        .ok cmd ∧
      resolveSshTarget (statusOf [sshPeer "-oProxyCommand=id"]) "100.64.0.2" = .ok (none, peer) ∧
      cmd.destination = "-oProxyCommand=id" ∧ ¬ InjectionFree peer cmd := by
  refine ⟨_, _, rfl, rfl, rfl, fun hfree => ?_⟩
  exact absurd hfree.destination (by decide)

end Tailnetd
