/-
  The startup reaper of stale routes (`hostreap.rs`).

  1. **Program** — the table that `netstat` prints is read row by row (`parseNetstatInet`), each
     destination brought from its abbreviated spelling to a prefix (`parseDestination`).  The rows
     that have the shape of the engine's routes and whose interface is gone are stale; for each of
     them `delete_route` asks `route` to delete the destination through that interface and, when
     this is refused, to delete the destination whatever its interface.

  2. **Runs** — what `route` answers is arbitrary and may depend on everything that was asked
     before; a run is the list of commands that were asked for (`Reap`).  Every command names the
     destination of a stale row (`reapRoutes_commands`), and whatever a stale row is, there is a run
     in which its destination is deleted without its interface.

  3. **The fallback** — its comment calls it unambiguous, since the system "holds at most one FIB
     entry per destination/netmask", and the interlock on the interface is there so that "its live
     routes are indistinguishable from ours, so we leave them alone".  The table of the source's own
     tests holds one destination on a dead interface and on a live one: the fallback for the dead
     row then names the live one too.  It is safe exactly when no stale row shares its destination
     with a row of a live interface (`reap_spares_live_iff`).
-/
import Tailnetd.Serve
import Tailnetd.Ssh

namespace Tailnetd

/-! ## The table -/

/-- `FibEntry`. -/
structure FibEntry where
  destination : Ipv4Net
  gateway : String
  flags : String
  netif : String
  deriving DecidableEq

/-- `str::parse::<u8>`: one sign at most, then digits; leading zeros are fine. -/
def parseU8 (text : List Char) : Option Nat :=
  let digits :=
    match text with
    | '+' :: rest => rest
    | chars => chars
  if digits.isEmpty then none else (decimalValue digits).filter (· < 256)

/-- The loop of `parse_destination` over the dotted parts, after `count` of them. -/
def destinationOctets (octets : Vector UInt8 4) (count : Nat) :
    List (List Char) → Option (Vector UInt8 4 × Nat)
  | [] => some (octets, count)
  | part :: parts =>
    if count = 4 || part.isEmpty || !part.all fun c => '0' ≤ c && c ≤ '9' then none
    else
      (parseU8 part).bind fun octet =>
        destinationOctets (octets.setIfInBounds count (UInt8.ofNat octet)) (count + 1) parts

/-- `parse_destination`: `default`, or up to four octets with the length that they say when none is
    written. -/
def parseDestination (token : String) : Option Ipv4Net :=
  if token = "default" then Ipv4Net.new (.replicate 4 0) 0
  else
    (match splitOnce '/' token with
      | some (addr, len) => (parseU8 len.toList).map fun n => (addr, some n)
      | none => some (token, none)).bind fun addrPrefix =>
    (destinationOctets (.replicate 4 0) 0 (pieces '.' addrPrefix.1.toList)).bind fun octets =>
      if octets.2 = 0 then none
      else Ipv4Net.new octets.1 (addrPrefix.2.getD (octets.2 * 8))

/-- One row: the first four words of a line, when the first is a destination. -/
def parseRow (line : List Char) : Option FibEntry :=
  let dest := nextWord line
  let gateway := nextWord dest.2
  let flags := nextWord gateway.2
  let netif := nextWord flags.2
  if netif.1 = [] then none
  else
    (parseDestination (String.ofList dest.1)).map fun destination =>
      { destination := destination
        gateway := String.ofList gateway.1
        flags := String.ofList flags.1
        netif := String.ofList netif.1 }

/-- `parse_netstat_inet`: lines that are no rows are dropped. -/
def parseNetstatInet (output : String) : List FibEntry := (textLines output).filterMap parseRow

example : (parseDestination "100.64/10").map Ipv4Net.toText = some "100.64.0.0/10" := by
  decide +kernel
example : (parseDestination "192.0.2").map Ipv4Net.toText = some "192.0.2.0/24" := by decide +kernel
example : parseDestination "192.0.2.0/33" = none := by decide +kernel

/-! ## The stale rows -/

/-- `TUN_IF_PREFIX`. -/
def tunIfPrefix : String := "utun"

/-- `is_interface_scoped_utun_route`: a static route out of a `utun` device whose gateway is that
    device. -/
def isInterfaceScopedUtunRoute (entry : FibEntry) : Bool :=
  startsWith tunIfPrefix entry.netif && entry.gateway == entry.netif &&
    entry.flags.toList.contains 'S'

/-- `stale_utun_routes`. -/
def staleUtunRoutes (entries : List FibEntry) (ifaceExists : String → Bool) : List FibEntry :=
  entries.filter fun entry => isInterfaceScopedUtunRoute entry && !ifaceExists entry.netif

/-! ## The commands -/

/-- What `route` is asked for. -/
inductive RouteCommand where
  | delete (netif : String) (net : Ipv4Net)
  | deleteDest (net : Ipv4Net)
  deriving DecidableEq

/-- The destination a command names. -/
def RouteCommand.net : RouteCommand → Ipv4Net
  | .delete _ net => net
  | .deleteDest net => net

/-- `route_delete_argv` and `route_delete_dest_argv`. -/
def RouteCommand.argv : RouteCommand → List String
  | .delete netif net => ["-n", "-q", "delete", "-inet", net.toText, "-interface", netif]
  | .deleteDest net => ["-n", "-q", "delete", "-inet", net.toText]

/-- `run_route`: whether a command succeeds, after the commands that were run before it. -/
abbrev RunRoute := List RouteCommand → RouteCommand → Bool

/-- A pass over the routes: the commands it ran, and its part of the `ReapReport`. -/
structure Reap where
  commands : List RouteCommand := []
  routesReaped : List String := []
  routesFailed : List String := []

/-- `delete_route`: the commands it runs, and whether the route is gone. -/
def deleteRoute (run : RunRoute) (before : List RouteCommand) (entry : FibEntry) :
    List RouteCommand × Bool :=
  let inverse := RouteCommand.delete entry.netif entry.destination
  let dest := RouteCommand.deleteDest entry.destination
  if run before inverse then ([inverse], true)
  else ([inverse, dest], run (before ++ [inverse]) dest)

/-- One stale row of `reap_routes`. -/
def reapRow (run : RunRoute) (pass : Reap) (entry : FibEntry) : Reap :=
  let rendered := entry.destination.toText ++ " via " ++ entry.netif
  let deleted := deleteRoute run pass.commands entry
  if deleted.2 then
    { pass with
      commands := pass.commands ++ deleted.1
      routesReaped := pass.routesReaped ++ [rendered] }
  else
    { pass with
      commands := pass.commands ++ deleted.1
      routesFailed := pass.routesFailed ++ [rendered] }

/-- `reap_routes`, on what `netstat` printed. -/
def reapRoutes (run : RunRoute) (ifaceExists : String → Bool) (table : String) : Reap :=
  (staleUtunRoutes (parseNetstatInet table) ifaceExists).foldl (reapRow run) {}

/-! ## What a run asks for -/

/-- A row adds its own commands. -/
theorem reapRow_commands (run : RunRoute) (pass : Reap) (entry : FibEntry) :
    (reapRow run pass entry).commands =
      pass.commands ++ (deleteRoute run pass.commands entry).1 := by
  unfold reapRow
  dsimp only
  split <;> rfl

/-- The commands of one row name its destination, and its interface when they name one. -/
theorem deleteRoute_commands {run : RunRoute} {before : List RouteCommand} {entry : FibEntry}
    {command : RouteCommand} (h : command ∈ (deleteRoute run before entry).1) :
    command = .delete entry.netif entry.destination ∨ command = .deleteDest entry.destination := by
  unfold deleteRoute at h
  dsimp only at h
  split at h
  · exact .inl (List.mem_singleton.mp h)
  · rcases List.mem_cons.mp h with hscoped | hdest
    · exact .inl hscoped
    · exact .inr (List.mem_singleton.mp hdest)

/-- **Every command of a run is one of a stale row.** -/
theorem foldl_reapRow_commands {run : RunRoute} {entries : List FibEntry} {pass : Reap}
    {command : RouteCommand} (h : command ∈ (entries.foldl (reapRow run) pass).commands) :
    command ∈ pass.commands ∨ ∃ entry ∈ entries,
      command = .delete entry.netif entry.destination ∨
        command = .deleteDest entry.destination := by
  induction entries generalizing pass with
  | nil => exact .inl h
  | cons entry entries ih =>
    rcases ih h with hbefore | ⟨other, hother, hcommand⟩
    · rw [reapRow_commands, List.mem_append] at hbefore
      rcases hbefore with hold | hnew
      · exact .inl hold
      · exact .inr ⟨entry, List.mem_cons_self, deleteRoute_commands hnew⟩
    · exact .inr ⟨other, List.mem_cons_of_mem _ hother, hcommand⟩

theorem reapRoutes_commands {run : RunRoute} {ifaceExists : String → Bool} {table : String}
    {command : RouteCommand} (h : command ∈ (reapRoutes run ifaceExists table).commands) :
    ∃ entry ∈ staleUtunRoutes (parseNetstatInet table) ifaceExists,
      command = .delete entry.netif entry.destination ∨
        command = .deleteDest entry.destination := by
  rcases foldl_reapRow_commands h with hnone | hrow
  · cases hnone
  · exact hrow

/-- What was asked for stays on record. -/
theorem foldl_reapRow_grows {run : RunRoute} {entries : List FibEntry} {pass : Reap}
    {command : RouteCommand} (h : command ∈ pass.commands) :
    command ∈ (entries.foldl (reapRow run) pass).commands := by
  induction entries generalizing pass with
  | nil => exact h
  | cons entry entries ih =>
    refine ih ?_
    rw [reapRow_commands]
    exact List.mem_append_left _ h

/-- When `route` refuses everything, each stale row's destination is deleted by itself. -/
theorem foldl_reapRow_refused {entries : List FibEntry} {pass : Reap} {entry : FibEntry}
    (h : entry ∈ entries) : RouteCommand.deleteDest entry.destination ∈
      (entries.foldl (reapRow fun _ _ => false) pass).commands := by
  induction entries generalizing pass with
  | nil => cases h
  | cons first entries ih =>
    rcases List.mem_cons.mp h with rfl | hrest
    · rw [List.foldl_cons]
      refine foldl_reapRow_grows ?_
      rw [reapRow_commands]
      exact List.mem_append_right _ (List.mem_cons_of_mem _ List.mem_cons_self)
    · exact ih hrest

/-- **The fallback may be run for every stale row, and for no other destination.** -/
theorem may_deleteDest_iff {ifaceExists : String → Bool} {table : String} {net : Ipv4Net} :
    (∃ run, RouteCommand.deleteDest net ∈ (reapRoutes run ifaceExists table).commands) ↔
      ∃ entry ∈ staleUtunRoutes (parseNetstatInet table) ifaceExists, entry.destination = net := by
  constructor
  · rintro ⟨run, h⟩
    obtain ⟨entry, hentry, hscoped | hdest⟩ := reapRoutes_commands h
    · cases hscoped
    · exact ⟨entry, hentry, (RouteCommand.deleteDest.inj hdest).symm⟩
  · rintro ⟨entry, hentry, rfl⟩
    exact ⟨fun _ _ => false, foldl_reapRow_refused hentry⟩

/-! ## The result -/

/-- **The fallback spares the live interfaces exactly when no stale row of the table shares its
    destination with a row of a live interface.** -/
theorem reap_spares_live_iff (table : String) (ifaceExists : String → Bool) :
    (∀ (run : RunRoute) (net : Ipv4Net),
      .deleteDest net ∈ (reapRoutes run ifaceExists table).commands →
        ∀ entry ∈ parseNetstatInet table, entry.destination = net →
          ifaceExists entry.netif = false) ↔
    ∀ stale ∈ staleUtunRoutes (parseNetstatInet table) ifaceExists,
      ∀ entry ∈ parseNetstatInet table, ifaceExists entry.netif = true →
        entry.destination ≠ stale.destination := by
  constructor
  · intro hspares stale hstale entry hentry hlive hsame
    obtain ⟨run, hmay⟩ := may_deleteDest_iff.mpr ⟨stale, hstale, rfl⟩
    have hdead := hspares run stale.destination hmay entry hentry hsame
    rw [hlive] at hdead
    cases hdead
  · intro hdistinct run net hdeleted entry hentry hsame
    obtain ⟨stale, hstale, rfl⟩ := may_deleteDest_iff.mp ⟨run, hdeleted⟩
    by_contra hlive
    exact hdistinct stale hstale entry hentry (Bool.not_eq_false _ ▸ hlive) hsame

/-- The destination that the tests' table holds twice, on a dead interface and on a live one. -/
def sharedTable : String :=
  "Destination Gateway Flags Netif Expire\n" ++
  "100.64/10   utun7   USc   utun7\n" ++
  "100.64/10   utun3   USc   utun3\n"

/-- A row of it. -/
def sharedRow (netif : String) : FibEntry :=
  ⟨⟨#v[100, 64, 0, 0], 10, by decide⟩, netif, "USc", netif⟩

theorem parse_sharedTable :
    parseNetstatInet sharedTable = [sharedRow "utun7", sharedRow "utun3"] := by
  decide +kernel

/-- The interfaces of the tests' host: `utun7` is gone. -/
def fixtureIfaceExists (name : String) : Bool := name != "utun7"

/-- The scoped delete of the dead row is refused, and the fallback names the live row's
    destination. -/
theorem reap_reaches_live :
    ∃ net, .deleteDest net ∈
        (reapRoutes (fun _ _ => false) fixtureIfaceExists sharedTable).commands ∧
      ∃ entry ∈ parseNetstatInet sharedTable, entry.destination = net ∧
        fixtureIfaceExists entry.netif = true := by
  refine ⟨(sharedRow "utun7").destination, ?_, sharedRow "utun3", ?_, rfl, rfl⟩
  · rw [reapRoutes, parse_sharedTable]
    decide
  · rw [parse_sharedTable]
    exact List.mem_cons_of_mem _ List.mem_cons_self

end Tailnetd
