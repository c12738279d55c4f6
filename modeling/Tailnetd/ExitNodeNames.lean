/-
  Which exit-node arguments are accepted (`resolve_exit_node_arg` of `ipn/mod.rs`).

  An argument that reads as an address is looked up among the addresses; any other one is compared
  with the name of every peer, and the loop goes on after a match, so that a second one is found.
  What is accepted can therefore be said without an order: an address that some peer holds, or a
  name that designates one peer alone.

  `Designates` is the relation that the comparison of names decides; `Offers` is what is asked of
  the peer that is designated.
-/
import Tailnetd.Checks
import Mathlib.Data.List.Pairwise

namespace Tailnetd

/-! ## Names -/

/-- Equal up to the case of ASCII letters and a dot at the end. -/
def SameName (a b : String) : Prop :=
  eqIgnoreAsciiCase (dropRootDot a).toList (dropRootDot b).toList = true

/-- The argument is the base name: what stands before the suffix, which is not nothing. -/
def IsBaseName (arg name suffix : String) : Prop :=
  ∃ base tail, base ≠ [] ∧ (dropRootDot name).toList = base ++ '.' :: tail ∧
    eqIgnoreAsciiCase tail (dropRootDot suffix).toList = true ∧
    eqIgnoreAsciiCase (dropRootDot arg).toList base = true

/-- **The peers that an argument designates**: by the FQDN, or by the base name under the suffix. -/
def Designates (arg : String) (suffix : Option String) (peer : PeerReport) : Prop :=
  SameName arg peer.name ∨ ∃ s, suffix = some s ∧ IsBaseName arg peer.name s

theorem length_of_eqIgnoreAsciiCase {a b : List Char} (h : eqIgnoreAsciiCase a b = true) :
    a.length = b.length := by
  have hmap : a.map toAsciiLower = b.map toAsciiLower := beq_iff_eq.mp h
  simpa using congrArg List.length hmap

/-- The cut stands where the suffix would begin: what it leaves in front is the base name. -/
theorem baseName_cut_iff {want fqdn suffix : List Char} :
    (if fqdn.length < suffix.length + 1 then false
      else !(fqdn.take (fqdn.length - (suffix.length + 1))).isEmpty &&
        (fqdn.drop (fqdn.length - (suffix.length + 1))).head? == some '.' &&
        eqIgnoreAsciiCase (fqdn.drop (fqdn.length - (suffix.length + 1))).tail suffix &&
        eqIgnoreAsciiCase want (fqdn.take (fqdn.length - (suffix.length + 1)))) = true ↔
      ∃ base tail, base ≠ [] ∧ fqdn = base ++ '.' :: tail ∧ eqIgnoreAsciiCase tail suffix = true ∧
        eqIgnoreAsciiCase want base = true := by
  constructor
  · intro h
    split at h
    · cases h
    · generalize fqdn.length - (suffix.length + 1) = cut at h
      rw [Bool.and_eq_true, Bool.and_eq_true, Bool.and_eq_true, beq_iff_eq] at h
      obtain ⟨⟨⟨hbase, hdot⟩, htail⟩, hwant⟩ := h
      have hdrop : fqdn.drop cut = '.' :: (fqdn.drop cut).tail := List.eq_cons_of_mem_head? hdot
      refine ⟨fqdn.take cut, (fqdn.drop cut).tail, ?_, ?_, htail, hwant⟩
      · intro hnil
        rw [hnil] at hbase
        cases hbase
      · rw [← hdrop, List.take_append_drop]
  · rintro ⟨base, tail, hbase, rfl, htail, hwant⟩
    have hlen := length_of_eqIgnoreAsciiCase htail
    have hlong : ¬ (base ++ '.' :: tail).length < suffix.length + 1 := by
      rw [List.length_append, List.length_cons]
      omega
    have hcut : (base ++ '.' :: tail).length - (suffix.length + 1) = base.length := by
      rw [List.length_append, List.length_cons]
      omega
    rw [if_neg hlong, hcut, List.take_left, List.drop_left, hwant,
      List.isEmpty_eq_false_iff.mpr hbase]
    simpa using htail

/-- The comparison of names decides the relation. -/
theorem peerMatchesExitNodeName_iff {peer : PeerReport} {arg : String} {suffix : Option String} :
    peerMatchesExitNodeName peer arg suffix = true ↔ Designates arg suffix peer := by
  unfold peerMatchesExitNodeName
  rw [Designates, SameName]
  dsimp only
  by_cases hsame : eqIgnoreAsciiCase (dropRootDot arg).toList (dropRootDot peer.name).toList = true
  · rw [if_pos hsame]
    exact iff_of_true rfl (.inl hsame)
  · rw [if_neg hsame, or_iff_right hsame]
    cases suffix with
    | none => exact iff_of_false Bool.false_ne_true (fun ⟨s, hs, _⟩ => by cases hs)
    | some s =>
      refine baseName_cut_iff.trans ?_
      constructor
      · exact fun hbase => ⟨s, rfl, hbase⟩
      · rintro ⟨s', hs', hbase⟩
        cases hs'
        exact hbase

/-! ## The match loop -/

/-- What is asked of a peer that is designated: an exit node with an address. -/
def Offers (peer : PeerReport) : Prop :=
  peer.isExitNode = true ∧ (peerTailnetIps peer).head?.isSome = true

/-- The peers that answer to the argument, in the order of the netmap. -/
def answering (arg : String) (suffix : Option String) (peers : List PeerReport) : List PeerReport :=
  peers.filter fun peer => peerMatchesExitNodeName peer arg suffix

theorem answering_cons_of_match {arg : String} {suffix : Option String} {peer : PeerReport}
    (h : peerMatchesExitNodeName peer arg suffix = true) (peers : List PeerReport) :
    answering arg suffix (peer :: peers) = peer :: answering arg suffix peers :=
  List.filter_cons_of_pos (p := fun peer => peerMatchesExitNodeName peer arg suffix) h

theorem answering_cons_of_no_match {arg : String} {suffix : Option String} {peer : PeerReport}
    (h : peerMatchesExitNodeName peer arg suffix = false) (peers : List PeerReport) :
    answering arg suffix (peer :: peers) = answering arg suffix peers :=
  List.filter_cons_of_neg (p := fun peer => peerMatchesExitNodeName peer arg suffix)
    (by simp [h])

/-- **What the loop returns**: every peer that matches is asked, and the matches are counted. -/
theorem matchExitNodeName_ok_iff {arg : String} {suffix : Option String} {peers : List PeerReport}
    {matched : Nat} {resolved : Option IpAddr} {out : Nat × Option IpAddr} :
    matchExitNodeName arg suffix peers matched resolved = .ok out ↔
      (∀ p ∈ answering arg suffix peers, Offers p) ∧
        out = (matched + (answering arg suffix peers).length,
          (answering arg suffix peers).foldl (fun _ p => (peerTailnetIps p).head?) resolved) := by
  induction peers generalizing matched resolved with
  | nil =>
    constructor
    · intro h
      cases h
      exact ⟨fun p hp => absurd hp List.not_mem_nil, rfl⟩
    · rintro ⟨-, rfl⟩
      rfl
  | cons peer peers ih =>
    rw [matchExitNodeName]
    cases hmatch : peerMatchesExitNodeName peer arg suffix with
    | false =>
      rw [answering_cons_of_no_match hmatch, if_pos (by decide)]
      exact ih
    | true =>
      rw [answering_cons_of_match hmatch, List.forall_mem_cons, List.foldl_cons, List.length_cons,
        if_neg (by decide)]
      cases hip : (peerTailnetIps peer).head? with
      | none =>
        refine iff_of_false (fun h => by cases h) ?_
        rintro ⟨⟨⟨-, hsome⟩, -⟩, -⟩
        rw [hip] at hsome
        cases hsome
      | some ip =>
        dsimp only
        cases hexit : peer.isExitNode with
        | false =>
          refine iff_of_false (fun h => by cases h) ?_
          rintro ⟨⟨⟨hyes, -⟩, -⟩, -⟩
          rw [hexit] at hyes
          cases hyes
        | true =>
          have hoffers : Offers peer := ⟨hexit, by rw [hip]; rfl⟩
          rw [if_neg (by decide), ih, and_iff_right hoffers, Nat.add_assoc,
            Nat.add_comm 1 (answering arg suffix peers).length]

/-! ## The result -/

/-- One peer alone is designated. -/
def DesignatesOnly (arg : String) (facts : ExitNodeFacts) (peer : PeerReport) : Prop :=
  ∃ before after, facts.peers = before ++ peer :: after ∧
    Designates arg facts.magicDnsSuffix peer ∧
    ∀ q ∈ before ++ after, ¬ Designates arg facts.magicDnsSuffix q

theorem designatesOnly_iff {arg : String} {facts : ExitNodeFacts} {peer : PeerReport} :
    DesignatesOnly arg facts peer ↔ answering arg facts.magicDnsSuffix facts.peers = [peer] := by
  have hno : ∀ q, ¬ Designates arg facts.magicDnsSuffix q ↔
      ¬ peerMatchesExitNodeName q arg facts.magicDnsSuffix = true := fun q =>
    not_congr peerMatchesExitNodeName_iff.symm
  rw [answering, List.filter_eq_cons_iff]
  constructor
  · rintro ⟨before, after, hsplit, hpeer, hothers⟩
    refine ⟨before, after, hsplit, fun q hq => ?_, peerMatchesExitNodeName_iff.mpr hpeer, ?_⟩
    · exact (hno q).mp (hothers q (List.mem_append_left _ hq))
    · rw [List.filter_eq_nil_iff]
      exact fun q hq => (hno q).mp (hothers q (List.mem_append_right _ hq))
  · rintro ⟨before, after, hsplit, hbefore, hpeer, hafter⟩
    refine ⟨before, after, hsplit, peerMatchesExitNodeName_iff.mp hpeer, fun q hq => (hno q).mpr ?_⟩
    rcases List.mem_append.mp hq with hin | hin
    · exact hbefore q hin
    · exact List.filter_eq_nil_iff.mp hafter q hin

/-- No address is held twice. -/
def DistinctAddresses (peers : List PeerReport) : Prop :=
  peers.Pairwise fun p q => ∀ ip ∈ peerTailnetIps p, ip ∉ peerTailnetIps q

instance decidableDistinctAddresses (peers : List PeerReport) :
    Decidable (DistinctAddresses peers) :=
  inferInstanceAs (Decidable (peers.Pairwise fun p q =>
    ∀ ip ∈ peerTailnetIps p, ip ∉ peerTailnetIps q))

/-- The first holder of an address is its only one. -/
theorem holder_unique {peers : List PeerReport} {p q : PeerReport} {ip : IpAddr}
    (hdistinct : DistinctAddresses peers) (hp : p ∈ peers) (hq : q ∈ peers)
    (hpip : ip ∈ peerTailnetIps p) (hqip : ip ∈ peerTailnetIps q) : p = q := by
  by_contra hne
  have hsymm : Std.Symm fun p q : PeerReport => ∀ ip ∈ peerTailnetIps p, ip ∉ peerTailnetIps q :=
    ⟨fun _ _ h ip hq hp => h ip hp hq⟩
  exact List.Pairwise.forall hdistinct hp hq hne ip hpip hqip

/-- An argument that reads as an address. -/
theorem resolveExitNodeArg_of_ip {arg : String} {facts : ExitNodeFacts} {ip : IpAddr}
    (hne : arg ≠ "") (hip : readIpAddr arg = some ip) (hdistinct : DistinctAddresses facts.peers) :
    resolveExitNodeArg arg facts = .ok () ↔
      ip ∉ facts.selfIps ∧ (facts.running = false ∨
        ∃ p ∈ facts.peers, ip ∈ peerTailnetIps p ∧ p.isExitNode = true) := by
  have hnonempty : arg.isEmpty = false := by simpa using hne
  rw [resolveExitNodeArg, hnonempty, if_neg Bool.false_ne_true, hip]
  dsimp only
  by_cases hself : ip ∈ facts.selfIps
  · rw [if_pos (by simpa using hself)]
    exact iff_of_false (fun h => by cases h) (fun h => h.1 hself)
  · rw [if_neg (by simpa using hself), and_iff_right hself]
    cases hrunning : facts.running with
    | false => exact iff_of_true rfl (.inl rfl)
    | true =>
      rw [if_neg (by decide), or_iff_right Bool.noConfusion]
      cases hfind : facts.peers.find? fun p => (peerTailnetIps p).contains ip with
      | none =>
        refine iff_of_false (fun h => by cases h) ?_
        rintro ⟨p, hp, hpip, -⟩
        exact List.find?_eq_none.mp hfind p hp (by simpa using hpip)
      | some p =>
        have hp := List.mem_of_find?_eq_some hfind
        have hpip : ip ∈ peerTailnetIps p := by simpa using List.find?_some hfind
        dsimp only
        cases hexit : p.isExitNode with
        | true => exact iff_of_true rfl ⟨p, hp, hpip, hexit⟩
        | false =>
          refine iff_of_false (fun h => by cases h) ?_
          rintro ⟨q, hq, hqip, hyes⟩
          rw [holder_unique hdistinct hq hp hqip hpip, hexit] at hyes
          cases hyes

/-- An argument that reads as no address. -/
theorem resolveExitNodeArg_of_name {arg : String} {facts : ExitNodeFacts}
    (hne : arg ≠ "") (hip : readIpAddr arg = none) :
    resolveExitNodeArg arg facts = .ok () ↔
      ∃ p, DesignatesOnly arg facts p ∧ p.isExitNode = true ∧
        ∃ ip, (peerTailnetIps p).head? = some ip ∧ ip ∉ facts.selfIps := by
  have hnonempty : arg.isEmpty = false := by simpa using hne
  rw [resolveExitNodeArg, hnonempty, if_neg Bool.false_ne_true, hip]
  dsimp only
  by_cases hpeers : facts.peers.isEmpty = true
  · rw [if_pos hpeers]
    refine iff_of_false (fun h => by cases h) ?_
    rintro ⟨p, hp, -⟩
    rw [designatesOnly_iff, List.isEmpty_iff.mp hpeers] at hp
    cases hp
  · rw [if_neg hpeers]
    constructor
    · intro h
      cases hloop : matchExitNodeName arg facts.magicDnsSuffix facts.peers 0 none with
      | error e =>
        rw [hloop] at h
        cases h
      | ok out =>
        obtain ⟨hoffers, hout⟩ := matchExitNodeName_ok_iff.mp hloop
        rw [hloop, hout] at h
        -- no match, one, or several
        match hans : answering arg facts.magicDnsSuffix facts.peers with
        | [] =>
          rw [hans] at h
          cases h
        | [p] =>
          rw [hans] at h
          obtain ⟨hexit, hsome⟩ := hoffers p (by rw [hans]; exact List.mem_singleton_self p)
          obtain ⟨ip, hfirst⟩ := Option.isSome_iff_exists.mp hsome
          refine ⟨p, designatesOnly_iff.mpr hans, hexit, ip, hfirst, ?_⟩
          intro hself
          rw [List.foldl_cons, List.foldl_nil, hfirst] at h
          have hlocal : (some ip).any facts.selfIps.contains = true := by simpa using hself
          have hrefused := (if_pos hlocal).symm.trans h
          cases hrefused
        | p :: q :: rest =>
          rw [hans, List.length_cons, List.length_cons, Nat.zero_add] at h
          cases h
    · rintro ⟨p, hp, hexit, ip, hfirst, hself⟩
      have hone := designatesOnly_iff.mp hp
      have hloop : matchExitNodeName arg facts.magicDnsSuffix facts.peers 0 none =
          .ok (1, some ip) := by
        refine matchExitNodeName_ok_iff.mpr ⟨?_, ?_⟩
        · rw [hone]
          intro q hq
          rw [List.mem_singleton.mp hq]
          exact ⟨hexit, by rw [hfirst]; rfl⟩
        · rw [hone, List.foldl_cons, List.foldl_nil, hfirst]
          rfl
      rw [hloop]
      exact if_neg (by simpa using hself)

/-- **The order of the peers is immaterial** to what is accepted. -/
theorem accepted_perm {arg : String} {facts : ExitNodeFacts} {peers : List PeerReport}
    (hne : arg ≠ "") (hdistinct : DistinctAddresses facts.peers) (hperm : peers.Perm facts.peers) :
    resolveExitNodeArg arg { facts with peers := peers } = .ok () ↔
      resolveExitNodeArg arg facts = .ok () := by
  have hdistinct' : DistinctAddresses peers :=
    (hperm.pairwise_iff fun h ip hq hp => h ip hp hq).mpr hdistinct
  cases hip : readIpAddr arg with
  | some ip =>
    rw [resolveExitNodeArg_of_ip hne hip hdistinct, @resolveExitNodeArg_of_ip arg
      { facts with peers := peers } ip hne hip hdistinct']
    simp only [hperm.mem_iff]
  | none =>
    refine (resolveExitNodeArg_of_name hne hip).trans
      (Iff.trans ?_ (resolveExitNodeArg_of_name hne hip).symm)
    refine exists_congr fun p => and_congr_left fun _ => ?_
    rw [designatesOnly_iff, designatesOnly_iff]
    have hanswering : (answering arg facts.magicDnsSuffix peers).Perm
        (answering arg facts.magicDnsSuffix facts.peers) := hperm.filter _
    constructor
    · intro hone
      exact List.perm_singleton.mp (hone ▸ hanswering.symm)
    · intro hone
      exact List.perm_singleton.mp (hone ▸ hanswering)

/-- **What `resolve_exit_node_arg` accepts**: an address that is not this machine's own and, once
    the node runs, is held by a peer that offers an exit node; or a name that designates one peer
    alone, which offers one at an address that is not this machine's own. -/
theorem resolveExitNodeArg_ok_iff (arg : String) (facts : ExitNodeFacts) (hne : arg ≠ "")
    (hdistinct : DistinctAddresses facts.peers) :
    (∀ ip, readIpAddr arg = some ip → (resolveExitNodeArg arg facts = .ok () ↔
      ip ∉ facts.selfIps ∧ (facts.running = false ∨
        ∃ p ∈ facts.peers, ip ∈ peerTailnetIps p ∧ p.isExitNode = true))) ∧
    (readIpAddr arg = none → (resolveExitNodeArg arg facts = .ok () ↔
      ∃ p, DesignatesOnly arg facts p ∧ p.isExitNode = true ∧
        ∃ ip, (peerTailnetIps p).head? = some ip ∧ ip ∉ facts.selfIps)) ∧
    ∀ peers : List PeerReport, peers.Perm facts.peers →
      (resolveExitNodeArg arg { facts with peers := peers } = .ok () ↔
        resolveExitNodeArg arg facts = .ok ()) :=
  ⟨fun _ hip => resolveExitNodeArg_of_ip hne hip hdistinct,
    fun hip => resolveExitNodeArg_of_name hne hip,
    fun _ hperm => accepted_perm hne hdistinct hperm⟩

/-- A netmap of two peers, of which one offers an exit node. -/
def twoPeers : ExitNodeFacts where
  running := true
  selfIps := [.v4 [100, 64, 0, 1]]
  magicDnsSuffix := some "tail.ts.net."
  peers := [⟨"desk.tail.ts.net.", "100.64.0.2", none, false⟩,
    ⟨"Exit.tail.ts.net.", "100.64.0.3", some "fd7a::3", true⟩]

/-- The base name of the second peer is accepted, whatever its case and in either order. -/
theorem twoPeers_accepts :
    resolveExitNodeArg "exit." { twoPeers with peers := twoPeers.peers.reverse } = .ok () := by
  have hresult := resolveExitNodeArg_ok_iff "exit." twoPeers (by decide) (by decide +kernel)
  exact (hresult.2.2 _ (List.reverse_perm _)).mpr (by decide +kernel)

end Tailnetd
