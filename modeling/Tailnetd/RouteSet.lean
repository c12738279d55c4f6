/-
  The set of prefixes that `calc_advertise_routes` returns (`routes.rs`).

  The strings are checked one by one, a bad one is reported and left out, and the rest, with the two
  default routes where the exit-node flag is on, is asked for its default routes, sorted and
  stripped of repetitions.  So the answer is a set: what it holds and in which order depends on
  which prefixes were composed and on nothing else; and a refusal has one reason for each bad
  string, in their order, and then at most one for the default routes.
-/
import Mathlib.Data.Sum.Order
import Mathlib.Data.Prod.Lex
import Mathlib.Data.List.Lex
import Tailnetd.Checks
import Tailnetd.Lib.SortedRuns

namespace Tailnetd

/-! ## The order -/

/-- The order of addresses, strictly: every IPv4 address before every IPv6 one, then by value. -/
inductive IpAddr.Before : IpAddr → IpAddr → Prop
  | v4 {a b : List Nat} (h : List.Lex (· < ·) a b) : Before (.v4 a) (.v4 b)
  | families (a b : List Nat) : Before (.v4 a) (.v6 b)
  | v6 {a b : List Nat} (h : List.Lex (· < ·) a b) : Before (.v6 a) (.v6 b)

/-- The order of the set, strictly: by prefix length, then by address. -/
def IpNet.Precedes (a b : IpNet) : Prop :=
  a.prefixLen < b.prefixLen ∨ (a.prefixLen = b.prefixLen ∧ a.addr.Before b.addr)

/-- An address's place in the order. -/
def IpAddr.rank : IpAddr → List Nat ⊕ₗ List Nat
  | .v4 octets => toLex (.inl octets)
  | .v6 groups => toLex (.inr groups)

/-- A prefix's. -/
def IpNet.rank (n : IpNet) : Nat ×ₗ (List Nat ⊕ₗ List Nat) := toLex (n.prefixLen, n.addr.rank)

theorem partsLe_iff_lex (a b : List Nat) : partsLe a b = true ↔ a = b ∨ List.Lex (· < ·) a b := by
  induction a generalizing b with
  | nil =>
    cases b with
    | nil => exact iff_of_true rfl (.inl rfl)
    | cons y b => exact iff_of_true rfl (.inr .nil)
  | cons x a ih =>
    cases b with
    | nil =>
      refine iff_of_false Bool.false_ne_true ?_
      rintro (h | h)
      · cases h
      · cases h
    | cons y b =>
      rw [partsLe, Bool.or_eq_true, Bool.and_eq_true, decide_eq_true_eq, beq_iff_eq, ih]
      constructor
      · rintro (hlt | ⟨rfl, rfl | hlex⟩)
        · exact .inr (.rel hlt)
        · exact .inl rfl
        · exact .inr (.cons hlex)
      · rintro (heq | hlex)
        · cases heq
          exact .inr ⟨rfl, .inl rfl⟩
        · cases hlex with
          | rel hlt => exact .inl hlt
          | cons hlex => exact .inr ⟨rfl, .inr hlex⟩

theorem partsLe_iff (a b : List Nat) : partsLe a b = true ↔ a ≤ b :=
  (partsLe_iff_lex a b).trans le_iff_eq_or_lt.symm

theorem IpAddr.le_iff_rank (a b : IpAddr) : a.le b = true ↔ a.rank ≤ b.rank := by
  cases a with
  | v4 a =>
    cases b with
    | v4 b => exact (partsLe_iff a b).trans Sum.Lex.inl_le_inl_iff.symm
    | v6 b => exact iff_of_true rfl (Sum.Lex.inl_le_inr a b)
  | v6 a =>
    cases b with
    | v4 b => exact iff_of_false Bool.false_ne_true Sum.Lex.not_inr_le_inl
    | v6 b => exact (partsLe_iff a b).trans Sum.Lex.inr_le_inr_iff.symm

theorem IpAddr.before_iff_rank (a b : IpAddr) : a.Before b ↔ a.rank < b.rank := by
  constructor
  · intro h
    cases h with
    | v4 h => exact Sum.Lex.inl_lt_inl_iff.mpr h
    | families a b => exact Sum.Lex.inl_lt_inr a b
    | v6 h => exact Sum.Lex.inr_lt_inr_iff.mpr h
  · intro h
    cases a with
    | v4 a =>
      cases b with
      | v4 b => exact .v4 (Sum.Lex.inl_lt_inl_iff.mp h)
      | v6 b => exact .families a b
    | v6 a =>
      cases b with
      | v4 b => exact absurd h Sum.Lex.not_inr_lt_inl
      | v6 b => exact .v6 (Sum.Lex.inr_lt_inr_iff.mp h)

namespace IpNet

theorem before_iff_rank (a b : IpNet) : a.before b ↔ a.rank ≤ b.rank := by
  unfold before rank
  rw [Prod.Lex.toLex_le_toLex, IpAddr.le_iff_rank]

theorem precedes_iff_rank (a b : IpNet) : a.Precedes b ↔ a.rank < b.rank := by
  unfold Precedes rank
  rw [Prod.Lex.toLex_lt_toLex, IpAddr.before_iff_rank]

theorem rank_injective : rank.Injective := by
  rintro ⟨a, la⟩ ⟨b, lb⟩ h
  cases a with
  | v4 a =>
    cases b with
    | v4 b =>
      cases h
      rfl
    | v6 b => cases h
  | v6 a =>
    cases b with
    | v4 b => cases h
    | v6 b =>
      cases h
      rfl

instance totalBefore : Std.Total before := SortedRuns.total_of_rank before_iff_rank

instance transBefore : IsTrans IpNet before := SortedRuns.trans_of_rank before_iff_rank

instance antisymmBefore : Std.Antisymm before :=
  SortedRuns.antisymm_of_rank before_iff_rank rank_injective

/-- Strictly is in order and not the same. -/
theorem precedes_of_before {a b : IpNet} (h : a.before b) (hne : a ≠ b) : a.Precedes b :=
  (precedes_iff_rank a b).mpr
    (lt_of_le_of_ne ((before_iff_rank a b).mp h) fun heq => hne (rank_injective heq))

end IpNet

/-! ## One string -/

/-- The string is a prefix that may be advertised. -/
structure Advertisable (H : Host) (s : String) (net : IpNet) : Prop where
  parses : H.parseIpNet s = some net
  masked : net.trunc = net
  via : isViaPrefix net = true → validateViaPrefix net = .ok ()

/-- What a string is refused with, if it is. -/
def offence (H : Host) (s : String) : Option RouteError :=
  match checkRoute H s with
  | .error e => some e
  | .ok _ => none

/-- What it contributes. -/
def contribution (H : Host) (s : String) : Option IpNet :=
  match checkRoute H s with
  | .error _ => none
  | .ok net => some net

/-- **A string is accepted as the prefix it is, masked and, in the via range, valid there.** -/
theorem checkRoute_ok_iff {H : Host} {s : String} {net : IpNet} :
    checkRoute H s = .ok net ↔ Advertisable H s net := by
  unfold checkRoute
  cases hparse : H.parseIpNet s with
  | none =>
    refine iff_of_false (fun h => (by cases h)) fun h => ?_
    cases hparse.symm.trans h.parses
  | some net' =>
    dsimp only
    by_cases hmasked : net'.trunc = net'
    · rw [if_neg (not_not.mpr hmasked)]
      constructor
      · intro h
        split at h
        · rename_i hvia
          split at h
          · cases h
          · rename_i hvalid
            cases h
            exact ⟨hparse, hmasked, fun _ => hvalid⟩
        · rename_i hvia
          cases h
          exact ⟨hparse, hmasked, fun h => absurd h hvia⟩
      · intro h
        obtain rfl : net' = net := Option.some.inj (hparse.symm.trans h.parses)
        split
        · rename_i hvia
          rw [h.via hvia]
        · rfl
    · rw [if_pos hmasked]
      refine iff_of_false (fun h => (by cases h)) fun h => ?_
      obtain rfl : net' = net := Option.some.inj (hparse.symm.trans h.parses)
      exact hmasked h.masked

theorem contribution_eq_some_iff {H : Host} {s : String} {net : IpNet} :
    contribution H s = some net ↔ Advertisable H s net := by
  rw [← checkRoute_ok_iff, contribution]
  cases checkRoute H s with
  | error e => exact iff_of_false (fun h => (by cases h)) fun h => (by cases h)
  | ok net' => exact ⟨fun h => (by cases h; rfl), fun h => (by cases h; rfl)⟩

/-- A string has one reason against it, or it may be advertised. -/
theorem offence_iff (H : Host) (s : String) :
    (∃ e, offence H s = some e) ↔ ¬ ∃ net, Advertisable H s net := by
  have hok : ∀ net, checkRoute H s = .ok net ↔ Advertisable H s net := fun _ => checkRoute_ok_iff
  unfold offence
  cases hroute : checkRoute H s with
  | error e =>
    refine iff_of_true ⟨e, rfl⟩ ?_
    rintro ⟨net, hnet⟩
    cases hroute.symm.trans ((hok net).mpr hnet)
  | ok net =>
    refine iff_of_false (fun h => ?_) fun h => h ⟨net, (hok net).mp hroute⟩
    obtain ⟨e, h⟩ := h
    cases h

/-- The reason against a string is never the one about the default routes. -/
theorem offence_not_lone {H : Host} {s : String} {have_ want : IpNet} :
    offence H s ≠ some (.loneDefault have_ want) := by
  unfold offence checkRoute
  intro h
  split at h
  · rename_i e hroute
    cases h
    split at hroute
    · cases hroute
    · split at hroute
      · cases hroute
      · split at hroute
        · split at hroute
          · cases hroute
          · cases hroute
        · cases hroute
  · cases h

/-! ## The list -/

theorem checkRoutes_eq (H : Host) (routes : List String) :
    checkRoutes H routes = (routes.filterMap (offence H), routes.filterMap (contribution H)) := by
  induction routes with
  | nil => rfl
  | cons s routes ih =>
    unfold checkRoutes
    rw [ih]
    dsimp only
    cases hroute : checkRoute H s with
    | error e =>
      have hoffence : offence H s = some e := by rw [offence, hroute]
      have hnone : contribution H s = none := by rw [contribution, hroute]
      rw [List.filterMap_cons_some hoffence, List.filterMap_cons_none hnone]
    | ok net =>
      have hnone : offence H s = none := by rw [offence, hroute]
      have hnet : contribution H s = some net := by rw [contribution, hroute]
      rw [List.filterMap_cons_none hnone, List.filterMap_cons_some hnet]

/-- The prefixes as they were composed, the two default routes last. -/
def composed (H : Host) (routes : List String) (exit : Bool) : List IpNet :=
  routes.filterMap (contribution H) ++ if exit then [allIpv4, allIpv6] else []

/-- The reason against the default routes, if they are not paired. -/
def loneDefaults (set : List IpNet) : List RouteError :=
  if decide (allIpv4 ∈ set) = decide (allIpv6 ∈ set) then []
  else if allIpv4 ∈ set then [.loneDefault allIpv4 allIpv6]
  else [.loneDefault allIpv6 allIpv4]

/-- All the reasons. -/
def reasons (H : Host) (routes : List String) (exit : Bool) : List RouteError :=
  routes.filterMap (offence H) ++ loneDefaults (composed H routes exit)

/-- **The set, or every reason against it.** -/
theorem calcAdvertiseRoutes_eq (H : Host) (routes : List String) (exit : Bool) :
    calcAdvertiseRoutes H routes exit =
      if reasons H routes exit = [] then
        .ok (((composed H routes exit).insertionSort IpNet.before).destutter (· ≠ ·))
      else .error (reasons H routes exit) := by
  unfold calcAdvertiseRoutes
  rw [checkRoutes_eq]
  dsimp only
  have hset : (if exit = true then routes.filterMap (contribution H) ++ [allIpv4, allIpv6]
      else routes.filterMap (contribution H)) = composed H routes exit := by
    unfold composed
    cases exit with
    | true => rfl
    | false => exact (List.append_nil _).symm
  have hreasons : (if decide (allIpv4 ∈ composed H routes exit) =
        decide (allIpv6 ∈ composed H routes exit) then routes.filterMap (offence H)
      else if decide (allIpv4 ∈ composed H routes exit) = true then
        routes.filterMap (offence H) ++ [.loneDefault allIpv4 allIpv6]
      else routes.filterMap (offence H) ++ [.loneDefault allIpv6 allIpv4]) =
      reasons H routes exit := by
    unfold reasons loneDefaults
    split
    · exact (List.append_nil _).symm
    · by_cases h4 : allIpv4 ∈ composed H routes exit
      · rw [if_pos h4, if_pos (decide_eq_true h4)]
      · rw [if_neg h4, if_neg (by rwa [decide_eq_true_eq])]
  rw [hset, hreasons]
  cases reasons H routes exit with
  | nil => rfl
  | cons e errors => rfl

/-! ## The result -/

/-- What a list of strings and the flag compose: the prefixes that parse, and both default routes
    where the flag is on. -/
def Composed (H : Host) (routes : List String) (exit : Bool) (net : IpNet) : Prop :=
  (∃ s ∈ routes, H.parseIpNet s = some net) ∨ (exit = true ∧ (net = allIpv4 ∨ net = allIpv6))

/-- Where every string may be advertised, the prefixes composed are those that parse. -/
theorem mem_composed {H : Host} {routes : List String}
    (h : ∀ s ∈ routes, ∃ net, Advertisable H s net) (exit : Bool) (net : IpNet) :
    net ∈ composed H routes exit ↔ Composed H routes exit net := by
  unfold composed Composed
  rw [List.mem_append, List.mem_filterMap]
  have hparsed : (∃ s ∈ routes, contribution H s = some net) ↔
      ∃ s ∈ routes, H.parseIpNet s = some net := by
    constructor
    · rintro ⟨s, hs, hnet⟩
      exact ⟨s, hs, (contribution_eq_some_iff.mp hnet).parses⟩
    · rintro ⟨s, hs, hnet⟩
      obtain ⟨net', hnet'⟩ := h s hs
      obtain rfl : net' = net := Option.some.inj (hnet'.parses.symm.trans hnet)
      exact ⟨s, hs, contribution_eq_some_iff.mpr hnet'⟩
  rw [hparsed]
  cases exit with
  | true => simp
  | false => simp

/-- No string has a reason against it. -/
theorem offences_nil_iff (H : Host) (routes : List String) :
    routes.filterMap (offence H) = [] ↔ ∀ s ∈ routes, ∃ net, Advertisable H s net := by
  rw [List.filterMap_eq_nil_iff]
  have hnone : ∀ s, offence H s = none ↔ ∃ net, Advertisable H s net := by
    intro s
    rw [← not_iff_not, ← offence_iff, ← ne_eq, Option.ne_none_iff_exists']
  exact ⟨fun h s hs => (hnone s).mp (h s hs), fun h s hs => (hnone s).mpr (h s hs)⟩

/-- The default routes are paired. -/
theorem loneDefaults_nil_iff (set : List IpNet) :
    loneDefaults set = [] ↔ (allIpv4 ∈ set ↔ allIpv6 ∈ set) := by
  have hpaired : decide (allIpv4 ∈ set) = decide (allIpv6 ∈ set) ↔
      (allIpv4 ∈ set ↔ allIpv6 ∈ set) := decide_eq_decide
  unfold loneDefaults
  split
  · rename_i heq
    exact iff_of_true rfl (hpaired.mp heq)
  · rename_i hne
    refine iff_of_false ?_ fun h => hne (hpaired.mpr h)
    split
    · exact fun h => (by cases h)
    · exact fun h => (by cases h)

/-- At most one. -/
theorem loneDefaults_cases (set : List IpNet) :
    loneDefaults set = [] ∨ loneDefaults set = [.loneDefault allIpv4 allIpv6] ∨
      loneDefaults set = [.loneDefault allIpv6 allIpv4] := by
  unfold loneDefaults
  split
  · exact .inl rfl
  · split
    · exact .inr (.inl rfl)
    · exact .inr (.inr rfl)

/-- **There is no reason against a set of prefixes that may be advertised, with the default routes
    paired**, and against any other there is. -/
theorem reasons_nil_iff (H : Host) (routes : List String) (exit : Bool) :
    reasons H routes exit = [] ↔ (∀ s ∈ routes, ∃ net, Advertisable H s net) ∧
      (Composed H routes exit allIpv4 ↔ Composed H routes exit allIpv6) := by
  unfold reasons
  rw [List.append_eq_nil_iff, offences_nil_iff, loneDefaults_nil_iff]
  refine and_congr_right fun h => ?_
  rw [mem_composed h, mem_composed h]

/-- The same strings, in any order and as often, leave the same set. -/
theorem calcAdvertiseRoutes_congr {H : Host} {routes routes' : List String} {exit : Bool}
    {set : List IpNet} (hsame : ∀ s, s ∈ routes' ↔ s ∈ routes)
    (h : calcAdvertiseRoutes H routes exit = .ok set) :
    calcAdvertiseRoutes H routes' exit = .ok set := by
  have hcomposed : ∀ net, net ∈ composed H routes' exit ↔ net ∈ composed H routes exit := by
    intro net
    simp only [composed, List.mem_append, List.mem_filterMap, hsame]
  have hComposed : ∀ net, Composed H routes' exit net ↔ Composed H routes exit net := by
    intro net
    simp only [Composed, hsame]
  have hnil : reasons H routes exit = [] := by
    rw [calcAdvertiseRoutes_eq] at h
    by_contra hne
    rw [if_neg hne] at h
    cases h
  have hnil' : reasons H routes' exit = [] := by
    rw [reasons_nil_iff] at hnil ⊢
    rw [hComposed, hComposed]
    exact ⟨fun s hs => hnil.1 s ((hsame s).mp hs), hnil.2⟩
  rw [calcAdvertiseRoutes_eq, if_pos hnil, Except.ok.injEq] at h
  rw [calcAdvertiseRoutes_eq, if_pos hnil', SortedRuns.sorted_ext hcomposed, h]

/-- There is a set exactly when every string may be advertised and the default routes are paired. -/
theorem accepted_iff (H : Host) (routes : List String) (exit : Bool) :
    (∃ set, calcAdvertiseRoutes H routes exit = .ok set) ↔
      (∀ s ∈ routes, ∃ net, Advertisable H s net) ∧
        (Composed H routes exit allIpv4 ↔ Composed H routes exit allIpv6) := by
  rw [← reasons_nil_iff, calcAdvertiseRoutes_eq]
  split
  · rename_i hnil
    exact iff_of_true ⟨_, rfl⟩ hnil
  · rename_i hne
    refine iff_of_false ?_ hne
    rintro ⟨set, h⟩
    cases h

/-- The set is what was composed. -/
theorem accepted_eq {H : Host} {routes : List String} {exit : Bool} {set : List IpNet}
    (h : calcAdvertiseRoutes H routes exit = .ok set) :
    set = ((composed H routes exit).insertionSort IpNet.before).destutter (· ≠ ·) := by
  rw [calcAdvertiseRoutes_eq] at h
  split at h
  · exact (Except.ok.inj h).symm
  · cases h

theorem mem_accepted_iff {H : Host} {routes : List String} {exit : Bool} {set : List IpNet}
    (h : calcAdvertiseRoutes H routes exit = .ok set) (net : IpNet) :
    net ∈ set ↔ Composed H routes exit net := by
  have hall := ((accepted_iff H routes exit).mp ⟨set, h⟩).1
  rw [accepted_eq h, SortedRuns.mem_destutter_ne, List.mem_insertionSort, mem_composed hall]

/-- **The advertised-route set, for every list of strings and either flag.**  There is one exactly
    when every string may be advertised and the default routes composed are paired.  It increases
    strictly, holds what was composed and nothing else, and is the same for any list of the same
    strings.  A refusal has one reason for each string that may not be advertised, in their order,
    and at most one more, about the default routes. -/
theorem calcAdvertiseRoutes_spec (H : Host) (routes : List String) (exit : Bool) :
    ((∃ set, calcAdvertiseRoutes H routes exit = .ok set) ↔
      (∀ s ∈ routes, ∃ net, Advertisable H s net) ∧
        (Composed H routes exit allIpv4 ↔ Composed H routes exit allIpv6)) ∧
    (∀ set, calcAdvertiseRoutes H routes exit = .ok set →
      set.Pairwise IpNet.Precedes ∧ set.Nodup ∧
        (∀ net, net ∈ set ↔ Composed H routes exit net) ∧
        ∀ routes', (∀ s, s ∈ routes' ↔ s ∈ routes) →
          calcAdvertiseRoutes H routes' exit = .ok set) ∧
    (∀ errors, calcAdvertiseRoutes H routes exit = .error errors →
      ∃ lone, errors = routes.filterMap (offence H) ++ lone ∧
        (lone = [] ∨ lone = [.loneDefault allIpv4 allIpv6] ∨
          lone = [.loneDefault allIpv6 allIpv4])) ∧
    ∀ s, ((∃ e, offence H s = some e) ↔ ¬ ∃ net, Advertisable H s net) ∧
      ∀ have_ want, offence H s ≠ some (.loneDefault have_ want) := by
  refine ⟨accepted_iff H routes exit, ?_, ?_,
    fun s => ⟨offence_iff H s, fun _ _ => offence_not_lone⟩⟩
  · intro set h
    have hstrict := SortedRuns.strict_sorted (r := IpNet.before) (composed H routes exit)
    rw [← accepted_eq h] at hstrict
    exact ⟨hstrict.imp fun hab => IpNet.precedes_of_before hab.1 hab.2,
      hstrict.imp fun hab => hab.2, mem_accepted_iff h,
      fun routes' hsame => calcAdvertiseRoutes_congr hsame h⟩
  · intro errors h
    rw [calcAdvertiseRoutes_eq] at h
    split at h
    · cases h
    · cases h
      exact ⟨_, rfl, loneDefaults_cases _⟩

end Tailnetd
