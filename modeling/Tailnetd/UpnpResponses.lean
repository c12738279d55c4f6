/-
  What a probe keeps of the UPnP discovery responses (`portmap.rs`).

  One device answers several searches, and with several services, so the responses are sorted and
  then thinned out: the sort puts the USN in reverse, so that the newer service of a device comes
  before the older, and of neighbours with the same location and server only the first stays.  The
  sort does not bring the responses of a device together, though.  Where another device's USN falls
  between two of one device's, that device stays twice, and the second time with the older service.
-/
import Mathlib.Data.Prod.Lex
import Mathlib.Data.String.Basic
import Tailnetd.Lib.SortedRuns
import Tailnetd.Portmap

namespace Tailnetd

namespace Portmap

namespace UpnpDiscoResponse

/-- What the responses are told apart by. -/
def device (m : UpnpDiscoResponse) : String × String := (m.location, m.server)

/-- The order of the sort: the USN in reverse, then location and server. -/
def before (a b : UpnpDiscoResponse) : Prop :=
  b.usn < a.usn ∨ (a.usn = b.usn ∧
    (a.location < b.location ∨ (a.location = b.location ∧ a.server ≤ b.server)))

instance decidableBefore : DecidableRel before := fun a b => by
  unfold before
  infer_instance

/-- A response's place in the order. -/
def rank (m : UpnpDiscoResponse) : Stringᵒᵈ ×ₗ (String ×ₗ String) :=
  toLex (OrderDual.toDual m.usn, toLex (m.location, m.server))

theorem before_iff_rank (a b : UpnpDiscoResponse) : a.before b ↔ a.rank ≤ b.rank := by
  unfold before rank
  rw [Prod.Lex.toLex_le_toLex, Prod.Lex.toLex_le_toLex, OrderDual.toDual_lt_toDual,
    OrderDual.toDual_inj]

theorem rank_injective : rank.Injective := by
  rintro ⟨la, sa, ua⟩ ⟨lb, sb, ub⟩ h
  cases h
  rfl

instance totalBefore : Std.Total before := SortedRuns.total_of_rank before_iff_rank

instance transBefore : IsTrans UpnpDiscoResponse before :=
  SortedRuns.trans_of_rank before_iff_rank

instance antisymmBefore : Std.Antisymm before :=
  SortedRuns.antisymm_of_rank before_iff_rank rank_injective

/-- What comes first has the greater USN. -/
theorem usn_le_of_before {a b : UpnpDiscoResponse} (h : a.before b) : b.usn ≤ a.usn := by
  rcases h with hlt | ⟨heq, -⟩
  · exact hlt.le
  · exact heq.ge

end UpnpDiscoResponse

/-- `process_upnp_responses`. -/
def processUpnpResponses (metas : List UpnpDiscoResponse) : List UpnpDiscoResponse :=
  (metas.insertionSort UpnpDiscoResponse.before).destutter fun a b => a.device ≠ b.device

/-- The list has one response for each device that answered, the one with the greatest USN. -/
structure KeepsGreatest (metas out : List UpnpDiscoResponse) : Prop where
  distinct : (out.map UpnpDiscoResponse.device).Nodup
  covers : ∀ m ∈ metas, ∃ k ∈ out, k.device = m.device
  greatest : ∀ k ∈ out, k ∈ metas ∧ ∀ m ∈ metas, m.device = k.device → m.usn ≤ k.usn

/-- No response of another device sorts between two of one device. -/
def Unmixed (metas : List UpnpDiscoResponse) : Prop :=
  ∀ a ∈ metas, ∀ b ∈ metas, ∀ c ∈ metas, a.before b → b.before c → a.device = c.device →
    b.device = a.device

/-- Nothing is made up, and no device is lost. -/
theorem process_members (metas : List UpnpDiscoResponse) :
    (∀ k ∈ processUpnpResponses metas, k ∈ metas) ∧
      ∀ m ∈ metas, ∃ k ∈ processUpnpResponses metas, k.device = m.device := by
  constructor
  · intro k hk
    exact (List.mem_insertionSort _).mp ((List.destutter_sublist _ _).subset hk)
  · intro m hm
    have hsorted : m ∈ metas.insertionSort UpnpDiscoResponse.before :=
      (List.mem_insertionSort _).mpr hm
    have hdevice : m.device ∈ (processUpnpResponses metas).map UpnpDiscoResponse.device := by
      rw [processUpnpResponses, SortedRuns.map_destutter_key, SortedRuns.mem_destutter_ne]
      exact List.mem_map_of_mem hsorted
    exact List.mem_map.mp hdevice

/-- **The list is what it is for exactly when no device's responses are mixed with another's** in
    the order of the sort. -/
theorem process_keeps_greatest_iff (metas : List UpnpDiscoResponse) :
    KeepsGreatest metas (processUpnpResponses metas) ↔ Unmixed metas := by
  have hcontiguous := SortedRuns.contiguous_sorted_iff (r := UpnpDiscoResponse.before)
    UpnpDiscoResponse.device metas
  have hnodup : ((processUpnpResponses metas).map UpnpDiscoResponse.device).Nodup ↔
      Unmixed metas := by
    rw [processUpnpResponses, SortedRuns.map_destutter_key, SortedRuns.nodup_destutter_iff]
    exact hcontiguous
  obtain ⟨hmembers, hcovers⟩ := process_members metas
  constructor
  · intro h
    exact hnodup.mp h.distinct
  · intro h
    refine ⟨hnodup.mpr h, hcovers, ?_⟩
    intro k hk
    refine ⟨hmembers k hk, ?_⟩
    intro m hm hdevice
    have hsorted := List.pairwise_insertionSort UpnpDiscoResponse.before metas
    have hbefore : k.before m := SortedRuns.least_of_contiguous hsorted (hcontiguous.mpr h) hk
      ((List.mem_insertionSort _).mpr hm) hdevice
    exact UpnpDiscoResponse.usn_le_of_before hbefore

/-- The router's two services, and another device's. -/
def mixedResponses : List UpnpDiscoResponse :=
  [⟨"http://192.0.2.1:5000/rootDesc.xml", "MiniUPnPd/2.1", "uuid:c::IGD:2"⟩,
    ⟨"http://192.0.2.9:5000/rootDesc.xml", "OtherUPnP/1.0", "uuid:b::IGD:1"⟩,
    ⟨"http://192.0.2.1:5000/rootDesc.xml", "MiniUPnPd/2.1", "uuid:a::IGD:1"⟩]

/-- **Mixed with another device's response, the router's two stay.** -/
theorem mixed_device_stays_twice :
    ¬ ∀ metas : List UpnpDiscoResponse, KeepsGreatest metas (processUpnpResponses metas) := by
  intro hclaim
  have hdistinct := (hclaim mixedResponses).distinct
  revert hdistinct
  decide +kernel

end Portmap

end Tailnetd
