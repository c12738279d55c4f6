/-
  Merging a cluster into a kubeconfig: `update_kubeconfig` and `append_or_set_named` of `tnet.rs`.

  1. **Program** — a text that is empty or reads as null starts a fresh document; anything else has
     to be a mapping with the two marks of a kubeconfig.  Three lists then get an entry of a fixed
     name each, and the current context is named after the cluster.  YAML is a parameter (`Yaml`):
     what a text reads as and what a document is written as.

  2. **Entries** — `append_or_set_named` puts its entry in the place of the first one of its name
     (`FirstEntry.setFirst`).  An item is named by a string under `name` in a mapping, so items of
     another form have no name and are nobody's (`named_get`).

  3. **Documents** — a merge sets four keys and no others (`get?_updateConfig`); everything about
     merges is read off that: what they keep, where the current context leads, that a second merge
     of the same cluster changes nothing and that two clusters can be merged in either order.

  A key of the three that holds no list counts as an empty one, and the rebuilt list is written over
  it.  So a kubeconfig whose `clusters` is a text is merged into and not refused
  (`text_for_clusters_accepted`).
-/
import Tailnetd.Lib.FirstEntry
import Tailnetd.PolicyFile

namespace Tailnetd

open FirstEntry

/-! ## The merge -/

/-- `Map<String, Value>`: a kubeconfig, in the order of its keys. -/
abbrev Kubeconfig := SortedMap String Json

/-- The map of an object's entries; of two entries with one key the later one counts. -/
def Json.mapOf (entries : List (String × Json)) : SortedMap String Json :=
  entries.foldl (fun m entry => m.insert entry.1 entry.2) .empty

/-- `Value::get`: what an object holds under a key. -/
def Json.get (key : String) : Json → Option Json
  | .object entries => (Json.mapOf entries).get? key
  | _ => none

/-- The parser and the printer of YAML. -/
structure Yaml where
  fromStr : String → Option Json
  toText : Json → Option String

/-- Whether an item is a mapping with this text under `name`. -/
def named (name : String) (item : Json) : Bool :=
  decide ((item.get "name").bind Json.asStr = some name)

/-- `append_or_set_named`. -/
def appendOrSetNamed (dst : List Json) (name : String) (val : Json) : List Json :=
  match dst.findIdx? (named name) with
  | some i => dst.set i val
  | none => dst ++ [val]

/-- `seq`: the list under a key; a missing key and a key that holds no list are the empty one. -/
def seq (cfg : Kubeconfig) (key : String) : List Json :=
  match cfg.get? key with
  | some (.array items) => items
  -- what a key holds besides is dropped here, and written over below
  | _ => []

def clusterEntry (scheme fqdn : String) : Json :=
  .object [("cluster", .object [("server", .string (scheme ++ fqdn))]), ("name", .string fqdn)]

def userEntry : Json :=
  .object [("name", .string "tailscale-auth"), ("user", .object [("token", .string "unused")])]

def contextEntry (fqdn : String) : Json :=
  .object [("context", .object [("cluster", .string fqdn), ("user", .string "tailscale-auth")]),
    ("name", .string fqdn)]

/-- `errInvalidKubeconfig`. -/
def invalidKubeconfig : String := "invalid kubeconfig"

/-- The document that is started where there is none. -/
def freshConfig : Kubeconfig :=
  (SortedMap.empty.insert "apiVersion" (.string "v1")).insert "kind" (.string "Config")

/-- The two marks of a kubeconfig. -/
def IsConfig (cfg : Kubeconfig) : Prop :=
  (cfg.get? "apiVersion").bind Json.asStr = some "v1" ∧
    (cfg.get? "kind").bind Json.asStr = some "Config"

instance (cfg : Kubeconfig) : Decidable (IsConfig cfg) := inferInstanceAs (Decidable (_ ∧ _))

/-- The document that the merge starts from. -/
def readKubeconfig (Y : Yaml) (cfgYaml : String) : Except String Kubeconfig :=
  if cfgYaml.isEmpty then .ok freshConfig
  else
    match Y.fromStr cfgYaml with
    -- a document of comments only
    | some .null => .ok freshConfig
    | some (.object entries) =>
      if IsConfig (Json.mapOf entries) then .ok (Json.mapOf entries) else .error invalidKubeconfig
    | _ => .error invalidKubeconfig

/-- The document after the merge. -/
def updateConfig (cfg : Kubeconfig) (scheme fqdn : String) : Kubeconfig :=
  let clusters := appendOrSetNamed (seq cfg "clusters") fqdn (clusterEntry scheme fqdn)
  let cfg := cfg.insert "clusters" (.array clusters)
  let users := appendOrSetNamed (seq cfg "users") "tailscale-auth" userEntry
  let cfg := cfg.insert "users" (.array users)
  let contexts := appendOrSetNamed (seq cfg "contexts") fqdn (contextEntry fqdn)
  let cfg := cfg.insert "contexts" (.array contexts)
  cfg.insert "current-context" (.string fqdn)

/-- `update_kubeconfig`. -/
def updateKubeconfig (Y : Yaml) (cfgYaml scheme fqdn : String) : Except String String :=
  match readKubeconfig Y cfgYaml with
  | .error e => .error e
  | .ok cfg =>
    match Y.toText (.object (updateConfig cfg scheme fqdn).entries) with
    | some text => .ok text
    | none => .error "rendering the merged kubeconfig as YAML"

/-! ## Entries -/

theorem appendOrSetNamed_eq (dst : List Json) (name : String) (val : Json) :
    appendOrSetNamed dst name val = setFirst (named name) val dst :=
  setFirst_eq_set _ _ _

theorem named_iff (name : String) (item : Json) :
    named name item = true ↔ (item.get "name").bind Json.asStr = some name :=
  decide_eq_true_iff

/-- An item has one name at most. -/
theorem named_ne {name other : String} (h : name ≠ other) {item : Json}
    (hitem : named name item = true) : named other item = false := by
  refine decide_eq_false fun hother => h ?_
  rw [(named_iff name item).mp hitem] at hother
  exact Option.some.inj hother

/-- The entries of an object with two keys. -/
theorem get_pair {key key' : String} (v v' : Json) (h : key ≠ key') :
    Json.get key (.object [(key, v), (key', v')]) = some v ∧
      Json.get key' (.object [(key, v), (key', v')]) = some v' := by
  have hget (k : String) : Json.get k (.object [(key, v), (key', v')]) =
      ((SortedMap.empty.insert key v).insert key' v').get? k := rfl
  rw [hget, hget, SortedMap.get?_insert, SortedMap.get?_insert, SortedMap.get?_insert, if_neg h,
    if_pos rfl, if_pos rfl]
  exact ⟨rfl, rfl⟩

theorem get_singleton (key : String) (v : Json) : Json.get key (.object [(key, v)]) = some v := by
  show (SortedMap.empty.insert key v).get? key = some v
  rw [SortedMap.get?_insert, if_pos rfl]

theorem named_clusterEntry (scheme fqdn : String) :
    named fqdn (clusterEntry scheme fqdn) = true := by
  rw [named_iff, clusterEntry, (get_pair _ _ (by decide)).2]
  rfl

theorem named_userEntry : named "tailscale-auth" userEntry = true := by decide

theorem named_contextEntry (fqdn : String) : named fqdn (contextEntry fqdn) = true := by
  rw [named_iff, contextEntry, (get_pair _ _ (by decide)).2]
  rfl

/-! ## Documents -/

/-- **What a merge sets**: four keys, each from what the document held there. -/
theorem get?_updateConfig (cfg : Kubeconfig) (scheme fqdn key : String) :
    (updateConfig cfg scheme fqdn).get? key =
      if key = "current-context" then some (.string fqdn)
      else if key = "contexts" then
        some (.array (setFirst (named fqdn) (contextEntry fqdn) (seq cfg "contexts")))
      else if key = "users" then
        some (.array (setFirst (named "tailscale-auth") userEntry (seq cfg "users")))
      else if key = "clusters" then
        some (.array (setFirst (named fqdn) (clusterEntry scheme fqdn) (seq cfg "clusters")))
      else cfg.get? key := by
  have husers (clusters : Json) : seq (cfg.insert "clusters" clusters) "users" =
      seq cfg "users" := by
    rw [seq, SortedMap.get?_insert, if_neg (by decide), seq]
  have hcontexts (clusters users : Json) :
      seq ((cfg.insert "clusters" clusters).insert "users" users) "contexts" =
        seq cfg "contexts" := by
    rw [seq, SortedMap.get?_insert, SortedMap.get?_insert, if_neg (by decide),
      if_neg (by decide), seq]
  rw [updateConfig, husers, hcontexts, SortedMap.get?_insert, SortedMap.get?_insert,
    SortedMap.get?_insert, SortedMap.get?_insert, appendOrSetNamed_eq, appendOrSetNamed_eq,
    appendOrSetNamed_eq]

section Updated
variable (cfg : Kubeconfig) (scheme fqdn : String)

theorem seq_clusters : seq (updateConfig cfg scheme fqdn) "clusters" =
    setFirst (named fqdn) (clusterEntry scheme fqdn) (seq cfg "clusters") := by
  rw [seq, get?_updateConfig, if_neg (by decide), if_neg (by decide), if_neg (by decide),
    if_pos rfl]

theorem seq_users : seq (updateConfig cfg scheme fqdn) "users" =
    setFirst (named "tailscale-auth") userEntry (seq cfg "users") := by
  rw [seq, get?_updateConfig, if_neg (by decide), if_neg (by decide), if_pos rfl]

theorem seq_contexts : seq (updateConfig cfg scheme fqdn) "contexts" =
    setFirst (named fqdn) (contextEntry fqdn) (seq cfg "contexts") := by
  rw [seq, get?_updateConfig, if_neg (by decide), if_pos rfl]

/-- The two marks stay. -/
theorem isConfig_updateConfig (h : IsConfig cfg) : IsConfig (updateConfig cfg scheme fqdn) := by
  rw [IsConfig, get?_updateConfig, get?_updateConfig, if_neg (by decide), if_neg (by decide),
    if_neg (by decide), if_neg (by decide), if_neg (by decide), if_neg (by decide),
    if_neg (by decide), if_neg (by decide)]
  exact h

/-- A second merge of the same cluster changes nothing. -/
theorem updateConfig_updateConfig :
    updateConfig (updateConfig cfg scheme fqdn) scheme fqdn = updateConfig cfg scheme fqdn := by
  refine SortedMap.eq_of_get? fun key => ?_
  rw [get?_updateConfig, seq_clusters, seq_users, seq_contexts,
    setFirst_setFirst (named_clusterEntry scheme fqdn), setFirst_setFirst named_userEntry,
    setFirst_setFirst (named_contextEntry fqdn), get?_updateConfig]
  split_ifs <;> rfl

end Updated

/-! ## What a merge keeps -/

/-- What became of a list whose entry `name` was written: the other items are as they were, in
their order, and there is one item more only where none was named so. -/
structure ListKept (name : String) (before after : List Json) : Prop where
  others : after.filter (fun item => !named name item) =
    before.filter (fun item => !named name item)
  length : after.length = if before.any (named name) then before.length else before.length + 1

theorem ListKept.of_setFirst {name : String} {val : Json} (h : named name val = true)
    (before : List Json) : ListKept name before (setFirst (named name) val before) where
  others := filter_setFirst (by rw [h]; rfl) (fun x hx => by rw [hx]; rfl) before
  length := length_setFirst _ _ _

/-- What became of a document that the cluster `fqdn` was merged into. -/
structure Kept (fqdn : String) (before after : Kubeconfig) : Prop where
  keys : ∀ key, key ∉ ["clusters", "users", "contexts", "current-context"] →
    after.get? key = before.get? key
  clusters : ListKept fqdn (seq before "clusters") (seq after "clusters")
  users : ListKept "tailscale-auth" (seq before "users") (seq after "users")
  contexts : ListKept fqdn (seq before "contexts") (seq after "contexts")

theorem kept_updateConfig (cfg : Kubeconfig) (scheme fqdn : String) :
    Kept fqdn cfg (updateConfig cfg scheme fqdn) where
  keys key hkey := by
    simp only [List.mem_cons, List.not_mem_nil, or_false, not_or] at hkey
    obtain ⟨hclusters, husers, hcontexts, hcurrent⟩ := hkey
    rw [get?_updateConfig, if_neg hcurrent, if_neg hcontexts, if_neg husers, if_neg hclusters]
  clusters := by
    rw [seq_clusters]
    exact .of_setFirst (named_clusterEntry scheme fqdn) _
  users := by
    rw [seq_users]
    exact .of_setFirst named_userEntry _
  contexts := by
    rw [seq_contexts]
    exact .of_setFirst (named_contextEntry fqdn) _

/-! ## Where the current context leads -/

/-- The first entry of a name in a list of the document. -/
def firstNamed (cfg : Kubeconfig) (key name : String) : Option Json :=
  (seq cfg key).find? (named name)

/-- The server that the current context leads to: through the first context of its name to the
first cluster of the name found there. -/
def currentServer (cfg : Kubeconfig) : Option String := do
  let current ← (cfg.get? "current-context").bind Json.asStr
  let context ← (← firstNamed cfg "contexts" current).get "context"
  let cluster ← (context.get "cluster").bind Json.asStr
  let entry ← (← firstNamed cfg "clusters" cluster).get "cluster"
  (entry.get "server").bind Json.asStr

theorem currentServer_updateConfig (cfg : Kubeconfig) (scheme fqdn : String) :
    currentServer (updateConfig cfg scheme fqdn) = some (scheme ++ fqdn) := by
  have hcurrent : (updateConfig cfg scheme fqdn).get? "current-context" = some (.string fqdn) := by
    rw [get?_updateConfig, if_pos rfl]
  have hcontext : firstNamed (updateConfig cfg scheme fqdn) "contexts" fqdn =
      some (contextEntry fqdn) := by
    rw [firstNamed, seq_contexts, find?_setFirst (named_contextEntry fqdn)]
  have hcluster : firstNamed (updateConfig cfg scheme fqdn) "clusters" fqdn =
      some (clusterEntry scheme fqdn) := by
    rw [firstNamed, seq_clusters, find?_setFirst (named_clusterEntry scheme fqdn)]
  have hname : (contextEntry fqdn).get "context" =
      some (.object [("cluster", .string fqdn), ("user", .string "tailscale-auth")]) :=
    (get_pair _ _ (by decide)).1
  have hserver : (clusterEntry scheme fqdn).get "cluster" =
      some (.object [("server", .string (scheme ++ fqdn))]) := (get_pair _ _ (by decide)).1
  have hcluster' := (get_pair (.string fqdn) (.string "tailscale-auth")
    (show "cluster" ≠ "user" by decide)).1
  have hserver' := get_singleton "server" (.string (scheme ++ fqdn))
  simp only [currentServer, hcurrent, Option.bind_eq_bind, Option.bind_some, Json.asStr, hcontext,
    hname, hcluster', hcluster, hserver, hserver']

/-! ## Two clusters -/

/-- The same document but for the order of the three lists and the current context. -/
structure SameButOrder (a b : Kubeconfig) : Prop where
  keys : ∀ key, key ∉ ["clusters", "users", "contexts", "current-context"] →
    a.get? key = b.get? key
  lists : ∀ key ∈ ["clusters", "users", "contexts"], ∃ items items',
    a.get? key = some (.array items) ∧ b.get? key = some (.array items') ∧ items.Perm items'

theorem get?_lists (cfg : Kubeconfig) (scheme fqdn : String) :
    ∀ key ∈ ["clusters", "users", "contexts"], (updateConfig cfg scheme fqdn).get? key =
      some (.array (seq (updateConfig cfg scheme fqdn) key)) := by
  intro key hkey
  simp only [List.mem_cons, List.not_mem_nil, or_false] at hkey
  rcases hkey with rfl | rfl | rfl
  · rw [seq_clusters, get?_updateConfig, if_neg (by decide), if_neg (by decide),
      if_neg (by decide), if_pos rfl]
  · rw [seq_users, get?_updateConfig, if_neg (by decide), if_neg (by decide), if_pos rfl]
  · rw [seq_contexts, get?_updateConfig, if_neg (by decide), if_pos rfl]

/-- Two clusters are merged in either order. -/
theorem updateConfig_comm (cfg : Kubeconfig) (scheme scheme' : String) {f g : String}
    (h : f ≠ g) : SameButOrder (updateConfig (updateConfig cfg scheme f) scheme' g)
      (updateConfig (updateConfig cfg scheme' g) scheme f) where
  keys key hkey := by
    rw [(kept_updateConfig _ _ g).keys key hkey, (kept_updateConfig _ _ f).keys key hkey,
      (kept_updateConfig _ _ f).keys key hkey, (kept_updateConfig _ _ g).keys key hkey]
  lists key hkey := by
    refine ⟨_, _, get?_lists _ _ _ key hkey, get?_lists _ _ _ key hkey, ?_⟩
    simp only [List.mem_cons, List.not_mem_nil, or_false] at hkey
    rcases hkey with rfl | rfl | rfl
    · rw [seq_clusters, seq_clusters, seq_clusters, seq_clusters]
      exact setFirst_comm (named_ne h (named_clusterEntry _ _))
        (named_ne h.symm (named_clusterEntry _ _)) (fun item hitem => named_ne h hitem) _
    · -- both write the one user there is for all
      rw [seq_users, seq_users, seq_users, seq_users]
    · rw [seq_contexts, seq_contexts, seq_contexts, seq_contexts]
      exact setFirst_comm (named_ne h (named_contextEntry _))
        (named_ne h.symm (named_contextEntry _)) (fun item hitem => named_ne h hitem) _

/-! ## Texts -/

/-- A map is made of its own entries. -/
theorem mapOf_entries (m : SortedMap String Json) : Json.mapOf m.entries = m := by
  refine SortedMap.eq_of_get? fun key => ?_
  have hget := SortedMap.get?_foldl_insert (fun v : Json => v) m key
  rw [Option.map_id'] at hget
  exact hget

/-- The texts that are merged into: an empty one, one that reads as null, and a kubeconfig. -/
def Accepted (Y : Yaml) (text : String) : Prop :=
  text = "" ∨ Y.fromStr text = some .null ∨
    ∃ entries, Y.fromStr text = some (.object entries) ∧ IsConfig (Json.mapOf entries)

/-- A text is refused in one way, and exactly when it is not one of those. -/
theorem readKubeconfig_spec (Y : Yaml) (text : String) :
    (Accepted Y text ∧ ∃ cfg, readKubeconfig Y text = .ok cfg) ∨
      (¬Accepted Y text ∧ readKubeconfig Y text = .error invalidKubeconfig) := by
  rcases Decidable.em (text = "") with rfl | hne
  · exact .inl ⟨.inl rfl, _, rfl⟩
  have hempty : ¬text.isEmpty = true := fun h => hne (String.isEmpty_iff.mp h)
  have haccepted : Accepted Y text ↔ Y.fromStr text = some .null ∨
      ∃ entries, Y.fromStr text = some (.object entries) ∧ IsConfig (Json.mapOf entries) :=
    or_iff_right hne
  rw [haccepted, readKubeconfig, if_neg hempty]
  generalize Y.fromStr text = parsed
  match parsed with
  | some .null => exact .inl ⟨.inl rfl, _, rfl⟩
  | some (.object entries) =>
    by_cases hconfig : IsConfig (Json.mapOf entries)
    · refine .inl ⟨.inr ⟨entries, rfl, hconfig⟩, Json.mapOf entries, ?_⟩
      dsimp only
      rw [if_pos hconfig]
    · refine .inr ⟨?_, ?_⟩
      · rintro (h | ⟨entries', h, hconfig'⟩)
        · cases h
        · cases h
          exact hconfig hconfig'
      · dsimp only
        rw [if_neg hconfig]
  | none | some (.bool _) | some (.number _) | some (.string _) | some (.array _) =>
    refine .inr ⟨?_, rfl⟩
    rintro (h | ⟨entries, h, -⟩) <;> cases h

/-- A merge is refused exactly where its text is. -/
theorem updateKubeconfig_refused_iff (Y : Yaml) (text scheme fqdn : String) :
    updateKubeconfig Y text scheme fqdn = .error invalidKubeconfig ↔ ¬Accepted Y text := by
  rcases readKubeconfig_spec Y text with ⟨haccepted, cfg, hread⟩ | ⟨hrefused, hread⟩
  · refine ⟨fun h => absurd h ?_, fun h => absurd haccepted h⟩
    rw [updateKubeconfig, hread]
    dsimp only
    cases Y.toText (.object (updateConfig cfg scheme fqdn).entries) with
    | some out => exact fun h => nomatch h
    | none => exact fun h => absurd (Except.error.inj h) (by decide)
  · rw [updateKubeconfig, hread]
    exact ⟨fun _ => hrefused, fun _ => rfl⟩

/-- The document is written as a text that reads as it. -/
def Yaml.RoundTrips (Y : Yaml) (cfg : Kubeconfig) : Prop :=
  ∃ text, Y.toText (.object cfg.entries) = some text ∧ text ≠ "" ∧
    Y.fromStr text = some (.object cfg.entries)

theorem isConfig_of_read {Y : Yaml} {text : String} {cfg : Kubeconfig}
    (h : readKubeconfig Y text = .ok cfg) : IsConfig cfg := by
  have hfresh : IsConfig freshConfig := by decide
  unfold readKubeconfig at h
  split at h
  · cases h
    exact hfresh
  · split at h
    · cases h
      exact hfresh
    · split at h
      case isTrue hconfig =>
        cases h
        exact hconfig
      case isFalse => cases h
    · cases h

/-- A kubeconfig is read from the text it is written as. -/
theorem Yaml.RoundTrips.read {Y : Yaml} {cfg : Kubeconfig} (hY : Y.RoundTrips cfg)
    (hcfg : IsConfig cfg) :
    ∃ out, Y.toText (.object cfg.entries) = some out ∧ readKubeconfig Y out = .ok cfg := by
  obtain ⟨out, hout, hne, hparsed⟩ := hY
  have hempty : ¬out.isEmpty = true := fun h => hne (String.isEmpty_iff.mp h)
  refine ⟨out, hout, ?_⟩
  rw [readKubeconfig, if_neg hempty, hparsed]
  dsimp only
  rw [mapOf_entries, if_pos hcfg]

/-- **A merge of texts is the merge of what they read as.** -/
theorem updateKubeconfig_ok {Y : Yaml} {text scheme fqdn : String} {cfg : Kubeconfig}
    (hread : readKubeconfig Y text = .ok cfg)
    (hY : Y.RoundTrips (updateConfig cfg scheme fqdn)) :
    ∃ out, Y.toText (.object (updateConfig cfg scheme fqdn).entries) = some out ∧
      updateKubeconfig Y text scheme fqdn = .ok out ∧
      readKubeconfig Y out = .ok (updateConfig cfg scheme fqdn) := by
  obtain ⟨out, hout, hmerged⟩ :=
    hY.read (isConfig_updateConfig cfg scheme fqdn (isConfig_of_read hread))
  refine ⟨out, hout, ?_, hmerged⟩
  rw [updateKubeconfig, hread]
  dsimp only
  rw [hout]

/-- Merges one after the other, each into what the one before it wrote. -/
def mergeAll (Y : Yaml) (text : String) (clusters : List (String × String)) :
    Except String String :=
  clusters.foldlM (fun text cluster => updateKubeconfig Y text cluster.1 cluster.2) text

theorem mergeAll_two {Y : Yaml} {text scheme scheme' f g : String} {cfg : Kubeconfig}
    (hread : readKubeconfig Y text = .ok cfg) (hf : Y.RoundTrips (updateConfig cfg scheme f))
    (hg : Y.RoundTrips (updateConfig (updateConfig cfg scheme f) scheme' g)) :
    ∃ out, mergeAll Y text [(scheme, f), (scheme', g)] = .ok out ∧
      readKubeconfig Y out = .ok (updateConfig (updateConfig cfg scheme f) scheme' g) := by
  obtain ⟨first, -, hfirst, hread'⟩ := updateKubeconfig_ok hread hf
  obtain ⟨out, -, hout, hread''⟩ := updateKubeconfig_ok hread' hg
  refine ⟨out, ?_, hread''⟩
  have hruns : mergeAll Y text [(scheme, f), (scheme', g)] =
      (updateKubeconfig Y text scheme f).bind fun text =>
        (updateKubeconfig Y text scheme' g).bind .ok := rfl
  rw [hruns, hfirst]
  show (updateKubeconfig Y first scheme' g).bind .ok = .ok out
  rw [hout]
  rfl

/-- **What merging a cluster into a kubeconfig does.**

Every text that is accepted gets a merge that reads back as such: the other keys and the other
entries stay as they were, each of the three lists is one entry longer or as long as it was, the
current context leads to the cluster, and the same merge again writes the same text.  Two clusters
merged in either order leave documents that differ in the order of their lists and the current
context only.  A text is refused exactly when it is not empty, does not read as null and does not
read as a mapping with the two marks. -/
theorem kubeconfig_merge_laws (Y : Yaml) (text scheme scheme' f g : String) (cfg : Kubeconfig)
    (hread : readKubeconfig Y text = .ok cfg)
    (hY : ∀ merged ∈ [updateConfig cfg scheme f, updateConfig cfg scheme' g,
      updateConfig (updateConfig cfg scheme f) scheme' g,
      updateConfig (updateConfig cfg scheme' g) scheme f], Y.RoundTrips merged) :
    (∃ out, updateKubeconfig Y text scheme f = .ok out ∧
      readKubeconfig Y out = .ok (updateConfig cfg scheme f) ∧
      updateKubeconfig Y out scheme f = .ok out) ∧
    Kept f cfg (updateConfig cfg scheme f) ∧
    currentServer (updateConfig cfg scheme f) = some (scheme ++ f) ∧
    (f ≠ g → ∃ out out' merged merged',
      mergeAll Y text [(scheme, f), (scheme', g)] = .ok out ∧
      mergeAll Y text [(scheme', g), (scheme, f)] = .ok out' ∧
      readKubeconfig Y out = .ok merged ∧ readKubeconfig Y out' = .ok merged' ∧
      SameButOrder merged merged') ∧
    ∀ other, updateKubeconfig Y other scheme f = .error invalidKubeconfig ↔
      ¬Accepted Y other := by
  simp only [List.forall_mem_cons] at hY
  obtain ⟨hf, hg, hfg, hgf, -⟩ := hY
  refine ⟨?_, kept_updateConfig cfg scheme f, currentServer_updateConfig cfg scheme f, ?_,
    fun other => updateKubeconfig_refused_iff Y other scheme f⟩
  · obtain ⟨out, htext, hout, hread'⟩ := updateKubeconfig_ok hread hf
    refine ⟨out, hout, hread', ?_⟩
    rw [updateKubeconfig, hread']
    dsimp only
    rw [updateConfig_updateConfig, htext]
  · intro hne
    obtain ⟨out, hout, hmerged⟩ := mergeAll_two hread hf hfg
    obtain ⟨out', hout', hmerged'⟩ := mergeAll_two hread hg hgf
    exact ⟨out, out', _, _, hout, hout', hmerged, hmerged',
      updateConfig_comm cfg scheme scheme' hne⟩

/-! ## Documents of plain texts -/

mutual

/-- The lines of a value in block style, its texts plain. -/
def blockLines : Json → List String
  | .null => ["null"]
  | .bool b => [toString b]
  | .number text => [text]
  | .string s => [s]
  | .array items => blockItems items
  | .object entries => blockEntries entries

def blockItems : List Json → List String
  | [] => []
  | item :: rest =>
    (match blockLines item with
      | [] => []
      | line :: lines => ("- " ++ line) :: lines.map ("  " ++ ·)) ++ blockItems rest

def blockEntries : List (String × Json) → List String
  | [] => []
  | entry :: rest => blockEntry entry ++ blockEntries rest

def blockEntry : String × Json → List String
  | (key, .array items) => (key ++ ":") :: blockItems items
  | (key, .object entries) => (key ++ ":") :: (blockEntries entries).map ("  " ++ ·)
  | (key, .null) => [key ++ ": null"]
  | (key, .bool b) => [key ++ ": " ++ toString b]
  | (key, .number text) => [key ++ ": " ++ text]
  | (key, .string s) => [key ++ ": " ++ s]

end

def blockText (v : Json) : String := String.join ((blockLines v).map (· ++ "\n"))

/-- The text of a document. -/
def configText (cfg : Kubeconfig) : String := blockText (.object cfg.entries)

/-- YAML as far as these documents go: they are written in block style, and their texts read. -/
def blockYaml (documents : List Kubeconfig) : Yaml where
  fromStr text := (documents.find? fun cfg => decide (configText cfg = text)).map fun cfg =>
    .object cfg.entries
  toText v := some (blockText v)

/-- Documents of different texts are read back from them. -/
theorem roundTrips_blockYaml {documents : List Kubeconfig}
    (h : "" ∉ documents.map configText ∧ (documents.map configText).Nodup) :
    ∀ cfg ∈ documents, (blockYaml documents).RoundTrips cfg := by
  intro cfg hcfg
  have hne : configText cfg ≠ "" := fun hempty => h.1 (List.mem_map.mpr ⟨cfg, hcfg, hempty⟩)
  refine ⟨configText cfg, rfl, hne, ?_⟩
  have hfound : documents.find? (fun other => decide (configText other = configText cfg)) =
      some cfg := by
    cases hfind : documents.find? (fun other => decide (configText other = configText cfg)) with
    | none => exact absurd (decide_eq_true rfl) (List.find?_eq_none.mp hfind cfg hcfg)
    | some other =>
      have hpasses := List.find?_some hfind
      have hsame : configText other = configText cfg := of_decide_eq_true hpasses
      have hother := List.mem_of_find?_eq_some hfind
      rw [List.inj_on_of_nodup_map h.2 hother hcfg hsame]
  show (documents.find? _).map _ = _
  rw [hfound]
  rfl

/-- The two clusters of a tailnet, merged in either order into nothing. -/
def aThenB : Kubeconfig :=
  updateConfig (updateConfig freshConfig "https://" "a.ts.net") "http://" "b.ts.net"

def bThenA : Kubeconfig :=
  updateConfig (updateConfig freshConfig "http://" "b.ts.net") "https://" "a.ts.net"

def twoClusters : Yaml :=
  blockYaml [updateConfig freshConfig "https://" "a.ts.net",
    updateConfig freshConfig "http://" "b.ts.net", aThenB, bThenA]

theorem roundTrips_twoClusters :
    ∀ merged ∈ [updateConfig freshConfig "https://" "a.ts.net",
      updateConfig freshConfig "http://" "b.ts.net", aThenB, bThenA],
      twoClusters.RoundTrips merged :=
  roundTrips_blockYaml (by decide +kernel)

/-- A kubeconfig in use: another cluster with its user and context, and a preference. -/
def usedConfig : Kubeconfig :=
  ((((freshConfig.insert "clusters" (.array [clusterEntry "https://" "office.ts.net"])).insert
    "users" (.array [.object [("name", .string "admin"),
      ("user", .object [("token", .string "letmein")])]])).insert
    "contexts" (.array [.object [("context", .object [("cluster", .string "office.ts.net"),
      ("user", .string "admin")]), ("name", .string "office")]])).insert
    "current-context" (.string "office")).insert "preferences" (.object [("colors", .bool true)])

def usedClusters : Yaml :=
  blockYaml [usedConfig, updateConfig usedConfig "https://" "a.ts.net",
    updateConfig usedConfig "http://" "b.ts.net",
    updateConfig (updateConfig usedConfig "https://" "a.ts.net") "http://" "b.ts.net",
    updateConfig (updateConfig usedConfig "http://" "b.ts.net") "https://" "a.ts.net"]

/-- A cluster is merged beside the one in use, which stays with its user, its context and the
    preference. -/
theorem kubeconfig_merge_laws_used :
    (∃ out, updateKubeconfig usedClusters (configText usedConfig) "https://" "a.ts.net" = .ok out ∧
      readKubeconfig usedClusters out = .ok (updateConfig usedConfig "https://" "a.ts.net") ∧
      updateKubeconfig usedClusters out "https://" "a.ts.net" = .ok out) ∧
    Kept "a.ts.net" usedConfig (updateConfig usedConfig "https://" "a.ts.net") ∧
    seq (updateConfig usedConfig "https://" "a.ts.net") "clusters" =
      [clusterEntry "https://" "office.ts.net", clusterEntry "https://" "a.ts.net"] ∧
    ∃ out out' merged merged',
      mergeAll usedClusters (configText usedConfig)
        [("https://", "a.ts.net"), ("http://", "b.ts.net")] = .ok out ∧
      mergeAll usedClusters (configText usedConfig)
        [("http://", "b.ts.net"), ("https://", "a.ts.net")] = .ok out' ∧
      readKubeconfig usedClusters out = .ok merged ∧
      readKubeconfig usedClusters out' = .ok merged' ∧ SameButOrder merged merged' := by
  have hround : ∀ cfg ∈ _, usedClusters.RoundTrips cfg := roundTrips_blockYaml (by decide +kernel)
  have hread : readKubeconfig usedClusters (configText usedConfig) = .ok usedConfig := by
    obtain ⟨out, hout, hread⟩ := (hround usedConfig List.mem_cons_self).read (by decide)
    obtain rfl := Option.some.inj hout
    exact hread
  have hlaws := kubeconfig_merge_laws usedClusters (configText usedConfig) "https://" "http://"
    "a.ts.net" "b.ts.net" usedConfig hread
    fun merged hmerged => hround merged (List.mem_cons_of_mem _ hmerged)
  exact ⟨hlaws.1, hlaws.2.1, rfl, hlaws.2.2.2.1 (by decide)⟩

/-- Where each of the three keys holds a list or nothing. -/
def ListsOrAbsent (cfg : Kubeconfig) : Prop :=
  ∀ key ∈ ["clusters", "users", "contexts"], ∀ v, cfg.get? key = some v → ∃ items, v = .array items

def textForClusters : Kubeconfig := freshConfig.insert "clusters" (.string "oops")

/-- A kubeconfig with a text for its clusters is not refused: the text is written over. -/
theorem text_for_clusters_accepted :
    readKubeconfig (blockYaml [textForClusters]) "apiVersion: v1\nclusters: oops\nkind: Config\n" =
        .ok textForClusters ∧
      ¬ListsOrAbsent textForClusters ∧
      updateKubeconfig (blockYaml [textForClusters])
          "apiVersion: v1\nclusters: oops\nkind: Config\n" "https://" "a.ts.net" =
        .ok ("apiVersion: v1\nclusters:\n- cluster:\n    server: https://a.ts.net\n" ++
          "  name: a.ts.net\ncontexts:\n- context:\n    cluster: a.ts.net\n" ++
          "    user: tailscale-auth\n  name: a.ts.net\ncurrent-context: a.ts.net\n" ++
          "kind: Config\nusers:\n- name: tailscale-auth\n  user:\n    token: unused\n") := by
  refine ⟨rfl, fun h => ?_, ?_⟩
  · obtain ⟨items, hitems⟩ := h "clusters" List.mem_cons_self (.string "oops") rfl
    cases hitems
  · have hmerged : updateKubeconfig (blockYaml [textForClusters])
        "apiVersion: v1\nclusters: oops\nkind: Config\n" "https://" "a.ts.net" =
          .ok (configText (updateConfig textForClusters "https://" "a.ts.net")) := rfl
    rw [hmerged]
    exact congrArg Except.ok (by decide +kernel)

end Tailnetd
