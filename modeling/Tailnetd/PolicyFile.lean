/-
  The system-policy file (`ipn/syspolicy.rs`): its check, its listing and its typed readers.

  A document is a map of policy keys to JSON values.  It is checked as a whole before it is taken
  in, and then read along several paths: the listing renders every configured key as a text, the
  typed readers parse that text back, and the lists and the registration credential are carried
  beside the listing because their text would not do.

  `Json.decode` says what a value means at the type its key is declared with.  A document that
  passes the check is one that decodes throughout, the listing shows what it decodes to, and every
  reader gets back what the document gives: for a duration through the text of the duration, which
  is not the text the document has.
-/
import Tailnetd.SysPolicy
import Tailnetd.DurationText
import Tailnetd.Lib.SortedMap
import Mathlib.Data.String.Basic

namespace Tailnetd

/-! ## Documents -/

/-- `serde_json::Value`. -/
inductive Json where
  | null
  | bool (b : Bool)
  | number (text : String)
  | string (s : String)
  | array (items : List Json)
  | object (entries : List (String × Json))

/-- `Value::as_str`. -/
def Json.asStr : Json → Option String
  | .string s => some s
  | _ => none

/-- `Map<String, Value>`: a policy document, in the order of its keys. -/
abbrev PolicyStore := SortedMap String Json

/-- `go_type_name`. -/
def Json.goTypeName : Json → String
  | .null => "<nil>"
  | .bool _ => "bool"
  | .number _ => "json.Number"
  | .string _ => "string"
  | .array _ => "[]interface \x7b\x7d"
  | .object _ => "map[string]interface \x7b\x7d"

/-- `wanted_json_type`. -/
def ValueType.wantedJsonType : ValueType → String
  | .boolean => "bool"
  | .stringList => "array"
  | _ => "string"

/-- `type_mismatch`. -/
def typeMismatch (key : String) (value : Json) (ty : ValueType) : String :=
  "type mismatch: " ++ quoted key ++ " is " ++ value.goTypeName ++ ", want " ++ ty.wantedJsonType

/-- `as_string`. -/
def asString (value : Json) (key : String) : Except String String :=
  match value.asStr with
  | some s => .ok s
  | none => .error (typeMismatch key value .string)

/-- The strings of a list; the first item that is none is named with its index. -/
def readStrings (key : String) : Nat → List Json → Except String (List String)
  | _, [] => .ok []
  | i, item :: items =>
    match item.asStr with
    | some s => (readStrings key (i + 1) items).map (s :: ·)
    | none =>
      .error ("type mismatch: " ++ quoted key ++ "[" ++ toString i ++ "] is " ++
        item.goTypeName ++ ", want string")

/-- `read_value`: a value read at the type of its key, rendered. -/
def readValue (value : Json) (key : String) : ValueType → Except String String
  | .boolean =>
    match value with
    | .bool b => .ok (toString b)
    | _ => .error (typeMismatch key value .boolean)
  | .string => asString value key
  | .stringList =>
    match value with
    | .array items =>
      (readStrings key 0 items).map fun out => "[" ++ " ".intercalate out ++ "]"
    | _ => .error (typeMismatch key value .stringList)
  | .preferenceOption =>
    (asString value key).map fun s =>
      if s = "always" then "always" else if s = "never" then "never" else "user-decides"
  | .visibility =>
    (asString value key).map fun s => if s = "hide" then "hide" else "show"
  | .duration =>
    match asString value key with
    | .error e => .error e
    | .ok s => (parseGoDuration s).map formatGoDuration

/-- `validate_enum`: a string, and one of the listed spellings. -/
def validateEnum (value : Json) (key : String) (allowed : List String)
    (typeName allowedText : String) : Except String Unit :=
  match asString value key with
  | .error e => .error e
  | .ok s =>
    if s ∈ allowed then .ok ()
    else
      .error ("type mismatch: " ++ quoted s ++ " is not a valid " ++ typeName ++ " " ++ allowedText)

/-- The check of one value: stricter than reading it for the two types of fixed spellings. -/
def checkValue (value : Json) (key : String) : ValueType → Except String Unit
  | .preferenceOption =>
    validateEnum value key ["always", "never", "user-decides"] "PreferenceOption"
      "(\"always\", \"never\", or \"user-decides\")"
  | .visibility =>
    validateEnum value key ["show", "hide"] "Visibility" "(\"show\" or \"hide\")"
  | ty => (readValue value key ty).map fun _ => ()

/-- What is wrong with one entry of a document. -/
def entryProblem (entry : String × Json) : Option String :=
  match definitionOf entry.1 with
  | none => some ("unknown policy setting " ++ quoted entry.1)
  | some ty =>
    match checkValue entry.2 entry.1 ty with
    | .ok _ => none
    | .error problem => some (quoted entry.1 ++ ": " ++ problem)

/-- `validate`: every problem, a line each, in the order of the keys. -/
def validate (store : PolicyStore) : Except String Unit :=
  let problems := store.entries.filterMap entryProblem
  if problems = [] then .ok () else .error (joinLines problems)

/-! ## Reading a document -/

/-- `PKEY_AUTH_KEY`. -/
def pkeyAuthKey : String := "AuthKey"

/-- `REDACTED`. -/
def redacted : String := "<redacted>"

/-- `DEVICE_SCOPE`. -/
def deviceScope : String := "Device"

/-- `PolicySetting` with all that the listing shows: where the value is from, and why there is
    none. -/
structure SettingRow extends PolicySetting where
  origin : String
  error : Option String
  deriving DecidableEq, Repr

/-- The row of one configured key; the credential is read and then left out. -/
def settingRow (sourceName : String) (value : Json) (d : String × ValueType) : SettingRow :=
  let origin := sourceName ++ " (" ++ deviceScope ++ ")"
  match readValue value d.1 d.2 with
  | .ok rendered =>
    if d.1 = pkeyAuthKey then ⟨⟨d.1, some redacted⟩, origin, none⟩
    else ⟨⟨d.1, some rendered⟩, origin, none⟩
  | .error text => ⟨⟨d.1, none⟩, origin, some text⟩

/-- `read_settings`: a row for every definition that the document configures. -/
def readSettings (store : PolicyStore) (sourceName : String) : List SettingRow :=
  definitions.filterMap fun d => (store.get? d.1).map fun value => settingRow sourceName value d

/-- `read_auth_key`. -/
def readAuthKey (store : PolicyStore) : Option String := (store.get? pkeyAuthKey).bind Json.asStr

/-- `read_string_lists`: every configured list that decodes. -/
def readStringLists (store : PolicyStore) : List (String × List String) :=
  (definitions.filter fun d => d.2 == .stringList).filterMap fun d =>
    match store.get? d.1 with
    | some (.array items) => (items.mapM Json.asStr).map fun values => (d.1, values)
    | _ => none

/-- `PolicySource` with the lists that a document configures. -/
structure LoadedSource extends PolicySource where
  stringLists : List (String × List String)

/-- `read_source`. -/
def readSource (store : PolicyStore) (sourceName : String) : LoadedSource where
  settings := (readSettings store sourceName).map SettingRow.toPolicySetting
  authKey := readAuthKey store
  stringLists := readStringLists store

/-- `configured_string_list`: the newest source that configures the key answers. -/
def configuredStringList (sources : List LoadedSource) (key : String) : Option (List String) :=
  sources.reverse.findSome? fun source =>
    (source.stringLists.find? fun entry => entry.1 == key).map Prod.snd

/-! ## What a document gives -/

/-- A policy value at its type. -/
inductive PolicyValue where
  | boolean (b : Bool)
  | string (s : String)
  | stringList (items : List String)
  | preference (option : PreferenceOption)
  | visibility (shown : Bool)
  | duration (ns : Int)
  deriving DecidableEq, Repr

/-- The type of a value. -/
def PolicyValue.type : PolicyValue → ValueType
  | .boolean _ => .boolean
  | .string _ => .string
  | .stringList _ => .stringList
  | .preference _ => .preferenceOption
  | .visibility _ => .visibility
  | .duration _ => .duration

/-- The spelling of a preference option. -/
def PreferenceOption.spelling : PreferenceOption → String
  | .always => "always"
  | .never => "never"
  | .userDecides => "user-decides"

/-- The option a text spells. -/
def PreferenceOption.ofSpelling (s : String) : Option PreferenceOption :=
  [PreferenceOption.always, .never, .userDecides].find? fun option => option.spelling == s

/-- The visibility a text spells. -/
def visibilityOf (s : String) : Option Bool :=
  if s = "show" then some true else if s = "hide" then some false else none

/-- What a JSON value means at a type; nothing when it is no value of the type. -/
def Json.decode : ValueType → Json → Option PolicyValue
  | .boolean, .bool b => some (.boolean b)
  | .string, .string s => some (.string s)
  | .stringList, .array items => (items.mapM Json.asStr).map .stringList
  | .preferenceOption, .string s => (PreferenceOption.ofSpelling s).map .preference
  | .visibility, .string s => (visibilityOf s).map .visibility
  | .duration, .string s => (parseGoDuration s).toOption.map .duration
  | _, _ => none

/-- The text of a value in the listing. -/
def PolicyValue.render : PolicyValue → String
  | .boolean b => toString b
  | .string s => s
  | .stringList items => "[" ++ " ".intercalate items ++ "]"
  | .preference option => option.spelling
  | .visibility shown => if shown then "show" else "hide"
  | .duration ns => formatGoDuration ns

/-- The value that a document gives a key. -/
def PolicyStore.given (store : PolicyStore) (key : String) : Option PolicyValue :=
  (definitionOf key).bind fun ty => (store.get? key).bind (Json.decode ty)

/-! ## The check -/

theorem ofSpelling_spelling {s : String} {option : PreferenceOption}
    (h : PreferenceOption.ofSpelling s = some option) : option.spelling = s := by
  simpa using List.find?_some h

theorem ofSpelling_isSome {s : String} :
    (PreferenceOption.ofSpelling s).isSome = true ↔ s ∈ ["always", "never", "user-decides"] := by
  rw [PreferenceOption.ofSpelling, List.find?_isSome]
  constructor
  · rintro ⟨option, -, h⟩
    rw [← beq_iff_eq.mp h]
    cases option <;> decide
  · intro h
    simp only [List.mem_cons, List.not_mem_nil, or_false] at h
    obtain rfl | rfl | rfl := h
    · exact ⟨.always, by decide, by decide⟩
    · exact ⟨.never, by decide, by decide⟩
    · exact ⟨.userDecides, by decide, by decide⟩

theorem visibilityOf_isSome {s : String} :
    (visibilityOf s).isSome = true ↔ s ∈ ["show", "hide"] := by
  unfold visibilityOf
  split
  · rename_i h
    simp [h]
  · split
    · rename_i h
      simp [h]
    · rename_i hshow hhide
      simp [hshow, hhide]

/-- The strings of a list are read exactly when every item is one. -/
theorem readStrings_eq (key : String) (i : Nat) (items : List Json) :
    (readStrings key i items).toOption = items.mapM Json.asStr := by
  induction items generalizing i with
  | nil => rfl
  | cons item items ih =>
    rw [readStrings, List.mapM_cons]
    cases hitem : item.asStr with
    | none => rfl
    | some s =>
      have hrest := ih (i + 1)
      rw [← hrest]
      cases readStrings key (i + 1) items <;> rfl

/-- **The listing renders what a value decodes to.** -/
theorem readValue_of_decode {ty : ValueType} {value : Json} {v : PolicyValue} (key : String)
    (h : value.decode ty = some v) : readValue value key ty = .ok v.render := by
  cases ty with
  | boolean => cases value <;> cases h; rfl
  | string => cases value <;> cases h; rfl
  | stringList =>
    cases value with
    | array items =>
      obtain ⟨strings, hstrings, rfl⟩ := Option.map_eq_some_iff.mp h
      have hread : (readStrings key 0 items).toOption = some strings := by
        rw [readStrings_eq, hstrings]
      cases hout : readStrings key 0 items with
      | error e => rw [hout] at hread; cases hread
      | ok out =>
        rw [hout] at hread
        cases hread
        rw [readValue, hout]
        rfl
    | _ => cases h
  | preferenceOption =>
    cases value with
    | string s =>
      obtain ⟨option, hoption, rfl⟩ := Option.map_eq_some_iff.mp h
      have hs := ofSpelling_spelling hoption
      subst hs
      cases option <;> rfl
    | _ => cases h
  | visibility =>
    cases value with
    | string s =>
      obtain ⟨shown, hshown, rfl⟩ := Option.map_eq_some_iff.mp h
      unfold visibilityOf at hshown
      split at hshown
      · rename_i hs
        cases hshown
        rw [hs]
        rfl
      · split at hshown
        · rename_i hs
          cases hshown
          rw [hs]
          rfl
        · cases hshown
    | _ => cases h
  | duration =>
    cases value with
    | string s =>
      obtain ⟨ns, hns, rfl⟩ := Option.map_eq_some_iff.mp h
      cases hparse : parseGoDuration s with
      | error e => rw [hparse] at hns; cases hns
      | ok d =>
        rw [hparse] at hns
        cases hns
        show (parseGoDuration s).map formatGoDuration = _
        rw [hparse]
        rfl
    | _ => cases h

/-- What does not decode is not read either, at the types whose reading coerces nothing. -/
theorem readValue_of_undecoded {ty : ValueType} {value : Json} (key : String)
    (hpreference : ty ≠ .preferenceOption) (hvisibility : ty ≠ .visibility)
    (h : value.decode ty = none) : ∃ e, readValue value key ty = .error e := by
  cases ty with
  | boolean =>
    cases value with
    | bool b => cases h
    | _ => exact ⟨_, rfl⟩
  | string =>
    cases value with
    | string s => cases h
    | _ => exact ⟨_, rfl⟩
  | stringList =>
    cases value with
    | array items =>
      have hstrings : items.mapM Json.asStr = none := Option.map_eq_none_iff.mp h
      rw [← readStrings_eq key 0] at hstrings
      cases hout : readStrings key 0 items with
      | error e =>
        rw [readValue, hout]
        exact ⟨e, rfl⟩
      | ok out =>
        rw [hout] at hstrings
        cases hstrings
    | _ => exact ⟨_, rfl⟩
  | preferenceOption => exact absurd rfl hpreference
  | visibility => exact absurd rfl hvisibility
  | duration =>
    cases value with
    | string s =>
      have hnone : (parseGoDuration s).toOption = none := Option.map_eq_none_iff.mp h
      show ∃ e, (parseGoDuration s).map formatGoDuration = .error e
      cases hparse : parseGoDuration s with
      | error e => exact ⟨e, rfl⟩
      | ok d =>
        rw [hparse] at hnone
        cases hnone
    | _ => exact ⟨_, rfl⟩

/-- The check of a type of fixed spellings. -/
theorem validateEnum_ok_iff {value : Json} {key typeName allowedText : String}
    {allowed : List String} :
    validateEnum value key allowed typeName allowedText = .ok () ↔
      ∃ s, value = .string s ∧ s ∈ allowed := by
  cases value with
  | string s =>
    show (if s ∈ allowed then Except.ok () else _) = _ ↔ _
    by_cases hs : s ∈ allowed
    · rw [if_pos hs]
      exact iff_of_true rfl ⟨s, rfl, hs⟩
    · rw [if_neg hs]
      refine iff_of_false (fun h => by cases h) ?_
      rintro ⟨s', heq, hs'⟩
      cases heq
      exact hs hs'
  | _ => exact iff_of_false (fun h => by cases h) (fun ⟨s, heq, hs⟩ => by cases heq)

/-- A value passes the check of its type exactly when it decodes. -/
theorem checkValue_ok_iff {ty : ValueType} {value : Json} (key : String) :
    checkValue value key ty = .ok () ↔ (value.decode ty).isSome = true := by
  -- five types are checked by reading, which coerces nothing there
  have hread : ty ≠ .preferenceOption → ty ≠ .visibility →
      ((readValue value key ty).map (fun _ => ()) = .ok () ↔ (value.decode ty).isSome = true) := by
    intro hpreference hvisibility
    cases hdecode : value.decode ty with
    | none =>
      obtain ⟨e, he⟩ := readValue_of_undecoded key hpreference hvisibility hdecode
      rw [he]
      exact iff_of_false (fun h => by cases h) Bool.false_ne_true
    | some v =>
      rw [readValue_of_decode key hdecode]
      exact iff_of_true rfl rfl
  cases ty with
  | preferenceOption =>
    rw [checkValue, validateEnum_ok_iff]
    cases value with
    | string s =>
      rw [Json.decode, Option.isSome_map, ofSpelling_isSome]
      constructor
      · rintro ⟨s', heq, hs'⟩
        cases heq
        exact hs'
      · exact fun hs => ⟨s, rfl, hs⟩
    | _ => exact iff_of_false (fun ⟨s, heq, hs⟩ => by cases heq) Bool.false_ne_true
  | visibility =>
    rw [checkValue, validateEnum_ok_iff]
    cases value with
    | string s =>
      rw [Json.decode, Option.isSome_map, visibilityOf_isSome]
      constructor
      · rintro ⟨s', heq, hs'⟩
        cases heq
        exact hs'
      · exact fun hs => ⟨s, rfl, hs⟩
    | _ => exact iff_of_false (fun ⟨s, heq, hs⟩ => by cases heq) Bool.false_ne_true
  | boolean => exact hread (by decide) (by decide)
  | string => exact hread (by decide) (by decide)
  | stringList => exact hread (by decide) (by decide)
  | duration => exact hread (by decide) (by decide)

/-- An entry is in order exactly when its key is known and its value decodes. -/
theorem entryProblem_none_iff {key : String} {value : Json} :
    entryProblem (key, value) = none ↔
      ((definitionOf key).bind fun ty => value.decode ty).isSome = true := by
  rw [entryProblem]
  dsimp only
  cases definitionOf key with
  | none => exact iff_of_false (fun h => by cases h) Bool.false_ne_true
  | some ty =>
    dsimp only [Option.bind_some]
    rw [← checkValue_ok_iff key]
    cases checkValue value key ty with
    | ok u => exact iff_of_true rfl rfl
    | error e => exact iff_of_false (fun h => by cases h) (fun h => by cases h)

/-- **A document passes the check exactly when every key is known and every value decodes.** -/
theorem validate_ok_iff {store : PolicyStore} :
    validate store = .ok () ↔ ∀ key value, store.get? key = some value →
      (store.given key).isSome = true := by
  have hproblems : validate store = .ok () ↔ store.entries.filterMap entryProblem = [] := by
    rw [validate]
    split
    · rename_i h
      exact iff_of_true rfl h
    · rename_i h
      exact iff_of_false (fun h => by cases h) h
  rw [hproblems, List.filterMap_eq_nil_iff]
  constructor
  · intro hall key value hvalue
    have hnone := hall (key, value) (SortedMap.get?_eq_some_iff.mp hvalue)
    rw [PolicyStore.given, hvalue]
    exact entryProblem_none_iff.mp hnone
  · rintro hall ⟨key, value⟩ hmem
    have hvalue : store.get? key = some value := SortedMap.get?_eq_some_iff.mpr hmem
    have hgiven := hall key value hvalue
    rw [PolicyStore.given, hvalue] at hgiven
    exact entryProblem_none_iff.mpr hgiven

/-! ## The rows -/

/-- No key is declared twice. -/
theorem definitions_keys_nodup : (definitions.map Prod.fst).Nodup := by decide

theorem definitionOf_of_mem : ∀ d ∈ definitions, definitionOf d.1 = some d.2 := by decide

theorem definitionOf_authKey : definitionOf pkeyAuthKey = some .string := rfl

@[simp] theorem settingRow_key (sourceName : String) (value : Json) (d : String × ValueType) :
    (settingRow sourceName value d).key = d.1 := by
  unfold settingRow
  dsimp only
  split
  · split <;> rfl
  · rfl

/-- The rows made for the keys of a table: the row of a key is the one its entry makes. -/
theorem find?_filterMap_key {α β : Type} (table : List (String × α)) (row : String × α → Option β)
    (keyOf : β → String) (hkey : ∀ d r, row d = some r → keyOf r = d.1)
    (hnodup : (table.map Prod.fst).Nodup) (key : String) :
    (table.filterMap row).find? (fun r => keyOf r == key) =
      (table.find? fun d => d.1 == key).bind row := by
  induction table with
  | nil => rfl
  | cons d table ih =>
    obtain ⟨hnew, hrest⟩ := List.nodup_cons.mp hnodup
    have hrow := ih hrest
    by_cases hd : d.1 = key
    · have hnone : table.find? (fun d => d.1 == key) = none := by
        rw [List.find?_eq_none]
        intro d' hd' heq
        exact hnew (List.mem_map.mpr ⟨d', hd', (beq_iff_eq.mp heq).trans hd.symm⟩)
      rw [hnone] at hrow
      rw [List.find?_cons_of_pos (by simpa using hd), List.filterMap_cons]
      cases hr : row d with
      | none => exact hrow.trans hr.symm
      | some r =>
        dsimp only
        rw [List.find?_cons_of_pos (by simpa using (hkey d r hr).trans hd)]
        exact hr.symm
    · rw [List.find?_cons_of_neg (by simpa using hd), List.filterMap_cons]
      cases hr : row d with
      | none => exact hrow
      | some r =>
        dsimp only
        rw [List.find?_cons_of_neg (by simpa [hkey d r hr] using hd)]
        exact hrow

/-- The row of a key: there if the key is declared and configured. -/
theorem find?_readSettings (store : PolicyStore) (sourceName key : String) :
    (readSettings store sourceName).find? (fun row => row.key == key) =
      (definitionOf key).bind fun ty =>
        (store.get? key).map fun value => settingRow sourceName value (key, ty) := by
  have hrow := find?_filterMap_key definitions
    (fun d => (store.get? d.1).map fun value => settingRow sourceName value d)
    (fun row => row.key) ?_ definitions_keys_nodup key
  · rw [readSettings, hrow, definitionOf]
    cases hfind : definitions.find? fun d => d.1 == key with
    | none => rfl
    | some d =>
      have hkey : d.1 = key := by simpa using List.find?_some hfind
      subst hkey
      rfl
  · intro d row hmade
    obtain ⟨value, -, rfl⟩ := Option.map_eq_some_iff.mp hmade
    exact settingRow_key sourceName value d

/-- The keys of the rows: the declared keys that the document configures. -/
theorem map_key_filterMap (store : PolicyStore) (sourceName : String)
    (table : List (String × ValueType)) :
    (table.filterMap fun d => (store.get? d.1).map fun value => settingRow sourceName value d).map
        (fun row => row.key) =
      (table.map Prod.fst).filter fun key => (store.get? key).isSome := by
  induction table with
  | nil => rfl
  | cons d table ih =>
    rw [List.filterMap_cons, List.map_cons]
    cases hvalue : store.get? d.1 with
    | none =>
      rw [List.filter_cons_of_neg (by rw [hvalue]; decide)]
      exact ih
    | some value =>
      rw [List.filter_cons_of_pos (by rw [hvalue]; rfl), ← ih]
      exact congrArg (· :: _) (settingRow_key sourceName value d)

/-- **Exactly one row for every configured key** of a document that passes the check. -/
theorem keys_readSettings {store : PolicyStore} (hvalid : validate store = .ok ())
    (sourceName : String) :
    ((readSettings store sourceName).map fun row => row.key).Perm (store.entries.map Prod.fst) := by
  have hnodup : ((definitions.map Prod.fst).filter fun key => (store.get? key).isSome).Nodup :=
    definitions_keys_nodup.filter _
  rw [readSettings, map_key_filterMap]
  refine (List.perm_ext_iff_of_nodup hnodup store.keys_nodup).mpr fun key => ?_
  rw [List.mem_filter]
  constructor
  · rintro ⟨-, hsome⟩
    obtain ⟨value, hvalue⟩ := Option.isSome_iff_exists.mp hsome
    exact List.mem_map.mpr ⟨_, SortedMap.get?_eq_some_iff.mp hvalue, rfl⟩
  · rintro hmem
    obtain ⟨⟨key, value⟩, hentry, rfl⟩ := List.mem_map.mp hmem
    have hvalue := SortedMap.get?_eq_some_iff.mpr hentry
    -- a key that the check lets through is declared
    have hgiven := validate_ok_iff.mp hvalid key value hvalue
    refine ⟨?_, by rw [hvalue]; rfl⟩
    rw [PolicyStore.given, definitionOf] at hgiven
    cases hfind : definitions.find? fun d => d.1 == key with
    | none =>
      rw [hfind] at hgiven
      cases hgiven
    | some d =>
      have hkey : d.1 = key := by simpa using List.find?_some hfind
      exact List.mem_map.mpr ⟨d, List.mem_of_find?_eq_some hfind, hkey⟩

/-- The row of a key that is given a value. -/
theorem settingRow_of_decode {value : Json} {d : String × ValueType} {v : PolicyValue}
    (sourceName : String) (h : value.decode d.2 = some v) :
    settingRow sourceName value d =
      ⟨⟨d.1, some (if d.1 = pkeyAuthKey then redacted else v.render)⟩,
        sourceName ++ " (" ++ deviceScope ++ ")", none⟩ := by
  rw [settingRow, readValue_of_decode d.1 h]
  dsimp only
  split <;> rfl

/-- **The text a reader finds** for a key of its type, in a document that passes the check. -/
theorem configuredValue_readSource {store : PolicyStore} (hvalid : validate store = .ok ())
    (sourceName key : String) (ty : ValueType) :
    configuredValue (readSource store sourceName).settings ty key =
      if definitionOf key = some ty then
        (store.given key).map fun v => if key = pkeyAuthKey then redacted else v.render
      else none := by
  rw [configuredValue]
  by_cases hty : definitionOf key = some ty
  · rw [if_pos hty, if_pos hty]
    have hfind : (readSource store sourceName).settings.find? (fun s => s.key == key) =
        ((readSettings store sourceName).find? fun row => row.key == key).map
          SettingRow.toPolicySetting := by
      rw [readSource, List.find?_map]
      rfl
    rw [hfind, find?_readSettings, PolicyStore.given, hty]
    dsimp only [Option.bind_some]
    cases hvalue : store.get? key with
    | none => rfl
    | some value =>
      have hgiven := validate_ok_iff.mp hvalid key value hvalue
      rw [PolicyStore.given, hty, hvalue] at hgiven
      obtain ⟨v, hv⟩ := Option.isSome_iff_exists.mp hgiven
      have hdecode : value.decode ty = some v := hv
      rw [Option.map_some, @settingRow_of_decode value (key, ty) v sourceName hdecode]
      show some _ = (value.decode ty).map _
      rw [hdecode]
      rfl
  · rw [if_neg hty, if_neg hty]

/-- **Every row is that of a value the document gives**, and none carries an error. -/
theorem mem_readSettings {store : PolicyStore} (hvalid : validate store = .ok ())
    {sourceName : String} {row : SettingRow} (hrow : row ∈ readSettings store sourceName) :
    ∃ v, store.given row.key = some v ∧
      row = ⟨⟨row.key, some (if row.key = pkeyAuthKey then redacted else v.render)⟩,
        sourceName ++ " (" ++ deviceScope ++ ")", none⟩ := by
  obtain ⟨d, hd, hmade⟩ := List.mem_filterMap.mp hrow
  obtain ⟨value, hvalue, rfl⟩ := Option.map_eq_some_iff.mp hmade
  have hgiven := validate_ok_iff.mp hvalid d.1 value hvalue
  obtain ⟨v, hv⟩ := Option.isSome_iff_exists.mp hgiven
  have hdecode := hv
  rw [PolicyStore.given, definitionOf_of_mem d hd, hvalue] at hdecode
  rw [settingRow_key]
  exact ⟨v, hv, settingRow_of_decode sourceName hdecode⟩

/-! ## The merged settings -/

/-- A row that is inserted answers for its key, and for no other. -/
theorem find?_insertSetting (row : PolicySetting) (rows : List PolicySetting) (key : String) :
    (insertSetting row rows).find? (fun s => s.key == key) =
      if row.key = key then some row else rows.find? fun s => s.key == key := by
  induction rows with
  | nil =>
    rw [insertSetting]
    by_cases hkey : row.key = key
    · rw [if_pos hkey, List.find?_cons_of_pos (by simpa using hkey)]
    · rw [if_neg hkey, List.find?_cons_of_neg (by simpa using hkey)]
  | cons r rows ih =>
    rw [insertSetting]
    split
    · rename_i hsame
      by_cases hkey : row.key = key
      · rw [if_pos hkey, List.find?_cons_of_pos (by simpa using hkey)]
      · rw [if_neg hkey, List.find?_cons_of_neg (by simpa using hkey),
          List.find?_cons_of_neg (by simpa [← hsame] using hkey)]
    · rename_i hother
      split
      · by_cases hkey : row.key = key
        · rw [if_pos hkey, List.find?_cons_of_pos (by simpa using hkey)]
        · rw [if_neg hkey, List.find?_cons_of_neg (by simpa using hkey)]
      · by_cases hkey : row.key = key
        · have hr : r.key ≠ key := fun h => hother (hkey.trans h.symm)
          rw [List.find?_cons_of_neg (by simpa using hr), ih, if_pos hkey, if_pos hkey]
        · rw [if_neg hkey] at ih ⊢
          by_cases hr : r.key = key
          · rw [List.find?_cons_of_pos (by simpa using hr),
              List.find?_cons_of_pos (by simpa using hr)]
          · rw [List.find?_cons_of_neg (by simpa using hr),
              List.find?_cons_of_neg (by simpa using hr), ih]

/-- The rows of one source, inserted: each answers for its key, since no two have one key. -/
theorem find?_foldl_insertSetting {rows : List PolicySetting}
    (hnodup : (rows.map PolicySetting.key).Nodup) (merged : List PolicySetting) (key : String) :
    (rows.foldl (fun acc s => insertSetting s acc) merged).find? (fun s => s.key == key) =
      (rows.find? fun s => s.key == key).or (merged.find? fun s => s.key == key) := by
  induction rows generalizing merged with
  | nil => rfl
  | cons r rows ih =>
    obtain ⟨hnew, hrest⟩ := List.nodup_cons.mp hnodup
    rw [List.foldl_cons, ih hrest, find?_insertSetting]
    by_cases hkey : r.key = key
    · have hnone : rows.find? (fun s => s.key == key) = none := by
        rw [List.find?_eq_none]
        intro s hs heq
        exact hnew (List.mem_map.mpr ⟨s, hs, (beq_iff_eq.mp heq).trans hkey.symm⟩)
      rw [if_pos hkey, hnone, List.find?_cons_of_pos (by simpa using hkey)]
      rfl
    · rw [if_neg hkey, List.find?_cons_of_neg (by simpa using hkey)]

/-- **The merge of one source loses nothing**: every key reads as it does in the source. -/
theorem configuredValue_merge {store : PolicyStore} (hvalid : validate store = .ok ())
    (sourceName key : String) (ty : ValueType) :
    configuredValue (mergeSources [(readSource store sourceName).toPolicySource]) ty key =
      configuredValue (readSource store sourceName).settings ty key := by
  have hnodup : ((readSource store sourceName).settings.map PolicySetting.key).Nodup := by
    rw [readSource, List.map_map]
    exact (keys_readSettings hvalid sourceName).nodup_iff.mpr store.keys_nodup
  have hfind := find?_foldl_insertSetting hnodup [] key
  rw [configuredValue, configuredValue, mergeSources, List.flatMap_singleton, hfind,
    List.find?_nil, Option.or_none]

/-! ## The typed readers -/

section Readers

variable {store : PolicyStore} {sourceName key : String} {settings : List PolicySetting}

/-- A value that decodes is of the type it was decoded at. -/
theorem type_of_decode {ty : ValueType} {value : Json} {v : PolicyValue}
    (h : value.decode ty = some v) : v.type = ty := by
  unfold Json.decode at h
  split at h
  · cases h; rfl
  · cases h; rfl
  · obtain ⟨items, -, rfl⟩ := Option.map_eq_some_iff.mp h
    rfl
  · obtain ⟨option, -, rfl⟩ := Option.map_eq_some_iff.mp h
    rfl
  · obtain ⟨shown, -, rfl⟩ := Option.map_eq_some_iff.mp h
    rfl
  · obtain ⟨ns, -, rfl⟩ := Option.map_eq_some_iff.mp h
    rfl
  · cases h

theorem definitionOf_of_given {v : PolicyValue} (h : store.given key = some v) :
    definitionOf key = some v.type := by
  obtain ⟨ty, hty, hrest⟩ := Option.bind_eq_some_iff.mp h
  obtain ⟨value, -, hdecode⟩ := Option.bind_eq_some_iff.mp hrest
  rw [hty, type_of_decode hdecode]

/-- The lists that a reader of one type may be handed: the rows of a source, or their merge. -/
def readerSettings (store : PolicyStore) (sourceName : String) : List (List PolicySetting) :=
  [(readSource store sourceName).settings,
    mergeSources [(readSource store sourceName).toPolicySource]]

/-- **A reader that parses what the listing renders gets back what the document gives.** -/
theorem reader_recovers {α : Type} {ty : ValueType} {parse : String → Option α}
    {mk : α → PolicyValue} (hvalid : validate store = .ok ())
    (hsettings : settings ∈ readerSettings store sourceName)
    (hkey : ty = .string → key ≠ pkeyAuthKey)
    (hof : ∀ v : PolicyValue, v.type = ty → ∃ a, v = mk a) (htype : ∀ a, (mk a).type = ty)
    (hinj : Function.Injective mk)
    (hparse : ∀ a, store.given key = some (mk a) → parse (mk a).render = some a) (a : α) :
    (configuredValue settings ty key).bind parse = some a ↔ store.given key = some (mk a) := by
  have hread : configuredValue settings ty key =
      configuredValue (readSource store sourceName).settings ty key := by
    rcases List.mem_cons.mp hsettings with rfl | hmerged
    · rfl
    · rw [List.mem_singleton.mp hmerged]
      exact configuredValue_merge hvalid sourceName key ty
  rw [hread, configuredValue_readSource hvalid]
  by_cases hty : definitionOf key = some ty
  · rw [if_pos hty]
    have hplain : key ≠ pkeyAuthKey := by
      intro heq
      rw [heq, definitionOf_authKey] at hty
      exact hkey (Option.some.inj hty).symm heq
    cases hgiven : store.given key with
    | none => exact iff_of_false (fun h => by cases h) (fun h => by cases h)
    | some v =>
      have hv : v.type = ty := by
        have hdeclared := definitionOf_of_given hgiven
        rw [hty] at hdeclared
        exact (Option.some.inj hdeclared).symm
      obtain ⟨a', rfl⟩ := hof v hv
      rw [Option.map_some, Option.bind_some, if_neg hplain, hparse a' hgiven, Option.some_inj,
        Option.some_inj, hinj.eq_iff]
  · rw [if_neg hty]
    refine iff_of_false (fun h => by cases h) ?_
    intro hgiven
    exact hty ((definitionOf_of_given hgiven).trans (by rw [htype]))

theorem configuredBoolean_recovers (hvalid : validate store = .ok ())
    (hsettings : settings ∈ readerSettings store sourceName) (b : Bool) :
    configuredBoolean settings key = some b ↔ store.given key = some (.boolean b) := by
  refine @reader_recovers store sourceName key settings Bool .boolean _ PolicyValue.boolean
    hvalid hsettings (fun h => by cases h) ?_ (fun a => rfl)
    (fun a b h => PolicyValue.boolean.inj h) ?_ b
  · intro v hv
    cases v with
    | boolean b => exact ⟨b, rfl⟩
    | _ => cases hv
  · intro b hgiven
    cases b <;> decide

theorem configuredString_recovers (hvalid : validate store = .ok ())
    (hsettings : settings ∈ readerSettings store sourceName) (hkey : key ≠ pkeyAuthKey)
    (s : String) : configuredString settings key = some s ↔ store.given key = some (.string s) := by
  have hiff := @reader_recovers store sourceName key settings String .string some PolicyValue.string
    hvalid hsettings (fun _ => hkey) ?_ (fun a => rfl) (fun a b h => PolicyValue.string.inj h)
    (fun a hgiven => rfl) s
  · rwa [Option.bind_fun_some] at hiff
  · intro v hv
    cases v with
    | string s => exact ⟨s, rfl⟩
    | _ => cases hv

theorem configuredPreference_recovers (hvalid : validate store = .ok ())
    (hsettings : settings ∈ readerSettings store sourceName) (option : PreferenceOption) :
    configuredPreference settings key = some option ↔
      store.given key = some (.preference option) := by
  have hiff := @reader_recovers store sourceName key settings PreferenceOption .preferenceOption
    (fun s => some (PreferenceOption.parse s)) PolicyValue.preference
    hvalid hsettings (fun h => by cases h) ?_ (fun a => rfl)
    (fun a b h => PolicyValue.preference.inj h) ?_ option
  · rw [configuredPreference, ← hiff, Option.map_eq_bind]
    rfl
  · intro v hv
    cases v with
    | preference option => exact ⟨option, rfl⟩
    | _ => cases hv
  · intro option hgiven
    cases option <;> decide

/-- A duration that is given fits in 64 bits. -/
theorem bounds_of_given {ns : Int} (h : store.given key = some (.duration ns)) :
    -(durationLimit : Int) ≤ ns ∧ ns < durationLimit := by
  obtain ⟨ty, hty, hrest⟩ := Option.bind_eq_some_iff.mp h
  obtain ⟨value, -, hdecode⟩ := Option.bind_eq_some_iff.mp hrest
  obtain rfl : ValueType.duration = ty := type_of_decode hdecode
  cases value with
  | string s =>
    obtain ⟨d, hd, heq⟩ := Option.map_eq_some_iff.mp hdecode
    obtain rfl := PolicyValue.duration.inj heq
    cases hparse : parseGoDuration s with
    | error e =>
      rw [hparse] at hd
      cases hd
    | ok d' =>
      rw [hparse] at hd
      cases hd
      exact parseGoDuration_bounds hparse
  | _ => cases hdecode

theorem configuredDuration_recovers (hvalid : validate store = .ok ())
    (hsettings : settings ∈ readerSettings store sourceName) (ns : Int) :
    configuredDuration settings key = some ns ↔ store.given key = some (.duration ns) := by
  refine @reader_recovers store sourceName key settings Int .duration _ PolicyValue.duration
    hvalid hsettings (fun h => by cases h) ?_ (fun a => rfl)
    (fun a b h => PolicyValue.duration.inj h) ?_ ns
  · intro v hv
    cases v with
    | duration ns => exact ⟨ns, rfl⟩
    | _ => cases hv
  · intro ns hgiven
    obtain ⟨hlow, hhigh⟩ := bounds_of_given hgiven
    show (parseGoDuration (formatGoDuration ns)).toOption = some ns
    rw [parseGoDuration_formatGoDuration hlow hhigh]
    rfl

/-- What the document configures as a list, for a definition of the table. -/
def listEntry (store : PolicyStore) (d : String × ValueType) : Option (String × List String) :=
  match store.get? d.1 with
  | some (.array items) => (items.mapM Json.asStr).map fun values => (d.1, values)
  | _ => none

theorem listEntry_eq_some_iff {d : String × ValueType} {entry : String × List String} :
    listEntry store d = some entry ↔ entry.1 = d.1 ∧
      ∃ value, store.get? d.1 = some value ∧
        value.decode .stringList = some (.stringList entry.2) := by
  rw [listEntry]
  cases hvalue : store.get? d.1 with
  | none => exact iff_of_false (fun h => by cases h) (fun ⟨_, value, h, _⟩ => by cases h)
  | some value =>
    cases value with
    | array items =>
      show (items.mapM Json.asStr).map (fun values => (d.1, values)) = some entry ↔ _
      constructor
      · intro h
        obtain ⟨values, hvalues, rfl⟩ := Option.map_eq_some_iff.mp h
        refine ⟨rfl, _, rfl, ?_⟩
        rw [Json.decode, hvalues]
        rfl
      · rintro ⟨hkey, value, heq, hdecode⟩
        cases heq
        obtain ⟨values, hvalues, hsame⟩ := Option.map_eq_some_iff.mp hdecode
        rw [hvalues, Option.map_some, ← hkey, PolicyValue.stringList.inj hsame]
    | _ =>
      refine iff_of_false (fun h => by cases h) ?_
      rintro ⟨-, value, heq, hdecode⟩
      cases heq
      cases hdecode

/-- **The lists are carried beside the rows**, and a list is what the document gives. -/
theorem configuredStringList_recovers (store : PolicyStore) (sourceName key : String)
    (items : List String) :
    configuredStringList [readSource store sourceName] key = some items ↔
      store.given key = some (.stringList items) := by
  have hlists : readStringLists store = definitions.filterMap fun d =>
      if d.2 == ValueType.stringList then listEntry store d else none := by
    rw [readStringLists, List.filterMap_filter]
    rfl
  have hfind := find?_filterMap_key definitions
    (fun d => if d.2 == ValueType.stringList then listEntry store d else none) Prod.fst ?_
    definitions_keys_nodup key
  · have hread : configuredStringList [readSource store sourceName] key =
        ((readStringLists store).find? fun entry => entry.1 == key).map Prod.snd := by
      rw [configuredStringList, List.reverse_singleton, List.findSome?_singleton]
      rfl
    rw [hread, hlists, hfind, PolicyStore.given, definitionOf]
    cases hdef : definitions.find? fun d => d.1 == key with
    | none => exact iff_of_false (fun h => by cases h) (fun h => by cases h)
    | some d =>
      obtain ⟨key', ty⟩ := d
      have hkey : key' = key := by simpa using List.find?_some hdef
      subst hkey
      dsimp only [Option.bind_some, Option.map_some]
      by_cases hty : ty = .stringList
      · subst hty
        show (listEntry store (key', .stringList)).map Prod.snd = some items ↔ _
        rw [Option.map_eq_some_iff, Option.bind_eq_some_iff]
        constructor
        · rintro ⟨entry, hentry, rfl⟩
          exact (listEntry_eq_some_iff.mp hentry).2
        · intro hvalue
          exact ⟨(key', items), listEntry_eq_some_iff.mpr ⟨rfl, hvalue⟩, rfl⟩
      · rw [if_neg (by simpa using hty)]
        refine iff_of_false (fun h => by cases h) ?_
        intro hgiven
        obtain ⟨value, -, hdecode⟩ := Option.bind_eq_some_iff.mp hgiven
        exact hty (type_of_decode hdecode).symm
  · intro d entry hentry
    split at hentry
    · exact (listEntry_eq_some_iff.mp hentry).1
    · cases hentry

/-- The credential is carried beside the rows. -/
theorem configuredAuthKey_recovers (store : PolicyStore) (sourceName s : String) :
    configuredAuthKey [(readSource store sourceName).toPolicySource] = some s ↔
      store.given pkeyAuthKey = some (.string s) := by
  have hread : configuredAuthKey [(readSource store sourceName).toPolicySource] =
      (store.get? pkeyAuthKey).bind Json.asStr := by
    rw [configuredAuthKey, List.reverse_singleton, List.findSome?_singleton]
    rfl
  rw [hread, PolicyStore.given, definitionOf_authKey, Option.bind_some, Option.bind_eq_some_iff,
    Option.bind_eq_some_iff]
  refine exists_congr fun value => and_congr_right fun _ => ?_
  cases value with
  | string s' =>
    show some s' = some s ↔ some (PolicyValue.string s') = some (.string s)
    rw [Option.some_inj, Option.some_inj, PolicyValue.string.injEq]
  | _ => exact iff_of_false (fun h => by cases h) (fun h => by cases h)

end Readers

/-! ## The result -/

/-- **A document that passes the check is listed and read as it is**: one row for every key and none
    with an error, a value for every key, and every typed reader gets back the value of every key of
    its type.  The credential is the exception that is made on purpose: its row says that there is
    one, and the key itself is carried beside the rows. -/
theorem validated_policy_recovered (store : PolicyStore) (sourceName : String)
    (hvalid : validate store = .ok ()) :
    ((readSettings store sourceName).map fun row => row.key).Perm (store.entries.map Prod.fst) ∧
    (∀ row ∈ readSettings store sourceName, row.error = none ∧ row.value.isSome = true) ∧
    (∀ key, (store.get? key).isSome = true → (store.given key).isSome = true) ∧
    (∀ settings ∈ readerSettings store sourceName, ∀ key,
      (∀ b, configuredBoolean settings key = some b ↔ store.given key = some (.boolean b)) ∧
      (key ≠ pkeyAuthKey → ∀ s,
        configuredString settings key = some s ↔ store.given key = some (.string s)) ∧
      (∀ option, configuredPreference settings key = some option ↔
        store.given key = some (.preference option)) ∧
      ∀ ns, configuredDuration settings key = some ns ↔ store.given key = some (.duration ns)) ∧
    (∀ key items, configuredStringList [readSource store sourceName] key = some items ↔
      store.given key = some (.stringList items)) ∧
    (∀ row ∈ readSettings store sourceName, row.key = pkeyAuthKey → row.value = some redacted) ∧
    ∀ s, configuredAuthKey [(readSource store sourceName).toPolicySource] = some s ↔
      store.given pkeyAuthKey = some (.string s) := by
  refine ⟨keys_readSettings hvalid sourceName, ?_, ?_, ?_,
    configuredStringList_recovers store sourceName, ?_,
    configuredAuthKey_recovers store sourceName⟩
  · intro row hrow
    obtain ⟨v, -, heq⟩ := mem_readSettings hvalid hrow
    rw [heq]
    exact ⟨rfl, rfl⟩
  · intro key hkey
    obtain ⟨value, hvalue⟩ := Option.isSome_iff_exists.mp hkey
    exact validate_ok_iff.mp hvalid key value hvalue
  · intro settings hsettings key
    exact ⟨configuredBoolean_recovers hvalid hsettings,
      configuredString_recovers hvalid hsettings, configuredPreference_recovers hvalid hsettings,
      configuredDuration_recovers hvalid hsettings⟩
  · intro row hrow hkey
    obtain ⟨v, -, heq⟩ := mem_readSettings hvalid hrow
    rw [heq]
    exact congrArg some (if_pos hkey)

/-- A document with a value of every type that a reader asks for. -/
def siteDocument : PolicyStore :=
  (((((SortedMap.empty.insert "AlwaysOn.Enabled" (.bool true)).insert "Hostname" (.string "")).insert
    "AllowedSuggestedExitNodes" (.array [.string "n1", .string "n 2"])).insert
    "ReconnectAfter" (.string "90m")).insert "AuthKey" (.string "tskey-1")).insert
    "CheckUpdates" (.string "user-decides")

example : (readSettings siteDocument "JSONFile").map (fun row => (row.key, row.value)) =
    [("AllowedSuggestedExitNodes", some "[n1 n 2]"), ("AlwaysOn.Enabled", some "true"),
     ("AuthKey", some "<redacted>"), ("CheckUpdates", some "user-decides"),
     ("Hostname", some ""), ("ReconnectAfter", some "1h30m0s")] := by rfl

theorem siteDocument_validates : validate siteDocument = .ok () := by rfl

theorem siteDocument_authKey : siteDocument.given pkeyAuthKey = some (.string "tskey-1") := by rfl

/-- The site's document: its window of a disconnect and its credential are read as they stand. -/
theorem siteDocument_recovered :
    configuredDuration (mergeSources [(readSource siteDocument "JSONFile").toPolicySource])
        "ReconnectAfter" = some 5400000000000 ∧
      configuredAuthKey [(readSource siteDocument "JSONFile").toPolicySource] = some "tskey-1" := by
  have hresult := validated_policy_recovered siteDocument "JSONFile" siteDocument_validates
  have hwindow : siteDocument.given "ReconnectAfter" = some (.duration 5400000000000) := by rfl
  obtain ⟨-, -, -, hreaders, -, -, hauth⟩ := hresult
  have hmerged : mergeSources [(readSource siteDocument "JSONFile").toPolicySource] ∈
      readerSettings siteDocument "JSONFile" := List.mem_cons_of_mem _ List.mem_cons_self
  exact ⟨((hreaders _ hmerged "ReconnectAfter").2.2.2 _).mpr hwindow,
    (hauth _).mpr siteDocument_authKey⟩

/-- **The redaction is not in the listing only**: the string reader reads the listing, so the value
    of the credential is not what it returns. -/
theorem authKey_reads_redacted :
    ¬ ∀ (store : PolicyStore) (sourceName : String), validate store = .ok () →
      ∀ key s, configuredString (readSource store sourceName).settings key = some s ↔
        store.given key = some (.string s) := by
  intro hclaim
  have hread := (hclaim siteDocument "JSONFile" siteDocument_validates pkeyAuthKey
    "<redacted>").mp (by rfl)
  rw [siteDocument_authKey] at hread
  exact absurd hread (by decide)

end Tailnetd
