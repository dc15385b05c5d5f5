import ServerPilot.Lib.Memo
import ServerPilot.Lib.Ranking
import ServerPilot.Spec.Probe

/-!
# Observation profiles

An endpoint's profile is the built-in one or a plugin: an executable file in one of the search
directories, named after its id. `listObservationProfiles` shows the profiles there are,
`getPlugin` finds the plugin of an id; each goes through the directories by itself (`discover`).
What a file prints for `info` is told by its path and its stat (`Outside`), which is what lets
`_PROBE_CACHE` remember it.
-/

namespace ServerPilot.Plugins

open Checked

/-- What the search may raise: a `PluginError`, or anything else. -/
inductive Raised
  | pluginError (message : String)
  | other
  deriving DecidableEq

/-- What `json.loads` makes of a text; `raises` is an exception that is not a `JSONDecodeError`. -/
inductive Loaded
  | value (j : Json)
  | malformed
  | raises

/-- A path in a search directory. -/
structure Path where
  parent : String
  name : String
  deriving DecidableEq

/-- What a stat tells of a file. -/
structure Stat where
  device : ℕ
  inode : ℕ
  modified : ℕ
  size : ℕ
  deriving DecidableEq

/-- What is not of this module: `invoke_plugin(path, ["info"])` of a file with this stat (the text
it prints, or the message of the `PluginError`), `json.loads`, and the text of a sorted list. -/
structure Outside where
  info : Path → Stat → Except String String
  loads : String → Loaded
  keys : List String → String

inductive PluginSource
  | builtin
  | locally
  deriving DecidableEq

def PluginSource.text : PluginSource → String
  | .builtin => "builtin"
  | .locally => "local"

/-- A dict with string keys, as the limits of a profile are. -/
abbrev Limits := List (String × Json)

structure PluginInfo where
  pluginId : String
  displayName : String
  capabilities : List String
  source : PluginSource
  description : String
  releaseGranularity : String
  entryKind : String
  limits : Limits

/-! ## What a plugin declares -/

/-- `PLUGIN_ID_PATTERN.fullmatch`. -/
def isValidPluginId (value : String) : Bool :=
  match value.toList with
  | [] => false
  | c :: rest =>
    ('a' ≤ c && c ≤ 'z') && (1 ≤ rest.length && rest.length ≤ 39) &&
      rest.all fun c => ('a' ≤ c && c ≤ 'z') || ('0' ≤ c && c ≤ '9') || c = '-'

def pluginCapabilities : List String := ["observe", "apply", "release", "connect", "disconnect"]

def profileLeaseEnds : List String := ["on_release", "hard_kill_at_time_limit"]

def profileLimitKeys : List String :=
  ["lease_ends", "max_lease_seconds", "apply_max_seconds", "queues"]

def maxProfileLeaseSeconds : ℤ := 30 * 24 * 3600

def maxProfileApplySeconds : ℤ := 180

def maxPluginOutputBytes : ℕ := 1048576

def pluginSchemaVersion : ℤ := 5

/-- The text, if it is one of `names`. What cannot be hashed cannot be looked for in a set. -/
def oneOf (names : List String) (message : String) (value : Option Json) : Except Raised String :=
  match value with
  | some (.text s) => if s ∈ names then .ok s else .error (.pluginError message)
  | some (.list _) => .error .other
  | some (.object _) => .error .other
  | _ => .error (.pluginError message)

/-- A whole number from 1 to `most`. -/
def isCount (most : ℤ) (value : Option Json) : Bool :=
  match value with
  | some (.int n) => 1 ≤ n && n ≤ most
  | _ => false

def isNull (value : Option Json) : Bool :=
  match value with
  | some .null => true
  | _ => false

def isLiteralFalse (value : Option Json) : Bool :=
  match value with
  | some (.bool false) => true
  | _ => false

/-- `max_lease_seconds` goes with the way a lease ends. -/
def leaseSecondsFit (leaseEnds : String) (value : Option Json) : Except Raised Unit :=
  if leaseEnds = "hard_kill_at_time_limit" then
    require (isCount maxProfileLeaseSeconds value = true)
      (.pluginError "plugin info limits.max_lease_seconds must be a positive integer")
  else
    require (isNull value = true)
      (.pluginError "plugin info limits.max_lease_seconds must be null")

variable (lib : Outside)

/-- `parse_plugin_limits`. -/
def parsePluginLimits (value : Option Json) : Except Raised Limits :=
  match value with
  | some (.object fields) => do
    let keys := fields.map Prod.fst
    require (∀ key ∈ keys, key ∈ profileLimitKeys) (.pluginError
      ("plugin info limits has unknown keys: " ++
        lib.keys (keys.filter fun key => key ∉ profileLimitKeys)))
    require (∀ key ∈ profileLimitKeys, key ∈ keys) (.pluginError
      ("plugin info limits is missing keys: " ++
        lib.keys (profileLimitKeys.filter fun key => key ∉ keys)))
    let leaseEnds ← oneOf profileLeaseEnds "plugin info limits.lease_ends is invalid"
      (fields.lookup "lease_ends")
    require (isLiteralFalse (fields.lookup "queues") = true)
      (.pluginError "plugin info limits.queues must be false")
    leaseSecondsFit leaseEnds (fields.lookup "max_lease_seconds")
    require (isNull (fields.lookup "apply_max_seconds") = true ∨
        isCount maxProfileApplySeconds (fields.lookup "apply_max_seconds") = true)
      (.pluginError "plugin info limits.apply_max_seconds must be a positive integer")
    pure [("lease_ends", .text leaseEnds),
      ("max_lease_seconds", (fields.lookup "max_lease_seconds").getD .null),
      ("apply_max_seconds", (fields.lookup "apply_max_seconds").getD .null),
      ("queues", .bool false)]
  | _ => .error (.pluginError "plugin info limits must be an object")

/-- `_strict_object`, of the output of `info`. -/
def strictObject (raw : String) : Except Raised (List (String × Json)) :=
  if maxPluginOutputBytes < raw.utf8ByteSize then
    .error (.pluginError "plugin info exceeded the output limit")
  else
    match lib.loads raw with
    | .value (.object fields) => .ok fields
    | .value _ => .error (.pluginError "plugin info must be a JSON object")
    | .malformed => .error (.pluginError "plugin info is not valid JSON")
    | .raises => .error .other

/-- The text of a field that has one. -/
def textOf (value : Option Json) : Option String :=
  match value with
  | some (.text s) => some s
  | _ => none

/-- `description`, which may be left out or null. -/
def descriptionOf (value : Option Json) : Option String :=
  match value with
  | none => some ""
  | some .null => some ""
  | some (.text s) => some s
  | _ => none

/-- `capabilities`, each a known one. -/
def capabilitiesOf (value : Option Json) : Except Raised (List String) :=
  match value with
  | some (.list (item :: items)) =>
    (item :: items).mapM fun x => oneOf pluginCapabilities "plugin info capabilities are invalid" x
  | _ => .error (.pluginError "plugin info capabilities must be a non-empty list")

/-- `probe_plugin`, of a file with this stat. -/
def probePlugin (path : Path) (stat : Stat) (source : PluginSource) : Except Raised PluginInfo := do
  let raw ← (lib.info path stat).mapError .pluginError
  let payload ← strictObject lib raw
  let pluginId ← need ((textOf (payload.lookup "plugin_id")).filter isValidPluginId)
    (.pluginError "plugin info plugin_id is invalid")
  require (path.name = pluginId) (.pluginError "plugin filename must match plugin_id")
  let displayName ← need ((textOf (payload.lookup "display_name")).filter fun s =>
    strip s ≠ "" && s.length ≤ 120) (.pluginError "plugin info display_name is invalid")
  require (((payload.lookup "schema_version").any fun x => x.equalsInt pluginSchemaVersion) = true)
    (.pluginError "plugin info schema_version must be 5")
  let capabilities ← capabilitiesOf (payload.lookup "capabilities")
  require capabilities.Nodup (.pluginError "plugin info capabilities must be unique")
  let description ← need ((descriptionOf (payload.lookup "description")).filter fun s =>
    s.length ≤ 500) (.pluginError "plugin info description is invalid")
  require ("connect" ∈ capabilities ↔ "disconnect" ∈ capabilities)
    (.pluginError "plugin connection capabilities must include connect and disconnect")
  require ("apply" ∈ capabilities ↔ "release" ∈ capabilities)
    (.pluginError "plugin allocation capabilities must include apply and release")
  let releaseGranularity ← oneOf ["device", "allocation"]
    "plugin release_granularity must be device or allocation" (payload.lookup "release_granularity")
  let entryKind ← oneOf ["ssh", "allocation"] "plugin entry_kind must be ssh or allocation"
    (payload.lookup "entry_kind")
  require ("apply" ∈ capabilities → releaseGranularity = "allocation")
    (.pluginError "apply/release plugins must declare allocation release granularity")
  let limits ← parsePluginLimits lib (payload.lookup "limits")
  pure { pluginId, displayName := strip displayName, capabilities, source
         description := strip description, releaseGranularity, entryKind, limits }

/-! ## The search directories -/

/-- What a directory lists; `stat` is the class of the `OSError` where the file has none, and
`resolvedName` the name of the file it leads to. -/
structure Entry where
  name : String
  isFile : Bool := true
  executable : Bool := true
  stat : Except String Stat
  resolvedName : String

/-- One of `plugin_search_dirs`. -/
structure Directory where
  path : String
  source : PluginSource
  isDir : Bool := true
  entries : List Entry

/-- A file to be probed. -/
structure Candidate where
  path : Path
  source : PluginSource
  stat : Except String Stat
  resolvedName : String

/-- `_is_plugin_candidate`. -/
def Entry.isPluginCandidate (e : Entry) : Bool :=
  e.isFile && !e.name.startsWith "." && isValidPluginId e.name && e.executable

/-- Names compare by their characters. -/
def nameLe (a b : String) : Bool :=
  Collector.tupleLe (a.toList.map Char.toNat) (b.toList.map Char.toNat)

/-- The candidates of a directory, in the order of their paths. -/
def Directory.candidates (d : Directory) : List Candidate :=
  if d.isDir then
    ((Ranking.arranged nameLe Entry.name d.entries).filter Entry.isPluginCandidate).map fun e =>
      { path := ⟨d.path, e.name⟩, source := d.source, stat := e.stat
        resolvedName := e.resolvedName }
  else []

/-- The candidates in the order the search meets them. -/
def candidates (dirs : List Directory) : List Candidate := dirs.flatMap Directory.candidates

/-- `PluginDiscoveryFailure`. -/
structure PluginDiscoveryFailure where
  resolvedName : String
  source : PluginSource
  error : String
  pluginId : Option String

/-- `_PROBE_CACHE`: the fingerprint is the stat and the source. -/
abbrev ProbeCache := Memo.Cache Path (Stat × PluginSource) PluginInfo

/-- `_probe_plugin_cached`; a failure's text is that of its `pluginError`. -/
def probePluginCached (c : Candidate) (cache : ProbeCache) :
    Except Raised PluginInfo × ProbeCache :=
  match c.stat with
  | .error name => (.error (.pluginError ("plugin could not be read: " ++ name)), cache)
  | .ok stat =>
    Memo.ask (fun path stamp => probePlugin lib path stamp.1 stamp.2) c.path (stat, c.source) cache

/-- `found` and `failures` of `_discover`. -/
structure Discovery where
  found : List PluginInfo := []
  failures : List PluginDiscoveryFailure := []

/-- `found[verdict.plugin_id] = verdict`; the dict is sorted by id before anyone reads it. -/
def Discovery.put (d : Discovery) (plugin : PluginInfo) : Discovery :=
  { d with found := d.found.filter (fun x => x.pluginId ≠ plugin.pluginId) ++ [plugin] }

def Discovery.fail (d : Discovery) (c : Candidate) (error : String) : Discovery :=
  { d with failures := d.failures ++ [{
      resolvedName := c.resolvedName, source := c.source, error
      pluginId := if isValidPluginId c.path.name then some c.path.name else none }] }

/-- The loops of `_discover`; `none` where an exception goes through. -/
def discoverAmong : List Candidate → Discovery → ProbeCache → Option Discovery × ProbeCache
  | [], d, cache => (some d, cache)
  | c :: rest, d, cache =>
    match probePluginCached lib c cache with
    | (.ok plugin, cache) => discoverAmong rest (d.put plugin) cache
    | (.error (.pluginError message), cache) => discoverAmong rest (d.fail c message) cache
    | (.error .other, cache) => (none, cache)

/-- `_discover`. -/
def discover (dirs : List Directory) (cache : ProbeCache) : Option Discovery × ProbeCache :=
  match discoverAmong lib (candidates dirs) {} cache with
  | (some d, cache) =>
    (some { d with found := Ranking.arranged nameLe PluginInfo.pluginId d.found }, cache)
  | (none, cache) => (none, cache)

/-! ## Lookup -/

/-- `get_plugin`. -/
def getPlugin (dirs : List Directory) (pluginId : String) (cache : ProbeCache) :
    Option (Option PluginInfo) × ProbeCache :=
  if isValidPluginId pluginId then
    match discover lib dirs cache with
    | (some d, cache) => (some (d.found.find? fun x => x.pluginId = pluginId), cache)
    | (none, cache) => (none, cache)
  else (some none, cache)

/-- `require_plugin`. -/
def requirePlugin (dirs : List Directory) (pluginId : String) (cache : ProbeCache) :
    Except Raised PluginInfo × ProbeCache :=
  match getPlugin lib dirs pluginId cache with
  | (some (some plugin), cache) => (.ok plugin, cache)
  | (some none, cache) =>
    (.error (.pluginError ("unknown observation profile: " ++ pluginId)), cache)
  | (none, cache) => (.error .other, cache)

/-- `is_plugin_profile`. -/
def isPluginProfile (dirs : List Directory) (value : String) (cache : ProbeCache) :
    Option Bool × ProbeCache :=
  ((getPlugin lib dirs value cache).1.map Option.isSome, (getPlugin lib dirs value cache).2)

def builtinObservationProfile : String := "linux"

def builtinObservationProfiles : List String := [builtinObservationProfile]

/-- `is_known_observation_profile`. -/
def isKnownObservationProfile (dirs : List Directory) (value : String) (cache : ProbeCache) :
    Option Bool × ProbeCache :=
  if value ∈ builtinObservationProfiles then (some true, cache)
  else isPluginProfile lib dirs value cache

/-! ## The listing -/

/-- An item of the listing; only one of a failure has `available` and `error`, and no limits. -/
structure Profile where
  id : String
  displayName : String
  description : String
  source : PluginSource
  capabilities : List String
  limits : Option Limits := none
  available : Option Bool := none
  error : Option String := none

/-- `DIRECT_PROFILE_LIMITS`. -/
def directProfileLimits : Limits :=
  [("lease_ends", .text "on_release"), ("max_lease_seconds", .null), ("queues", .bool false)]

/-- `BUILTIN_PROFILE_CATALOG`. -/
def builtinProfileCatalog : List Profile :=
  [{ id := builtinObservationProfile
     displayName := "Linux 只读采集"
     description := "内置的只读 SSH 探测：有 NVIDIA 卡就采集显卡与进程，没有就按纯 CPU 主机采集。"
     source := .builtin
     capabilities := ["observe"]
     limits := some directProfileLimits }]

/-- What a plugin is listed as. -/
def PluginInfo.profile (plugin : PluginInfo) : Profile where
  id := plugin.pluginId
  displayName := plugin.displayName
  description :=
    if plugin.description = "" then
      "本地插件 " ++ plugin.pluginId ++ "，来源 " ++ plugin.source.text ++ "。"
    else plugin.description
  source := plugin.source
  capabilities := plugin.capabilities
  limits := some plugin.limits

/-- `failure.plugin_id or failure.path.name`. -/
def PluginDiscoveryFailure.id (failure : PluginDiscoveryFailure) : String :=
  failure.pluginId.getD failure.resolvedName

/-- What a failure is listed as. -/
def PluginDiscoveryFailure.profile (failure : PluginDiscoveryFailure) : Profile where
  id := failure.id
  displayName := failure.id ++ "（需要升级或修复）"
  description := failure.error
  source := failure.source
  capabilities := []
  available := some false
  error := some failure.error

/-- `profiles` and `seen` of `list_observation_profiles`. -/
structure Listing where
  profiles : List Profile := builtinProfileCatalog
  seen : List String := builtinProfileCatalog.map Profile.id

/-- The body of the loop over the plugins. -/
def Listing.addPlugin (l : Listing) (plugin : PluginInfo) : Listing :=
  if plugin.pluginId ∈ l.seen then l
  else { profiles := l.profiles ++ [plugin.profile], seen := l.seen ++ [plugin.pluginId] }

/-- The body of the loop over the failures. -/
def Listing.addFailure (l : Listing) (failure : PluginDiscoveryFailure) : Listing :=
  if failure.id ∈ l.seen then l else { l with profiles := l.profiles ++ [failure.profile] }

/-- The listing of a discovery. -/
def Discovery.listing (d : Discovery) : Listing :=
  d.failures.foldl Listing.addFailure (d.found.foldl Listing.addPlugin {})

/-- `list_observation_profiles`. -/
def listObservationProfiles (dirs : List Directory) (cache : ProbeCache) :
    Option (List Profile) × ProbeCache :=
  ((discover lib dirs cache).1.map fun d => d.listing.profiles, (discover lib dirs cache).2)

end ServerPilot.Plugins
