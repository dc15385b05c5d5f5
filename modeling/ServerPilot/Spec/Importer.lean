import ServerPilot.Spec.Handoff
import ServerPilot.Spec.Probe

/-!
# Importing servers

`import_servers_files` reads old `servers.txt` files: each line that is an `ssh` command becomes
an endpoint, once for each host and port, under an id made of the host's letters and digits.
`write_inventory` puts the endpoints into an inventory, which checks them together.
-/

namespace ServerPilot.Importer

open Checked Collector

/-- The value of a decimal digit (`\d`) and the characters of `\w`, in Unicode. -/
structure Tables where
  decimal : Char → Option ℕ
  word : Char → Bool

variable (t : Tables)

/-- What `SSH_PATTERN` finds in a line; `digits` is how many digits its port has. -/
structure Destination where
  host : String
  port : ℕ
  user : String
  digits : ℕ
  deriving DecidableEq

/-- What follows a text. -/
def after (text : String) (s : List Char) : Option (List Char) :=
  if text.toList.isPrefixOf s then some (s.drop text.length) else none

/-- `\s+`. -/
def spaces (s : List Char) : Option (List Char) :=
  if s.head?.any isSpace then some (s.dropWhile isSpace) else none

/-- `[A-Za-z0-9_.-]`. -/
def isHostChar (c : Char) : Bool := c.isAlphanum || c == '_' || c == '.' || c == '-'

/-- `SSH_PATTERN.match`. No character of a part can belong to the next, so that each part takes
all it can. -/
def matchSsh (line : String) : Option Destination := do
  let s := line.toList.dropWhile isSpace
  let s := (if s.head? = some '#' then s.tail else s).dropWhile isSpace
  let s ← after "ssh" s
  let s ← spaces s
  let s ← after "-p" s
  let s ← spaces s
  let digits := (s.takeWhile fun c => (t.decimal c).isSome).filterMap t.decimal
  guard (digits ≠ [])
  let s ← spaces (s.dropWhile fun c => (t.decimal c).isSome)
  let first ← s.head?
  guard (first.isAlpha || first == '_')
  let user := first :: s.tail.takeWhile fun c => t.word c || c == '-'
  let s ← after "@" (s.tail.dropWhile fun c => t.word c || c == '-')
  let host := s.takeWhile isHostChar
  guard (host ≠ [])
  guard ((s.dropWhile isHostChar).all isSpace)
  some { host := String.ofList host, port := digits.foldl (fun n d => 10 * n + d) 0
         user := String.ofList user, digits := digits.length }

/-! ## Ids -/

def isIdChar (c : Char) : Bool := ('a' ≤ c && c ≤ 'z') || ('0' ≤ c && c ≤ '9')

/-- `re.sub(r"[^a-z0-9]+", "-", s)`, after a character that was replaced or not. -/
def dashed : Bool → List Char → List Char
  | _, [] => []
  | replaced, c :: s =>
    if isIdChar c then c :: dashed false s
    else if replaced then dashed true s
    else '-' :: dashed true s

/-- `s.strip("-")`. -/
def stripDashes (s : List Char) : List Char :=
  ((s.dropWhile (· == '-')).reverse.dropWhile (· == '-')).reverse

/-- `host.lower()`, of a host of ASCII characters. -/
def lower (host : String) : List Char := host.toList.map Char.toLower

/-- `_endpoint_id`. -/
def endpointId (host : String) (port : ℕ) : String :=
  "ssh-" ++ String.ofList (stripDashes (dashed false (lower host))) ++ "-p" ++ toString port

/-! ## The import -/

/-- `EndpointConfig`, with the projects an inventory file may still name. -/
structure Imported where
  fields : EndpointConfig
  projectIds : List String

/-- `ImportReport`. -/
structure ImportReport where
  endpoints : List Imported
  duplicateAddresses : List String
  ignoredLines : ℕ

/-- What the endpoints of an import have in common. -/
structure Defaults where
  projectIds : List String
  workspacePath : String
  expectedGpuCount : Option ℕ := none
  expectedGpuTotalVramMib : Option ℕ := none

variable (d : Defaults)

/-- The fields of the endpoint of a line. -/
def fieldsOf (x : Destination) : EndpointFields where
  id := endpointId x.host x.port
  host := x.host
  port := x.port
  sshUser := x.user
  workspacePath := some d.workspacePath
  observationProfile := "linux"
  keepaliveAdapterId := none
  keepalivePolicy := .disabled
  labels := ["direct-ssh", "gpu"]
  serverGroupId := none
  expectedGpuCount := d.expectedGpuCount
  expectedGpuTotalVramMib := d.expectedGpuTotalVramMib

/-- `EndpointConfig(...)`. -/
def configOf (x : Destination) : Except String Imported :=
  if h : (fieldsOf d x).Valid ∧ (∀ p ∈ d.projectIds, strip p ≠ "") ∧ d.projectIds.Nodup then
    .ok ⟨⟨fieldsOf d x, h.1⟩, d.projectIds⟩
  else .error "validation error for EndpointConfig"

/-- `parsed`, `duplicate_addresses` and `ignored`. -/
structure Progress where
  parsed : List Imported := []
  duplicateAddresses : List String := []
  ignored : ℕ := 0

/-- `f"{host}:{port}"`. -/
def addressText (x : Destination) : String := x.host ++ ":" ++ toString x.port

/-- The endpoint has this host and port. -/
def Imported.at (e : Imported) (x : Destination) : Bool :=
  e.fields.val.host == x.host && e.fields.val.port == x.port

/-- One line of a file. -/
def importLine (s : Progress) (line : String) : Except String Progress :=
  match matchSsh t line with
  | none => .ok { s with ignored := s.ignored + 1 }
  | some x => do
    require (x.digits ≤ 4300) "Exceeds the limit (4300 digits) for integer string conversion"
    if s.parsed.any fun e => e.at x then
      pure { s with duplicateAddresses := s.duplicateAddresses ++ [addressText x] }
    else do
      let e ← configOf d x
      pure { s with parsed := s.parsed ++ [e] }

/-- The lines of all files. -/
def linesOf (contents : List String) : List String := contents.flatMap splitlines

/-- `import_servers_files`, of what the files contain. -/
def importServersFiles (contents : List String) : Except String ImportReport := do
  require (contents ≠ []) "at least one servers.txt path is required"
  require (d.projectIds ≠ []) "at least one project id is required"
  let s ← (linesOf contents).foldlM (importLine t d) {}
  require (s.parsed ≠ []) "no ssh -p user@host endpoint lines found"
  pure {
    endpoints := s.parsed.insertionSort fun x y => x.fields.val.id ≤ y.fields.val.id
    duplicateAddresses := s.duplicateAddresses.dedup.insertionSort (· ≤ ·)
    ignoredLines := s.ignored }

/-- The checks of `InventoryConfig` on what `write_inventory` gives it: the ids of the projects,
and the endpoints of a report, which have a workspace and no group. -/
def inventoryAccepts (projects : List String) (r : ImportReport) : Bool :=
  decide (systemId ∉ projects ∧ projects.Nodup ∧
    (r.endpoints.map fun e => e.fields.val.id).Nodup ∧
    (r.endpoints.map fun e => (e.fields.val.host, e.fields.val.port)).Nodup ∧
    ∀ e ∈ r.endpoints, systemId ∉ e.projectIds)

/-! ## Every line once -/

/-- A line before the `i`th has the address of `x`. -/
def Seen (lines : List String) (i : ℕ) (x : Destination) : Prop :=
  ∃ j < i, ∃ line y, lines[j]? = some line ∧ matchSsh t line = some y ∧
    y.host = x.host ∧ y.port = x.port

/-- The endpoint is that of the line. -/
def Imported.is (e : Imported) (x : Destination) : Bool :=
  e.at x && e.fields.val.sshUser == x.user

/-- Every line is ignored, a duplicate of an earlier line, or the line of exactly one endpoint. -/
structure Accounts (lines : List String) (r : ImportReport) : Prop where
  ignored : r.ignoredLines = (lines.filter fun l => matchSsh t l = none).length
  duplicate : ∀ (i : ℕ) line x, lines[i]? = some line → matchSsh t line = some x →
    Seen t lines i x → addressText x ∈ r.duplicateAddresses
  endpoint : ∀ (i : ℕ) line x, lines[i]? = some line → matchSsh t line = some x →
    ¬ Seen t lines i x → (r.endpoints.filter fun e => e.is x).length = 1

/-- A report that accounts for every line, with endpoints an inventory can hold. -/
structure Complete (projects : List String) (lines : List String) (r : ImportReport) : Prop where
  accounts : Accounts t lines r
  ids : (r.endpoints.map fun e => e.fields.val.id).Nodup
  addresses : (r.endpoints.map fun e => (lower e.fields.val.host, e.fields.val.port)).Nodup
  accepted : inventoryAccepts projects r = true

/-- Lines of different addresses make different ids, and the projects are different and none is
the broker's own. -/
structure Separate (projects : List String) (lines : List String) : Prop where
  ids : ∀ l ∈ lines, ∀ k ∈ lines, ∀ x y, matchSsh t l = some x → matchSsh t k = some y →
    endpointId x.host x.port = endpointId y.host y.port → x.host = y.host ∧ x.port = y.port
  projects : systemId ∉ projects ∧ projects.Nodup ∧ systemId ∉ d.projectIds

end ServerPilot.Importer
