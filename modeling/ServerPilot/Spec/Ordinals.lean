import ServerPilot.Spec.Helper
import ServerPilot.Spec.Probe

/-!
# CUDA ordinals on both sides

The collector and the keepalive helper each ask `nvidia-smi` for the cards of a server, in
queries of their own, and number them in the order of their PCI bus (`parseGpuCsv`,
`resolveGpuOrdinals`). `gpuQuery` and `ordinalQuery` print the answers: a line for each card, in
whatever order, with a comma and a space between the fields.
-/

namespace ServerPilot.Ordinals

open Checked Collector
open Helper (GpuUuid HelperError validateGpuUuid)

/-! ## The helper's reader -/

/-- `str.isdigit` and `int`, of a text. -/
structure Digits where
  isdigit : String → Bool
  int : String → Option ℤ

/-- `str.split(",", maxsplit=n)`. -/
def splitComma : ℕ → List Char → List (List Char)
  | 0, s => [s]
  | n + 1, s =>
    match splitOnce [','] s with
    | none => [s]
    | some (part, rest) => part :: splitComma n rest

/-- `_PCI_BUS_ID_PATTERN.fullmatch` of the helper, and its groups as numbers. -/
def pciBusId (text : String) : Option (List ℕ) :=
  match text.toList.splitOn ':' with
  | [domain, bus, [d₁, d₂, '.', f]] =>
    match hexOf [4, 5, 6, 7, 8] domain, hexOf [2] bus, hexOf [2] [d₁, d₂], hexOf [1] [f] with
    | some domain, some bus, some device, some function =>
      if function < 8 then some [domain, bus, device, function] else none
    | _, _, _, _ => none
  | _ => none

/-- A line of the helper's query, as read. -/
structure Placed where
  bus : List ℕ
  gpuUuid : GpuUuid
  index : ℤ

def invalidMapping : HelperError := .runtime "keepalive CUDA PCI ordinal mapping is invalid"

variable (digits : Digits)

/-- The body of `_resolve_gpu_ordinals`'s loop. -/
def readOrdinalLine (observed : List Placed) (line : String) : Except HelperError (List Placed) :=
  match (splitComma 2 line.toList).map fun part => strip (String.ofList part) with
  | [index, uuid, bus] => do
    require (digits.isdigit index = true) invalidMapping
    let index ← need (digits.int index) (.value "invalid literal for int() with base 10")
    let gpuUuid ← validateGpuUuid (.text uuid)
    let bus ← need (pciBusId bus) invalidMapping
    require (index ∉ observed.map Placed.index ∧ gpuUuid ∉ observed.map Placed.gpuUuid ∧
      ∀ x ∈ observed, x.bus ≠ bus) invalidMapping
    pure (observed ++ [{ bus, gpuUuid, index }])
  | _ => .error invalidMapping

/-- `_resolve_gpu_ordinals`, of what its query prints. -/
def resolveGpuOrdinals (output : String) : Except HelperError (List (GpuUuid × String)) := do
  let observed ← ((splitlines output).filter fun line => strip line ≠ "").foldlM
    (readOrdinalLine digits) []
  require (observed ≠ []) (.runtime "keepalive CUDA PCI ordinal mapping is empty")
  pure ((Ranking.arranged tupleLe Placed.bus observed).mapIdx fun ordinal x =>
    (x.gpuUuid, toString ordinal))

/-! ## What is printed -/

/-- A field of `--format=csv`: it has no comma and no line break. -/
structure Field where
  text : List Char
  comma : ',' ∉ text
  oneLine : ∀ c ∈ text, isLineBreak c = false

/-- A card of the server, by its two identities. -/
structure Gpu where
  uuid : Field
  pciBusId : Field

/-- A card, and what is read of it: the fields between its name and its performance state. -/
structure Reading where
  gpu : Gpu
  index : ℕ
  name : Field
  measured : List Field
  measured_length : measured.length = 8

/-- The fields of a line, after the index. -/
def printLine (index : ℕ) (fields : List Field) : List Char :=
  Nat.toDigits 10 index ++ (fields.flatMap fun f => ',' :: ' ' :: f.text) ++ ['\n']

/-- `--query-gpu=index,uuid,name,memory.total,…,pstate,pci.bus_id`. -/
def gpuQuery (readings : List Reading) : String :=
  String.ofList (readings.flatMap fun r =>
    printLine r.index (r.gpu.uuid :: r.name :: (r.measured ++ [r.gpu.pciBusId])))

/-- `--query-gpu=index,uuid,pci.bus_id`. -/
def ordinalQuery (lines : List (ℕ × Gpu)) : String :=
  String.ofList (lines.flatMap fun x => printLine x.1 [x.2.uuid, x.2.pciBusId])

/-- The UUID of a card, as both sides read it. -/
def Gpu.id (g : Gpu) : String := strip (String.ofList g.uuid.text)

/-- The bus address of a card. -/
def Gpu.address (g : Gpu) : Option (List ℕ) :=
  Ordinals.pciBusId (strip (String.ofList g.pciBusId.text))

/-- The cards of a host with a bus address below that of the card with this UUID. -/
def number (host : List Gpu) (uuid : String) : ℕ :=
  match (host.find? fun g => g.id = uuid).bind Gpu.address with
  | none => 0
  | some address => Ranking.rank tupleLe (host.filterMap Gpu.address) address

end ServerPilot.Ordinals
