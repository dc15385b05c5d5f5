import Mathlib.Algebra.GroupWithZero.Nat
import Mathlib.Data.Finset.Card
import Mathlib.Data.Finset.Image
import Mathlib.Data.Finset.Range
import ServerPilot.Lib.Search
import ServerPilot.Spec.Probe

/-!
# GPU counts in Slurm's texts

How `slurm-immediate` reads the columns that `sinfo` prints and the GRES of a job's placements. A
GRES is a list of entries with a count, some with a type, with sockets or with
indexes. `Row` is a node of which `sinfo` prints a line. A digit is an ASCII digit: no other stands
in these texts.
-/

namespace ServerPilot.Gres

open Checked Search Collector

/-! ## Slurm's texts -/

/-- The characters of a type. -/
def isKindChar (c : Char) : Bool :=
  decide (0x21 ≤ c.toNat ∧ c.toNat ≤ 0x7e) && !(c = ':' || c = ',' || c = '(' || c = ')')

/-- The type of a GPU. -/
structure Kind where
  text : List Char
  ne : text ≠ []
  plain : ∀ c ∈ text, isKindChar c = true

/-- A single index, or the indexes from one to another. -/
structure Span where
  first : ℕ
  last : ℕ
  ordered : first ≤ last

def digits (n : ℕ) : List Char := Nat.toDigits 10 n

def Span.text (x : Span) : List Char :=
  if x.first = x.last then digits x.first else digits x.first ++ '-' :: digits x.last

/-- Indexes, as they are printed. -/
structure Spans where
  head : Span
  tail : List Span

def Spans.all (x : Spans) : List Span := x.head :: x.tail

def Spans.text (x : Spans) : List Char := [','].intercalate (x.all.map Span.text)

/-- `range(a, b)`, as a set. -/
def range (a b : ℤ) : Finset ℤ := (Finset.range (b - a).toNat).image fun k : ℕ => a + (k : ℤ)

def Spans.indexes (x : Spans) : Finset ℤ :=
  x.all.foldl (fun s span => s ∪ range span.first (span.last + 1)) ∅

/-- What an entry may say about where its GPUs are. Slurm may withhold the indexes. -/
inductive Suffix
  | sockets (spans : Spans)
  | indexes (spans : Option Spans)

def Suffix.text : Suffix → List Char
  | .sockets spans => ['(', 'S', ':'] ++ (spans.text ++ [')'])
  | .indexes (some spans) => ['(', 'I', 'D', 'X', ':'] ++ (spans.text ++ [')'])
  | .indexes none => ['(', 'I', 'D', 'X', ':', 'N', '/', 'A', ')']

/-- An entry of a GRES; it counts the indexes it shows. -/
structure Entry where
  kind : Option Kind
  count : ℕ
  suffix : Option Suffix
  shown : ∀ spans, suffix = some (.indexes (some spans)) → spans.indexes.card = count

def kindText : Option Kind → List Char
  | some kind => kind.text ++ [':']
  | none => []

def suffixText : Option Suffix → List Char
  | some suffix => suffix.text
  | none => []

def Entry.text (e : Entry) : List Char :=
  ['g', 'p', 'u', ':'] ++ (kindText e.kind ++ (digits e.count ++ suffixText e.suffix))

/-- The entries of a node or a placement. -/
structure Entries where
  head : Entry
  tail : List Entry

def Entries.all (g : Entries) : List Entry := g.head :: g.tail

/-- Entries after the first. -/
def moreText (es : List Entry) : List Char := es.flatMap fun e => ',' :: e.text

def Entries.text (g : Entries) : List Char := g.head.text ++ moreText g.tail

def gpuCount (es : List Entry) : ℕ := (es.map Entry.count).sum

/-- A node, as `sinfo` prints it: what is used are GPUs the node has. -/
structure Row where
  name : List Char
  state : List Char
  declared : Entries
  used : Entries
  name_len : name.length ≤ 32
  state_len : state.length ≤ 20
  declared_len : declared.text.length ≤ 40
  used_len : used.text.length ≤ 80
  name_line : ∀ c ∈ name, isLineBreak c = false
  state_line : ∀ c ∈ state, isLineBreak c = false
  used_le : gpuCount used.all ≤ gpuCount declared.all
  indexes_lt : ∀ e ∈ used.all, ∀ spans, e.suffix = some (.indexes (some spans)) →
    ∀ i ∈ spans.indexes, i < gpuCount declared.all

/-- A column of that width. -/
def column (width : ℕ) (text : List Char) : List Char :=
  text ++ List.replicate (width - text.length) ' '

def Row.line (r : Row) : List Char :=
  column 32 r.name ++ (column 20 r.state ++ (column 40 r.declared.text ++ column 80 r.used.text))

/-- What `sinfo` prints. -/
def sinfo (rows : List Row) : String := String.ofList (rows.flatMap fun r => r.line ++ ['\n'])

/-! ## Numbers -/

/-- `(\d+)` at the start of a text, and what follows it. -/
def number (s : List Char) : Option (ℕ × List Char) :=
  if s.takeWhile Char.isDigit = [] then none
  else some (Nat.ofDigitChars 10 (s.takeWhile Char.isDigit) 0, s.dropWhile Char.isDigit)

/-- Digits with single underscores between them. -/
def isNumeral : List Char → Bool
  | [] => false
  | [c] => c.isDigit
  | c :: '_' :: s => c.isDigit && isNumeral s
  | c :: s => c.isDigit && isNumeral s

def natural (s : List Char) : Option ℕ :=
  if isNumeral s = true then some (Nat.ofDigitChars 10 (s.filter (· ≠ '_')) 0) else none

/-- `str.strip`. -/
def stripped (s : List Char) : List Char :=
  ((s.dropWhile isSpace).reverse.dropWhile isSpace).reverse

/-- `int`, of a text; a failure is the message of a `ValueError`. -/
def int (s : List Char) : Except String ℤ :=
  match stripped s with
  | '-' :: s => need ((natural s).map fun n => -(n : ℤ)) "invalid literal for int() with base 10"
  | '+' :: s => need ((natural s).map fun n => (n : ℤ)) "invalid literal for int() with base 10"
  | s => need ((natural s).map fun n => (n : ℤ)) "invalid literal for int() with base 10"

/-! ## Nodes -/

/-- The body of `parse_idx`'s loop. -/
def readPart (used : Finset ℤ) (part : List Char) : Except String (Finset ℤ) :=
  let part := stripped part
  if part = [] then .ok used
  else
    match splitOnce ['-'] part with
    | some (start, stop) => do
      let a ← int start
      let b ← int stop
      pure (used ∪ range a (b + 1))
    | none => do
      let n ← int part
      pure (insert n used)

/-- `parse_idx`. -/
def parseIdx (spec : List Char) : Except String (Finset ℤ) :=
  let spec := stripped spec
  if spec = [] then .ok ∅ else (spec.splitOn ',').foldlM readPart ∅

/-- `UNSCHEDULABLE_TOKENS`. -/
def unschedulableTokens : List String :=
  ["drain", "drng", "drained", "down", "fail", "failing", "unknown", "unk", "maint", "maintenance",
    "n/a", "not_responding"]

/-- `is_unschedulable`; `lower` is `str.lower`. -/
def isUnschedulable (lower : String → String) (state : List Char) : Bool :=
  let tokens := split (String.ofList ((lower (String.ofList state)).toList.map fun c =>
    if c = '*' ∨ c = '+' then ' ' else c))
  tokens.any (fun token => token ∈ unschedulableTokens) ||
    tokens.any fun token => "drain".toList.isPrefixOf token.toList ||
      "down".toList.isPrefixOf token.toList || "fail".toList.isPrefixOf token.toList

/-- What follows `[^:\s]+:` at the start of a text. -/
def afterKind (s : List Char) : Option (List Char) :=
  match s.dropWhile fun c => c ≠ ':' && !isSpace c with
  | ':' :: rest => if (s.takeWhile fun c => c ≠ ':' && !isSpace c) = [] then none else some rest
  | _ => none

/-- `[^:\s]+:(\d+)`. -/
def typedNumber (s : List Char) : Option ℕ := do
  let s ← afterKind s
  let x ← number s
  pure x.1

/-- `parse_gres_total`. -/
def parseGresTotal (gpusPerNode : ℕ) (text : List Char) : ℕ :=
  (search (fun s => (tagged ':' ['g', 'p', 'u'] s).bind typedNumber) text).getD gpusPerNode

/-- `(\d+)(?:\(|$)`. -/
def closedNumber (s : List Char) : Option ℕ :=
  match number s with
  | some (n, []) => some n
  | some (n, '(' :: _) => some n
  | _ => none

/-- `(?:[^:\s]+:)?(\d+)(?:\(|$)`. -/
def usedNumber (s : List Char) : Option ℕ := ((afterKind s).bind closedNumber).or (closedNumber s)

/-- The count of `parse_gres_used_indexes`, of which as many indexes are taken. -/
def parseGresUsedCount (text : List Char) (total : ℕ) : Except String (Finset ℤ) := do
  let count ← need (search (fun s => (tagged ':' ['g', 'p', 'u'] s).bind usedNumber) text)
    ("unrecognized GPU allocation count: " ++ String.ofList text)
  if count ≤ 0 then pure ∅
  else if total ≤ count then pure (range 0 total)
  else pure (range 0 count)

/-- A text without the closing bracket it ends with. -/
def withoutBracket (s : List Char) : List Char := if s.getLast? = some ')' then s.dropLast else s

/-- `parse_gres_used_indexes`. -/
def parseGresUsedIndexes (text : List Char) (total : ℕ) : Except String (Finset ℤ) :=
  let text := stripped text
  if text = [] ∨ text = "(null)".toList ∨ text = "N/A".toList ∨ text = "n/a".toList then .ok ∅
  else
    match search (tagged ':' ['I', 'D', 'X']) text with
    | some inner => do
      let inner := withoutBracket inner
      if inner.map Char.toUpper ≠ ['N', '/', 'A'] then
        let used ← parseIdx inner
        pure (used.filter fun index => 0 ≤ index ∧ index < total)
      else parseGresUsedCount text total
    | none => parseGresUsedCount text total

structure Node where
  name : List Char
  state : List Char
  totalGpus : ℕ
  allocatedGpus : ℕ
  schedulable : Bool
  deriving DecidableEq

structure Capacity where
  freeGpuCount : ℤ
  largestFreeBlock : ℤ
  nodes : List Node
  deriving DecidableEq

def Node.free (n : Node) : ℤ := n.totalGpus - n.allocatedGpus

section

variable (gpusPerNode : ℕ) (lower : String → String)

/-- The body of `cluster_gpu_capacity`'s loop. -/
def readNode (line : String) : Except String Node := do
  let line := line.toList
  require (92 ≤ line.length) "incomplete Slurm node row"
  let name := stripped (line.take 32)
  let state := stripped ((line.drop 32).take 20)
  let total := parseGresTotal gpusPerNode (stripped ((line.drop 52).take 40))
  let used ← parseGresUsedIndexes (stripped (line.drop 92)) total
  pure ⟨name, state, total, used.card, !isUnschedulable lower state⟩

/-- `cluster_gpu_capacity`, of what `sinfo` printed. -/
def clusterGpuCapacity (raw : String) : Except String Capacity := do
  let lines := (splitlines raw).filter fun line => strip line ≠ ""
  let nodes ← lines.mapM (readNode gpusPerNode lower)
  let free := (nodes.filter Node.schedulable).map Node.free
  pure ⟨free.sum, free.max?.getD 0, nodes⟩

end

/-! ## Placements -/

/-- `[A-Za-z0-9_.-]`. -/
def isWordChar (c : Char) : Bool := c.isAlphanum || c = '_' || c = '.' || c = '-'

/-- `:(\d+)(?:\(|,|$)`, and what follows it. -/
def placedNumber : List Char → Option (ℕ × List Char)
  | ':' :: s =>
    match number s with
    | some (n, []) => some (n, [])
    | some (n, '(' :: rest) => some (n, rest)
    | some (n, ',' :: rest) => some (n, rest)
    | _ => none
  | _ => none

/-- `gpu(?::[A-Za-z0-9_.-]+)?:(\d+)(?:\(|,|$)`. -/
def placedEntry : List Char → Option (ℕ × List Char)
  | 'g' :: 'p' :: 'u' :: s =>
    let typed :=
      match s with
      | ':' :: s =>
        if s.takeWhile isWordChar = [] then none else placedNumber (s.dropWhile isWordChar)
      | _ => none
    typed.or (placedNumber s)
  | _ => none

/-- The pattern of `allocation_fact`: an entry at the start of the text or after a comma. -/
def placedPattern (start : Bool) (s : List Char) : Option (ℕ × List Char) :=
  (if start = true then placedEntry s else none).or
    (match s with
    | ',' :: s => placedEntry s
    | _ => none)

/-- The count of a placement. -/
def placedCount (gres : List Char) : ℕ := (findallFrom placedPattern true 0 gres).sum

/-- Where a job has GPUs. -/
structure Location where
  node : String
  gpuCount : ℕ
  deriving DecidableEq

/-- The locations `allocation_fact` makes of the placements of a job; `hostnames` is what `scontrol`
expands a list of nodes to. -/
def allocationLocations (hostnames : String → Option (List String)) :
    List (String × List Char) → Except String (List Location)
  | [] => .ok []
  | (nodeList, gres) :: placements => do
    let names ← need (hostnames nodeList) "Slurm job node expansion failed"
    let rest ← allocationLocations hostnames placements
    pure ((names.map fun name => ⟨name, placedCount gres⟩) ++ rest)

end ServerPilot.Gres
