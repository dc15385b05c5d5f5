import Mathlib.Data.List.DropRight
import ServerPilot.Lib.Find
import ServerPilot.Spec.Probe

/-!
# The policy block of a rules file

`install_policy` writes the agents' rules into a file that the user owns, between two
markers; a block of the older markers is replaced. Texts are lists of characters.
-/

namespace ServerPilot.Policy

open Find Collector

abbrev Text := List Char

/-- `str.rstrip`. -/
def rstrip (s : Text) : Text := s.rdropWhile isSpace

/-- `str.lstrip`. -/
def lstrip (s : Text) : Text := s.dropWhile isSpace

/-- A start and an end marker. -/
structure Markers where
  start : Text
  stop : Text

/-- `POLICY_BLOCK_MARKERS`. -/
def policyBlockMarkers : Markers where
  start := "<!-- SERVERPILOT_GLOBAL_START -->".toList
  stop := "<!-- SERVERPILOT_GLOBAL_END -->".toList

/-- `LEGACY_POLICY_BLOCK_MARKERS`. -/
def legacyPolicyBlockMarkers : Markers where
  start := "<!-- GPU_BROKER_GLOBAL_START -->".toList
  stop := "<!-- GPU_BROKER_GLOBAL_END -->".toList

/-- `render_policy_block`. -/
def renderPolicyBlock (policy : Text) : Text :=
  policyBlockMarkers.start ++ '\n' :: (rstrip policy ++ '\n' :: (policyBlockMarkers.stop ++ ['\n']))

/-- What is before and what is after the block of these markers; none if they are in the wrong
order. A marker that was counted is found. -/
def around (m : Markers) (existing : Text) : Option (Text × Text) :=
  match find m.start existing, find m.stop existing with
  | some start, some stop =>
    if stop < start then none
    else some (existing.take start, existing.drop (stop + m.stop.length))
  | _, _ => none

/-- The block in its place. -/
def replaceBlock (m : Markers) (existing block : Text) : Except String Text :=
  match around m existing with
  | none => .error "existing ServerPilot policy markers are malformed"
  | some (before, after) =>
    .ok (rstrip before ++ '\n' :: '\n' :: (rstrip block ++ '\n' :: lstrip after))

/-- `merge_policy_block`. -/
def mergePolicyBlock (existing block : Text) : Except String Text :=
  let current := policyBlockMarkers
  let legacy := legacyPolicyBlockMarkers
  let currentCount := count current.start existing
  let legacyCount := count legacy.start existing
  if currentCount ≠ count current.stop existing ∨ legacyCount ≠ count legacy.stop existing then
    .error "existing ServerPilot policy markers are incomplete"
  else if 1 < currentCount ∨ 1 < legacyCount then
    .error "existing ServerPilot policy markers are duplicated"
  else if 0 < currentCount ∧ 0 < legacyCount then
    .error
      "existing ServerPilot policy markers are duplicated across legacy and current blocks"
  else if 0 < currentCount then replaceBlock current existing block
  else if 0 < legacyCount then replaceBlock legacy existing block
  else if existing.all isSpace then .ok block
  else .ok (rstrip existing ++ '\n' :: '\n' :: block)

/-! ## What a merge is to leave alone -/

/-- The texts before and after the old block: without one, the whole text is before it. -/
def sides (existing : Text) : Text × Text :=
  if 0 < count policyBlockMarkers.start existing then
    (around policyBlockMarkers existing).getD (existing, [])
  else if 0 < count legacyPolicyBlockMarkers.start existing then
    (around legacyPolicyBlockMarkers existing).getD (existing, [])
  else (existing, [])

/-- The four markers. -/
def markers : List Text :=
  [policyBlockMarkers.start, policyBlockMarkers.stop, legacyPolicyBlockMarkers.start,
    legacyPolicyBlockMarkers.stop]

/-- No marker occurs in it. -/
def MarkerFree (s : Text) : Prop := ∀ m ∈ markers, ¬ m <:+: s

/-- The text before and the text after are as they were, but for line breaks next to the block. -/
structure SameAround (old new : Text × Text) : Prop where
  before : old.1.rdropWhile isLineBreak = new.1.rdropWhile isLineBreak
  after : old.2.dropWhile isLineBreak = new.2.dropWhile isLineBreak

/-- `result` has one current block, that of `policy`, no legacy block, and the rest of
`existing`. -/
structure Installed (existing policy result : Text) : Prop where
  one : count policyBlockMarkers.start result = 1 ∧ count policyBlockMarkers.stop result = 1
  none : count legacyPolicyBlockMarkers.start result = 0 ∧
    count legacyPolicyBlockMarkers.stop result = 0
  block : ∃ before after, around policyBlockMarkers result = some (before, after) ∧
    result = before ++ (rstrip (renderPolicyBlock policy) ++ after) ∧
    SameAround (sides existing) (before, after)

/-- A merge that also changes nothing when it is made again, and gives way to a later one. -/
structure Proper (existing policy later result : Text) : Prop where
  installed : Installed existing policy result
  again : mergePolicyBlock result (renderPolicyBlock policy) = .ok result
  lastWins : mergePolicyBlock result (renderPolicyBlock later) =
    mergePolicyBlock existing (renderPolicyBlock later)

/-- The text is not blank, and the white space next to its block is line breaks only. -/
structure Spaced (existing : Text) : Prop where
  text : ∃ c ∈ existing, isSpace c = false
  before : ∀ c ∈ (sides existing).1.rtakeWhile isSpace, isLineBreak c = true
  after : ∀ c ∈ (sides existing).2.takeWhile isSpace, isLineBreak c = true

end ServerPilot.Policy
