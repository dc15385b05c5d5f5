import Mathlib.Data.List.DropRight
import ServerPilot.Lib.Numbering
import ServerPilot.Spec.Handoff

/-!
# Group ids

The app makes a group's id from the name a person typed: the name's Latin form is folded
to ASCII, and a number tells apart ids of one name. What the system's transforms and
`lowercased` give is a parameter.
-/

namespace ServerPilot.Desktop

/-- `applyingTransform(.toLatin)`, `applyingTransform(.stripDiacritics)` and `lowercased`. -/
structure Transforms where
  toLatin : String → Option String
  stripDiacritics : String → Option String
  lowercased : String → String

/-- `asciiLower` and the digits. -/
def isFolded (c : Char) : Bool := ('a' ≤ c && c ≤ 'z') || ('0' ≤ c && c ≤ '9')

/-- `slug.hasSuffix("-")`. -/
def endsInDash (slug : List Char) : Bool := slug.getLast? == some '-'

/-- One scalar of the folding loop. -/
def foldScalar (slug : List Char) (scalar : Char) : List Char :=
  if isFolded scalar then slug ++ [scalar]
  else if !slug.isEmpty && !endsInDash slug then slug ++ ['-']
  else slug

/-- `while slug.hasSuffix("-") { slug.removeLast() }`. -/
def trimDashes (slug : List Char) : List Char := slug.rdropWhile (· == '-')

/-- A slug of two characters or more that begins with a letter. -/
def lettered (slug : List Char) : List Char :=
  if slug.length < 2 || !(slug.head?.any fun c => 'a' ≤ c && c ≤ 'z') then
    if slug.isEmpty then "group".toList else "group-".toList ++ slug
  else slug

/-- The slug of a name, before it is numbered. -/
def slugOf (t : Transforms) (displayName : String) : String :=
  let latin := (t.toLatin displayName).getD displayName
  let ascii := t.lowercased ((t.stripDiacritics latin).getD latin)
  let slug := lettered (trimDashes (ascii.toList.foldl foldScalar []))
  String.ofList (trimDashes (slug.take 120))

/-- One turn of the numbering loop, of the candidate and the next number. -/
def nextNumbered (slug : String) (s : String × ℕ) : String × ℕ :=
  (slug ++ "-" ++ toString s.2, s.2 + 1)

/-- `ServerGroupIdentifier.make`, in at most `fuel` turns of its numbering loop. -/
def makeGroupId (t : Transforms) (displayName : String) (taken : Finset String) (fuel : ℕ) :
    Option String :=
  let slug := slugOf t displayName
  Numbering.untilFree (nextNumbered slug) Prod.fst taken fuel (slug, 2)

/-- `isSlugID`. A value all of whose scalars pass has a character for each scalar. -/
def isSlugID (value : String) : Bool :=
  match value.toList with
  | [] => false
  | first :: rest => (2 ≤ value.length && value.length ≤ 128) && ('a' ≤ first && first ≤ 'z') &&
      rest.all fun c => isFolded c || c == '-'

end ServerPilot.Desktop
