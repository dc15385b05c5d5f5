import ServerPilot.Lib.Shell

/-!
# The command to copy

`AllocationEntryRecord.commandText` writes the arguments a provider gave in single quotes, for a
person to paste into a shell. A Swift text is searched by Characters, so how texts fall into
Characters is a parameter.
-/

namespace ServerPilot.Desktop

/-- `Character`s: the extended grapheme clusters of a text. -/
structure Characters where
  segment : List Char → List (List Char)
  flatten : ∀ text, (segment text).flatten = text
  nonempty : ∀ text, ∀ ch ∈ segment text, ch ≠ []

/-- `replacingOccurrences(of:with:)` without options, of a single Character: a search that is not
literal finds it where it is a whole Character of the text. -/
def replacingOccurrences (cs : Characters) (target replacement text : List Char) : List Char :=
  (cs.segment text).flatMap fun ch => if ch = target then replacement else ch

/-- An argument in single quotes. -/
def quoteArgument (cs : Characters) (argument : List Char) : List Char :=
  '\'' :: replacingOccurrences cs ['\''] ['\'', '\\', '\'', '\''] argument ++ ['\'']

structure AllocationEntryRecord where
  argv : List String
  deriving DecidableEq, Repr

/-- `commandText`. -/
def AllocationEntryRecord.commandText (cs : Characters) (e : AllocationEntryRecord) : String :=
  String.ofList ([' '].intercalate (e.argv.map fun a => quoteArgument cs a.toList))

/-- The words a POSIX shell makes of a text, quoting only. -/
def shellWords (text : String) : Option (List String) :=
  (Shell.splitWords text.toList).map fun words => words.map String.ofList

/-- `AllocationEntry.bounded_arguments`, and the length of the field: what a provider may send. -/
def boundedArguments (value : List String) : Bool :=
  decide (value.length ≤ 64) && value.all fun item =>
    !item.isEmpty && decide (item.length ≤ 2000) &&
      item.toList.all fun c => !(c = '\x00' || c = '\n' || c = '\r')

end ServerPilot.Desktop
