import PauseWatch.Text.Split

/-!
# Selections of the unified log

A log option names tags, separated by commas, up to the first colon after the selection. The
collector's log is on when one of the selectors is the tag gc, possibly with a star or a level, or
the word all.
-/

namespace PauseWatch.Jvm

/-- Whether one selector switches the collector's log on. -/
def selectsGc (selector : List Char) : Bool :=
  selector == "gc".toList || "gc*".toList.isPrefixOf selector || "gc=".toList.isPrefixOf selector
    || selector == "all".toList

/-- Whether a selection, the text between the first two colons, switches the collector's log on. -/
def selectionEnablesGc (selection : List Char) : Bool :=
  if selection = "disable".toList then false
  else (Text.pieces (· == ',') selection).any selectsGc

/-- Whether what follows the name of the log option switches the collector's log on. An option
without a selection asks for warnings only. -/
def enablesGcLog : List Char → Bool
  | [] => false
  | c :: rest => if c = ':' then selectionEnablesGc (rest.takeWhile (· != ':')) else false

end PauseWatch.Jvm
