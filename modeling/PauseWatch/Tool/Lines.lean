import PauseWatch.Text.Blank
import PauseWatch.Tool.Stream

/-!
# Programs about lines

Programs that make lines, count them, or put them in order.
-/

namespace PauseWatch.Tool

open Host (Work)

/-- Writes a line over and over. -/
def yes (me : String) (args : List String) : Work Nat := do
  let line := Text.toByteList ((if args = [] then "y" else " ".intercalate args) ++ "\n")
  let block := (List.replicate (8192 / line.length + 1) line).flatten
  let rec go : Nat → Work Unit
    | 0 => return ()
    | fuel + 1 => do
      match ← Work.write 1 block with
      | none => go fuel
      | some fault => warn me ("standard output: " ++ fault.text)
  go patience
  return 1

end PauseWatch.Tool
