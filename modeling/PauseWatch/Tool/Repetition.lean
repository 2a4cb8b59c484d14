import PauseWatch.Tool.Stream

/-!
# Repeated lines

Lines that repeat the one before them are left out, counted, or set apart, where parts of the lines
can be passed over when they are compared.
-/

namespace PauseWatch.Tool

open Host (Work)

/-- What is said about a word that is none of those an option takes. -/
def badChoice (name value : String) (choices : List String) : String :=
  "invalid argument " ++ quoted value ++ " for '--" ++ name ++ "'\nValid arguments are:"
    ++ String.join (choices.map fun choice => "\n  - " ++ quoted choice)

/-- The choice that a word is the start of. -/
def choiceOf? (value : String) (choices : List String) : Option String :=
  if choices.contains value then some value
  else if value = "" then none
  else match choices.filter (Text.startsWith value) with
    | [choice] => some choice
    | _ => none

namespace Repetition

/-- How lines are compared and what is shown of them. -/
structure Plan where
  /-- How many fields are passed over. -/
  fields : Nat := 0
  /-- How many characters are passed over behind them. -/
  chars : Nat := 0
  /-- How many characters are compared at most. -/
  most : Option Nat := none
  /-- Whether large and small letters are the same. -/
  ignoresCase : Bool := false
  /-- Whether the number of lines is shown. -/
  showsCount : Bool := false
  /-- Whether lines are shown that are not repeated. -/
  showsSingle : Bool := true
  /-- Whether a line is shown of those that are repeated. -/
  showsRepeated : Bool := true
  /-- Whether the other lines are shown as well. -/
  showsOthers : Bool := false
  /-- Where lines that are repeated are set apart. -/
  gap : String := "none"
  /-- Where all lines are set apart by what they repeat. -/
  groups : Option String := none
  /-- What ends lines. -/
  lineEnd : String := "\n"

/-- What is kept between lines. -/
structure State where
  /-- The line that may be repeated. -/
  line : Option String := none
  /-- How often it was repeated. -/
  count : Nat := 0
  /-- Whether repeated lines were found before. -/
  hasOlder : Bool := false

/-- The part of a line that is compared. -/
def Plan.part (plan : Plan) (line : String) : List Char :=
  let isGap (c : Char) : Bool := c = ' ' || c = '\t' || c = '\n'
  let rec dropFields : Nat → List Char → List Char
    | 0, chars => chars
    | _, [] => []
    | n + 1, chars => dropFields n ((chars.dropWhile isGap).dropWhile (!isGap ·))
  let chars := (dropFields (min plan.fields line.length) line.toList).drop plan.chars
  let chars := plan.most.elim chars chars.take
  if plan.ignoresCase then chars.map Char.toUpper else chars

/-- Shows a line if it should be shown, given how often it was repeated and whether that goes on. -/
def Plan.shown (plan : Plan) (line : String) (count : Nat) (goesOn : Bool) : String :=
  let isShown :=
    if count = 0 then plan.showsSingle
    else if goesOn then plan.showsOthers else plan.showsRepeated
  if !isShown then ""
  else if plan.showsCount then
    let number := toString (count + 1)
    String.ofList (List.replicate (7 - number.length) ' ') ++ number ++ " " ++ line ++ plan.lineEnd
  else line ++ plan.lineEnd

/-- Takes a line, and says what there is to say. -/
def Plan.step (plan : Plan) (s : State) (line : String) : State × String :=
  let isRepeated := s.line.any fun old => plan.part old = plan.part line
  match plan.groups with
  | some how =>
    let isApart := !isRepeated && (how = "prepend" || how = "both" || s.line.isSome)
    ({ s with line := some line }, (if isApart then plan.lineEnd else "") ++ line ++ plan.lineEnd)
  | none =>
    if plan.showsSingle && plan.showsRepeated && !plan.showsCount then
      if isRepeated then (s, "") else ({ s with line := some line }, line ++ plan.lineEnd)
    else match s.line with
      | none => ({ s with line := some line }, "")
      | some old =>
        let count := if isRepeated then s.count + 1 else s.count
        let gap :=
          if isRepeated && count = 1
            && (plan.gap = "prepend" || (plan.gap = "separate" && s.hasOlder)) then plan.lineEnd
          else ""
        let hasOlder := s.hasOlder || (!isRepeated && count ≠ 0)
        if isRepeated && !plan.showsOthers then ({ s with count, hasOlder }, gap)
        else
          ({ line := some line, count := if isRepeated then count else 0, hasOlder },
            gap ++ plan.shown old count isRepeated)

/-- What there is to say at the end. -/
def Plan.close (plan : Plan) (s : State) : String :=
  match s.line with
  | none => ""
  | some line =>
    match plan.groups with
    | some how => if how = "append" || how = "both" then plan.lineEnd else ""
    | none =>
      if plan.showsSingle && plan.showsRepeated && !plan.showsCount then ""
      else plan.shown line s.count false

/-- A number that an option takes. -/
def countOf? (text : String) : Option Nat :=
  let digits := match text.toList with
    | '+' :: digits => digits
    | digits => digits
  if digits = [] || !digits.all Char.isDigit then none else some (Text.digitsValue 10 digits)

/-- The plan that options make, or what is wrong with them and whether a hint goes with that. -/
def planOf (s : Selection) : Except (String × Bool) Plan := do
  let counts : List (Char × String) := [('f', "invalid number of fields to skip"),
    ('s', "invalid number of bytes to skip"), ('w', "invalid number of bytes to compare")]
  for (key, value) in s.options do
    match counts.lookup key, value with
    | some problem, some value =>
      if (countOf? value).isNone then throw (value ++ ": " ++ problem, false)
    | _, _ => pure ()
  let chosen (key : Char) (name usual : String) (choices : List String) :
      Except (String × Bool) (Option String) := do
    if !s.has key then return none
    match s.last? key with
    | none => return some usual
    | some value =>
      match choiceOf? value choices with
      | some choice => return some choice
      | none => throw (badChoice name value choices, true)
  let repeated ← chosen 'D' "all-repeated" "none" ["none", "prepend", "separate"]
  let groups ← chosen 'g' "group" "separate" ["prepend", "append", "separate", "both"]
  if groups.isSome && (['c', 'd', 'D', 'u'].any s.has) then
    throw ("--group is mutually exclusive with -c/-d/-D/-u", true)
  if s.has 'c' && repeated.isSome then
    throw ("printing all duplicated lines and repeat counts is meaningless", true)
  let old := (s.options.map (·.1)).filter Char.isDigit
  return {
    fields := ((s.last? 'f').bind countOf?).getD (Text.digitsValue 10 old)
    chars := ((s.last? 's').bind countOf?).getD 0
    most := (s.last? 'w').bind countOf?
    ignoresCase := s.has 'i'
    showsCount := s.has 'c'
    showsSingle := !s.has 'd' && repeated.isNone
    showsRepeated := !s.has 'u'
    showsOthers := repeated.isSome
    gap := repeated.getD "none"
    groups
    lineEnd := if s.has 'z' then "\x00" else "\n" }

end Repetition

/-- How it is said that a file cannot be opened, or can be opened but not read. -/
def asOpened : Complaint := fun path fault =>
  if fault = .isFolder then "error reading " ++ shellQuoted path ++ ": " ++ fault.text
  else plainly path fault

/-- Leaves out repetitions of lines. -/
def uniq (me : String) (args : List String) : Work Nat :=
  let names := [("count", 'c'), ("repeated", 'd'), ("all-repeated::", 'D'), ("group::", 'g'),
    ("unique", 'u'), ("ignore-case", 'i'), ("skip-fields:", 'f'), ("skip-chars:", 's'),
    ("check-chars:", 'w'), ("zero-terminated", 'z')]
  withOptions me "0123456789Dcdf:is:uw:z" names true 1 args fun s => do
    match Repetition.planOf s with
    | .error (message, hasHint) =>
      if hasHint then usage me message 1
      else
        warn me message
        return 1
    | .ok plan =>
      let isCount (word : String) : Bool :=
        word.startsWith "+" && (Repetition.countOf? word).isSome
      let plan := match ((s.operands.filter isCount).getLast?).bind Repetition.countOf? with
        | some chars => { plan with chars }
        | none => plan
      let run (input : String) : Work Nat := do
        let (status, state) ← forLines me asOpened (plan.lineEnd.toList.headD '\n') plan.step
          [input] {}
        if status = 0 && plan.close state ≠ "" then print me (plan.close state)
        return status
      match s.operands.filter fun word => !isCount word with
      | [] => run "-"
      | [input] => run input
      | [input, output] =>
        let missing ← if input = "-" then pure none else
          match ← Work.look input with
          | .ok _ => pure none
          | .error fault => pure (some fault)
        match missing with
        | some fault =>
          warn me (plainly input fault)
          return 1
        | none =>
          if output ≠ "-" then
            match ← Work.openFile output .write with
            | .ok handle => Work.attach 1 (some handle)
            | .error fault =>
              warn me (plainly output fault)
              Work.exit 1
          run input
      | _ :: _ :: extra :: _ => usage me ("extra operand " ++ quoted extra) 1

end PauseWatch.Tool
