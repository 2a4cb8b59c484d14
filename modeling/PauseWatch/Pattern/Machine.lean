import Std.Data.HashMap
import PauseWatch.Pattern.Simplify
import PauseWatch.Text.ByteRange

/-!
# The size of the machines of a pattern

A pattern is matched by two machines that read bytes: one reads forwards, the other backwards. A
machine is a list of states that grows as the pattern is gone through. A state takes thirty-two
bytes, and more when it leads to several others. Both machines have to stay within ten mebibytes,
else the pattern is refused.

Only sizes are kept, and of states their numbers, since equal states are shared when a table of
limited size still holds the first of them. Main functions: `Regex.grow` for the part of a machine
that a pattern takes, `Regex.fits` for the limit.
-/

namespace PauseWatch.Pattern

/-- The size of a machine. -/
structure MachineSize where
  /-- How many states there are. -/
  states : Nat
  /-- How many bytes the states take besides their own size. -/
  extra : Nat
  deriving DecidableEq, Repr

namespace MachineSize

/-- The bytes of a state that leads to one other state at most. -/
def stateSize : Nat := 32

/-- The most bytes that a machine may take. -/
def limit : Nat := 10 * 1024 * 1024

/-- How many bytes the machine takes. -/
def bytes (s : MachineSize) : Nat := stateSize * s.states + s.extra

/-- Adds a state that takes a number of bytes besides its own size. -/
def add (s : MachineSize) (extra : Nat) : Option MachineSize :=
  let next : MachineSize := ⟨s.states + 1, s.extra + extra⟩
  if next.bytes ≤ limit then some next else none

/-- Adds several states. -/
def addMany (s : MachineSize) (count : Nat) : Option MachineSize :=
  let next : MachineSize := ⟨s.states + count, s.extra⟩
  if next.bytes ≤ limit then some next else none

/-- Adds ways that lead on from states of several ways, four bytes each. -/
def addWays (s : MachineSize) (count : Nat) : MachineSize := { s with extra := s.extra + 4 * count }

end MachineSize

/-- How a part of a machine leads on to the next part: from a state of several ways, which takes one
way more, or from a state of one way. -/
inductive PartEnd where
  /-- A state of one way. -/
  | plain
  /-- A state of several ways. -/
  | forked
  deriving DecidableEq, Repr

/-- Leads on from the end of a part. -/
def PartEnd.leadOn (e : PartEnd) (s : MachineSize) : MachineSize :=
  match e with
  | .plain => s
  | .forked => s.addWays 1

/-! ## Sets of characters -/

/-- One step of the hash of a row of numbers. -/
def mixHash (h : UInt64) (n : Nat) : UInt64 := (h ^^^ UInt64.ofNat n) * 1099511628211

/-- The place of a row of numbers in a table of a given size. -/
def tablePlace (size : Nat) (ns : List Nat) : Nat :=
  (ns.foldl mixHash 14695981039346656037).toNat % size

/-- A table of states that have been built: each place holds the latest state put there, with what
it leads to. -/
abbrev StateTable := Std.HashMap Nat (List Nat × Nat)

/-- The ways out of a state: the first byte, the last byte and the next state of each, one number
after another, the last way first. -/
abbrev Ways := List (Nat × Nat × Nat)

/-- The ways as a row of numbers. -/
def Ways.numbers (ways : Ways) : List Nat :=
  ways.reverse.flatMap fun (first, last, next) => [first, last, next]

/-- A state under construction: the ways that are complete, and the byte range of the last way, whose
next state is not known yet. -/
structure OpenState where
  /-- The complete ways, the last one first. -/
  ways : Ways
  /-- The byte range of the way under construction. -/
  last : Option (Nat × Nat)

/-- Completes the way under construction. -/
def OpenState.close (o : OpenState) (next : Nat) : OpenState :=
  match o.last with
  | some (first, last) => ⟨(first, last, next) :: o.ways, none⟩
  | none => o

/-- A machine for a set of characters under construction. -/
structure SetMachine where
  /-- The size of the whole machine. -/
  size : MachineSize
  /-- The states built so far. -/
  table : StateTable

/-- The state with the given ways, which is built unless the table holds it. -/
def SetMachine.state (m : SetMachine) (ways : Ways) : Option (SetMachine × Nat) :=
  let key := ways.numbers
  let place := tablePlace 10000 key
  let build := (m.size.add (8 * ways.length)).map fun size =>
    (⟨size, m.table.insert place (key, m.size.states)⟩, m.size.states)
  match m.table[place]? with
  | some (known, number) => if known == key then some (m, number) else build
  | none => build

/-- Builds the deepest of the open states until `keep` of them and the one above these are left, and
completes the way of that one. The deepest open state comes first. -/
def SetMachine.closeTo (keep : Nat) (m : SetMachine) (next : Nat) :
    List OpenState → Option (SetMachine × List OpenState)
  | [] => some (m, [])
  | [top] => some (m, [top.close next])
  | deepest :: rest =>
    if rest.length ≤ keep then some (m, deepest.close next :: rest)
    else do
      let (m, number) ← m.state (deepest.close next).ways
      m.closeTo keep number rest

/-- How many byte ranges at the start of a row are those of the open states, from the top on. -/
def sharedRanges : List (Nat × Nat) → List OpenState → Nat
  | range :: ranges, o :: os => if o.last = some range then sharedRanges ranges os + 1 else 0
  | _, _ => 0

/-- Adds a row of byte ranges to the open states, the deepest of which comes first. -/
def SetMachine.addRow (target : Nat) (m : SetMachine) (openStates : List OpenState)
    (row : List (Nat × Nat)) : Option (SetMachine × List OpenState) := do
  let keep := sharedRanges row openStates.reverse
  let (m, left) ← m.closeTo keep target openStates
  match left, row.drop keep with
  | deepest :: rest, range :: ranges =>
    let deeper := ranges.map fun r => (⟨[], some r⟩ : OpenState)
    some (m, deeper.reverse ++ { deepest with last := some range } :: rest)
  | left, _ => some (m, left)

/-- Adds several rows of byte ranges. -/
def SetMachine.addRows (target : Nat) (m : SetMachine) (openStates : List OpenState) :
    List (List (Nat × Nat)) → Option (SetMachine × List OpenState)
  | [] => some (m, openStates)
  | row :: rows => do
    let (m, openStates) ← m.addRow target openStates row
    m.addRows target openStates rows

/-- Adds the states that read a character of a set forwards. Characters that end alike share states.
-/
def growSetForwards (s : MachineSize) (set : Text.CharSet) : Option MachineSize := do
  let target := s.states
  let s ← s.add 0
  let (m, openStates) ← SetMachine.addRows target ⟨s, {}⟩ [⟨[], none⟩] set.byteRows
  let (m, left) ← m.closeTo 0 target openStates
  let (m, _) ← m.state (left.head?.elim [] (·.ways))
  some m.size

/-- Adds the states that read a row of byte ranges backwards, from the state after it on. The state
that the row starts with comes back. -/
def growRowBackwards (s : MachineSize) (table : StateTable) (next : Nat) :
    List (Nat × Nat) → Option (MachineSize × StateTable × Nat)
  | [] => some (s, table, next)
  | (first, last) :: rest =>
    let key := [next, first, last]
    let place := tablePlace 1000 key
    match table[place]? with
    | some (known, number) =>
      if known == key then growRowBackwards s table number rest
      else do
        growRowBackwards (← s.add 0) (table.insert place (key, s.states)) s.states rest
    | none => do growRowBackwards (← s.add 0) (table.insert place (key, s.states)) s.states rest

/-- Adds the states that read rows of byte ranges backwards. -/
def growRowsBackwards (target : Nat) (s : MachineSize) (table : StateTable) :
    List (List (Nat × Nat)) → Option MachineSize
  | [] => some s
  | row :: rows => do
    let (s, table, _) ← growRowBackwards s table target row
    growRowsBackwards target (s.addWays 1) table rows

/-- Adds the states that read a character of a set backwards: a state with a way for each row of
byte ranges, and the rows. -/
def growSetBackwards (s : MachineSize) (set : Text.CharSet) : Option MachineSize := do
  let s ← s.addMany 2
  growRowsBackwards (s.states - 1) s {} set.byteRows

/-- Adds the states that read a character of a set. -/
def growSet (forwards : Bool) (s : MachineSize) (set : Text.CharSet) : Option MachineSize :=
  if set.isAscii then do (← s.add 0).add (8 * set.toRanges.length)
  else if forwards then growSetForwards s set else growSetBackwards s set

/-! ## Choices between texts -/

/-- The tree of the texts of a choice. A node has groups of ways, in each of which the bytes
increase; a text that ends at the node closes a group. -/
inductive TextTree where
  /-- A node with its closed groups, the first one first, and its last group. -/
  | node (closed : List (List (Nat × TextTree))) (last : List (Nat × TextTree))
  deriving Repr, Inhabited

/-- The tree without texts. -/
def TextTree.empty : TextTree := .node [] []

/-- Whether no way leads on from the node. -/
def TextTree.isLeaf : TextTree → Bool
  | .node closed last => last.isEmpty && closed.all (·.isEmpty)

/-- The node after a text has ended there. A node without ways is closed once only. -/
def TextTree.endHere : TextTree → TextTree
  | .node closed last =>
    if !closed.isEmpty && last.isEmpty && closed.all (·.isEmpty) then .node closed last
    else .node (closed ++ [last]) []

/-- Changes the way of a byte in a group, where ways are in the order of their bytes. -/
def changeWay (byte : Nat) (change : TextTree → TextTree) :
    List (Nat × TextTree) → List (Nat × TextTree)
  | [] => [(byte, change .empty)]
  | (b, t) :: rest =>
    if b = byte then (b, change t) :: rest
    else if byte < b then (byte, change .empty) :: (b, t) :: rest
    else (b, t) :: changeWay byte change rest

/-- The tree with one text more. -/
def TextTree.insert (text : List Nat) : TextTree → TextTree :=
  match text with
  | [] => TextTree.endHere
  | byte :: rest => fun
    | .node closed last => .node closed (changeWay byte (TextTree.insert rest) last)

/-- The bytes that a group of ways takes besides its own state. -/
def groupExtra (count : Nat) : Nat := if count = 1 then 0 else 8 * count

mutual

/-- Adds the states of a node of the tree: one for each group with ways, and one that leads to
these and to the end of the choice wherever a text ends. -/
def TextTree.grow (s : MachineSize) : TextTree → Option MachineSize
  | .node closed last => do
    let s ← TextTree.growGroups s closed
    let s ← TextTree.growGroup s last
    let groups := (closed.filter (!·.isEmpty)).length + (if last.isEmpty then 0 else 1)
    s.add (4 * (groups + closed.length))

/-- Adds the states of several groups of ways. -/
def TextTree.growGroups (s : MachineSize) : List (List (Nat × TextTree)) → Option MachineSize
  | [] => some s
  | group :: groups => do TextTree.growGroups (← TextTree.growGroup s group) groups

/-- Adds the states of a group of ways. -/
def TextTree.growGroup (s : MachineSize) : List (Nat × TextTree) → Option MachineSize
  | [] => some s
  | way :: ways => do
    (← TextTree.growWays s (way :: ways)).add (groupExtra (ways.length + 1))

/-- Adds the states that the ways of a group lead to. -/
def TextTree.growWays (s : MachineSize) : List (Nat × TextTree) → Option MachineSize
  | [] => some s
  | (_, t) :: ways => do
    TextTree.growWays (← if t.isLeaf then some s else t.grow s) ways

end

/-- The bytes of a text. -/
def textBytes (text : List Char) : List Nat := text.flatMap fun c => Text.encodeCode c.toNat

/-- The texts of branches that are texts. -/
def texts? : List Regex → Option (List (List Char))
  | [] => some []
  | .literal text :: rest => (texts? rest).map (text :: ·)
  | _ => none

/-- Adds the states of a choice between texts. -/
def growTexts (forwards : Bool) (s : MachineSize) (texts : List (List Char)) :
    Option MachineSize := do
  let rows := texts.map fun t => if forwards then textBytes t else (textBytes t).reverse
  (rows.foldl (fun tree row => tree.insert row) TextTree.empty).grow (← s.add 0)

/-! ## Whole patterns -/

/-- The size of a machine so far, and how its last part leads on. -/
abbrev Grown := MachineSize × PartEnd

/-- Adds parts one after another, as many as asked for, each of which leads on to the next. -/
def growCopies (part : MachineSize → Option Grown) : Nat → Grown → Option Grown
  | 0, g => some g
  | n + 1, (s, e) =>
    match part s with
    | some (s, e') => growCopies part n (e.leadOn s, e')
    | none => none

/-- Adds a part a fixed number of times. -/
def growExactly (part : MachineSize → Option Grown) : Nat → MachineSize → Option Grown
  | 0, s => (s.add 0).map (·, .plain)
  | n + 1, s => do growCopies part n (← part s)

/-- Adds a part that may be left out, as many times as asked for. Each leads to the common end. -/
def growOptional (part : MachineSize → Option Grown) : Nat → Grown → Option Grown
  | 0, g => some g
  | n + 1, (s, e) =>
    match (s.add 0).bind part with
    | some (s, e') => growOptional part n ((e.leadOn s).addWays 2, e')
    | none => none

/-- Adds a part that is repeated without bound, after it has been there `least` times. -/
def growUnbounded (part : MachineSize → Option Grown) (takesChars : Bool) (s : MachineSize) :
    Nat → Option Grown
  | 0 =>
    if takesChars then do
      let (s, e) ← part (← s.add 0)
      some (e.leadOn (s.addWays 1), .forked)
    else do
      let (s, e) ← part s
      let s ← (e.leadOn s).addMany 3
      some (s.addWays 4, .plain)
  | 1 => do
    let (s, e) ← part s
    let s ← s.add 0
    some ((e.leadOn s).addWays 1, .forked)
  | n + 2 => do
    let (s, e) ← growExactly part (n + 1) s
    let (s, e') ← part s
    let s ← s.add 0
    some ((e'.leadOn (e.leadOn s)).addWays 1, .forked)

/-- Adds a repeated part. -/
def growRepeated (part : MachineSize → Option Grown) (takesChars : Bool) (least : Nat)
    (most : Option Nat) (s : MachineSize) : Option Grown :=
  match most with
  | none => growUnbounded part takesChars s least
  | some most =>
    if least = 0 ∧ most = 1 then do
      let (s, e) ← part (← s.add 0)
      some ((e.leadOn (← s.add 0)).addWays 2, .plain)
    else if least = most then growExactly part least s
    else do
      let (s, e) ← growExactly part least s
      let (s, e) ← growOptional part (most - least) (← s.add 0, e)
      some (e.leadOn s, .plain)

mutual

/-- Adds the states of a pattern to a machine. Groups take states only when it reads forwards. -/
def Regex.grow (forwards : Bool) : Regex → MachineSize → Option Grown
  | .empty, s => (s.add 0).map (·, .plain)
  | .literal text, s => (s.addMany (textBytes text).length).map (·, .plain)
  | .chars set _, s => (growSet forwards s set).map (·, .plain)
  | .anchor _ _, s => (s.add 0).map (·, .plain)
  | .times inner least most _, s =>
    growRepeated (inner.grow forwards) (inner.minLength.any (0 < ·)) least most s
  | .group _ inner, s =>
    if forwards then do
      let (s, e) ← inner.grow forwards (← s.add 0)
      some (e.leadOn (← s.add 0), .plain)
    else inner.grow forwards s
  | .seq parts, s =>
    match parts with
    | [] => (s.add 0).map (·, .plain)
    | part :: parts => do Regex.growParts forwards parts (← part.grow forwards s)
  | .oneOf branches, s =>
    match texts? branches with
    | some texts => (growTexts forwards s texts).map (·, .plain)
    | none =>
      match branches with
      | first :: second :: rest => do
        let (s, e) ← first.grow forwards s
        let (s, e') ← second.grow forwards s
        let s ← s.addMany 2
        let s := (e'.leadOn (e.leadOn s)).addWays 2
        (Regex.growBranches forwards rest s).map (·, .plain)
      | [first] => first.grow forwards s
      | [] => (s.add 0).map (·, .plain)

/-- Adds the states of patterns that follow what has been added. -/
def Regex.growParts (forwards : Bool) : List Regex → Grown → Option Grown
  | [], g => some g
  | part :: parts, (s, e) => do
    let (s, e') ← part.grow forwards s
    Regex.growParts forwards parts (e.leadOn s, e')

/-- Adds the states of more branches of a choice. -/
def Regex.growBranches (forwards : Bool) : List Regex → MachineSize → Option MachineSize
  | [], s => some s
  | branch :: branches, s => do
    let (s, e) ← branch.grow forwards s
    Regex.growBranches forwards branches ((e.leadOn s).addWays 1)

end

/-- The start of a machine: a loop over any bytes, unless every match begins at the place where the
machine starts to read. -/
def machineStart (anchored : Bool) : MachineSize := if anchored then ⟨1, 0⟩ else ⟨3, 12⟩

/-- The size of the machine that reads a pattern forwards. The whole match is a group too. -/
def Regex.forwards (r : Regex) : Option MachineSize := do
  let anchored := r.startsAt .textStart
  let (s, e) ← r.grow true (← (machineStart anchored).add 0)
  let s ← (e.leadOn (← s.add 0)).add 0
  some (if anchored then s else s.addWays 1)

/-- The size of the machine that reads a pattern backwards. -/
def Regex.backwards (r : Regex) : Option MachineSize := do
  let anchored := r.mirror.startsAt .textEnd
  let (s, e) ← r.mirror.grow false (machineStart anchored)
  let s ← s.add 0
  some (if anchored then e.leadOn s else (e.leadOn s).addWays 1)

/-- Whether both machines of a pattern stay within the limit. The one that reads backwards is
counted first, as it is the larger one as a rule. -/
def Regex.fits (r : Regex) : Bool :=
  (r.backwards.any fun s => s.bytes ≤ MachineSize.limit) &&
    (r.forwards.any fun s => s.bytes ≤ MachineSize.limit)

end PauseWatch.Pattern
