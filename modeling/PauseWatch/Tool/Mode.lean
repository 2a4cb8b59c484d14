import PauseWatch.Host.Program
import PauseWatch.Text.Reading

/-!
# Permissions

The nine usual permissions of a file, and the modes by which they are changed: digits, or clauses
that say whose permissions are given or taken.
-/

namespace PauseWatch.Tool

open Host (Item)

/-- The permissions that a mode makes of others, as the nine usual bits; nothing if it makes no
sense. -/
def modeBits? (mode : List Char) (old : Nat) : Option Nat :=
  let octal (c : Char) : Bool := '0' ≤ c && c ≤ '7'
  if mode ≠ [] && mode.all octal then
    let bits := Text.digitsValue 8 mode
    if bits < 4096 then some (bits % 512) else none
  else
    let clauses := Text.splitAt ',' (String.ofList mode)
    clauses.foldl (fun bits clause => bits.bind fun bits => clauseBits? clause.toList bits) (some old)
where
  /-- The bits of those that letters name. -/
  whose (letters : List Char) : Nat :=
    let part (c : Char) (bits : Nat) : Nat := if letters.contains c then bits else 0
    if letters = [] || letters.contains 'a' then 0o777
    else part 'u' 0o700 ||| part 'g' 0o070 ||| part 'o' 0o007
  /-- What one clause makes of permissions. -/
  clauseBits? (clause : List Char) (old : Nat) : Option Nat :=
    let letters := clause.takeWhile ['u', 'g', 'o', 'a'].contains
    let mask := if letters = [] then 0o755 else whose letters
    let actions := clause.drop letters.length
    if actions = [] then none else actionBits? mask (actions.length + 1) actions old
  /-- What the actions of a clause make of permissions. -/
  actionBits? (mask : Nat) : Nat → List Char → Nat → Option Nat
    | 0, _, _ => none
    | _, [], old => some old
    | fuel + 1, op :: rest, old =>
      if !(['+', '-', '='].contains op) then none
      else
        let letters := rest.takeWhile ['r', 'w', 'x', 'X', 's', 't', 'u', 'g', 'o'].contains
        let part (c : Char) (bits : Nat) : Nat := if letters.contains c then bits else 0
        let copied (c : Char) (shift : Nat) : Nat :=
          if letters.contains c then (old >>> shift) % 8 * 0o111 else 0
        let searched := if old &&& 0o111 = 0 then 0 else part 'X' 0o111
        let bits := (part 'r' 0o444 ||| part 'w' 0o222 ||| part 'x' 0o111 ||| searched
          ||| copied 'u' 6 ||| copied 'g' 3 ||| copied 'o' 0) &&& mask
        let keep := 0o777 - (if op = '=' then mask else bits)
        let next := if op = '+' then old ||| bits else if op = '-' then old &&& keep
          else old &&& keep ||| bits
        actionBits? mask fuel (rest.drop letters.length) next

/-- The permissions of something. -/
def permissionsOf : Item → Nat
  | .file _ false => 0o644
  | .link _ => 0o777
  | .device _ => 0o666
  | _ => 0o755

/-- Permissions as letters. -/
def permissionText (bits : Nat) : String :=
  String.ofList ((List.range 9).map fun n =>
    if bits.testBit (8 - n) then ['r', 'w', 'x'].getD (n % 3) '-' else '-')

end PauseWatch.Tool
