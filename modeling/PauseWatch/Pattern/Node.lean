import PauseWatch.Pattern.Age
import PauseWatch.Pattern.Boundary
import PauseWatch.Pattern.Folding
import PauseWatch.Pattern.Property
import PauseWatch.Pattern.Script
import PauseWatch.Pattern.Simplify

/-!
# Patterns as written

The written form of a pattern keeps groups, switches and bracketed sets apart from what they mean.
Switches act from where they stand to the end of the group around them, so the meaning of a part
depends on the switches before it.
-/

namespace PauseWatch.Pattern

/-- A character as written; it is raw when it is written by two hexadecimal digits. -/
structure Literal where
  /-- The character. -/
  char : Char
  /-- Whether the character is written by two hexadecimal digits. -/
  raw : Bool := false
  deriving DecidableEq, Repr

/-- The classes of characters with a letter of their own. -/
inductive ShortClass where
  /-- Decimal digits. -/
  | digit
  /-- Blank characters. -/
  | blank
  /-- Characters of words. -/
  | word
  deriving DecidableEq, Repr

/-- The name of a property as written. -/
inductive PropertyName where
  /-- A name that stands alone. -/
  | alone (name : String)
  /-- The value of a named property, or any other value. -/
  | valued (property value : String) (unequal : Bool)
  deriving DecidableEq, Repr

/-- The operators between bracketed sets. -/
inductive SetOp where
  /-- Members of both. -/
  | inter
  /-- Members of the first only. -/
  | diff
  /-- Members of exactly one. -/
  | symmDiff
  deriving DecidableEq, Repr

/-- A set of characters as written between brackets. -/
inductive SetNode where
  /-- One character. -/
  | literal (l : Literal)
  /-- The characters from one to another. -/
  | range (first last : Literal)
  /-- An ASCII class between colons. -/
  | ascii (set : Text.CharSet) (negated : Bool)
  /-- A class with a letter of its own. -/
  | short (c : ShortClass) (negated : Bool)
  /-- The characters with a property. -/
  | property (name : PropertyName) (negated : Bool)
  /-- A set between brackets of its own. -/
  | bracket (negated : Bool) (inner : SetNode)
  /-- All sets of a list together. -/
  | union (items : List SetNode)
  /-- Two sets joined by an operator. -/
  | binary (op : SetOp) (left right : SetNode)
  deriving Repr, Inhabited

/-- A switch of a pattern, or the sign that turns off the switches after it. -/
inductive Switch where
  /-- Case does not matter. -/
  | ignoreCase
  /-- Line starts and ends count as text starts and ends. -/
  | multiLine
  /-- The point matches line ends too. -/
  | dotAll
  /-- Greedy and lazy repetitions change places. -/
  | swapGreed
  /-- Classes follow Unicode. -/
  | unicode
  /-- A carriage return before a line feed belongs to the line end. -/
  | crlf
  /-- Blanks and comments in the pattern are passed over. -/
  | spaced
  /-- The switches after it are turned off. -/
  | negation
  deriving DecidableEq, Repr

/-- A pattern as written. -/
inductive Node where
  /-- Nothing. -/
  | empty
  /-- Switches for the rest of the group. -/
  | switches (items : List Switch)
  /-- One character. -/
  | literal (l : Literal)
  /-- The point. -/
  | dot
  /-- The start of the text, or of a line. -/
  | caret
  /-- The end of the text, or of a line. -/
  | dollar
  /-- Any other condition on a place. -/
  | anchor (at_ : Anchor)
  /-- A class with a letter of its own. -/
  | short (c : ShortClass) (negated : Bool)
  /-- The characters with a property. -/
  | property (name : PropertyName) (negated : Bool)
  /-- A set between brackets. -/
  | bracket (negated : Bool) (inner : SetNode)
  /-- A pattern several times, which is lazy when a question mark follows. -/
  | times (inner : Node) (least : Nat) (most : Option Nat) (lazy : Bool)
  /-- A group with its number, if it has one, and with switches of its own. -/
  | group (number : Option Nat) (items : List Switch) (inner : Node)
  /-- One pattern after another. -/
  | concat (parts : List Node)
  /-- One of several patterns. -/
  | alternation (branches : List Node)
  deriving Repr, Inhabited

/-- Several sets as one, where one set stands for itself. -/
def SetNode.ofItems : List SetNode → SetNode
  | [item] => item
  | items => .union items

/-- Several patterns in a row as one, where one pattern stands for itself. -/
def Node.ofParts : List Node → Node
  | [] => .empty
  | [part] => part
  | parts => .concat parts

/-- Several branches as one pattern, where one branch stands for itself. -/
def Node.ofBranches : List Node → Node
  | [branch] => branch
  | branches => .alternation branches

mutual

/-- How deep brackets, operators and lists nest in a set. -/
def SetNode.depth : SetNode → Nat
  | .bracket _ inner => inner.depth + 1
  | .union [] => 0
  | .union items => SetNode.depthOf items + 1
  | .binary _ left right => max left.depth right.depth + 1
  | _ => 0

/-- The greatest depth in a list of sets. -/
def SetNode.depthOf : List SetNode → Nat
  | [] => 0
  | item :: items => max item.depth (SetNode.depthOf items)

end

mutual

/-- How deep a pattern nests. -/
def Node.depth : Node → Nat
  | .bracket _ inner => inner.depth + 1
  | .times inner _ _ _ => inner.depth + 1
  | .group _ _ inner => inner.depth + 1
  | .concat parts => Node.depthOf parts + 1
  | .alternation branches => Node.depthOf branches + 1
  | _ => 0

/-- The greatest depth in a list of patterns. -/
def Node.depthOf : List Node → Nat
  | [] => 0
  | part :: parts => max part.depth (Node.depthOf parts)

end

/-- The switches in force at some point of a pattern. -/
structure Switches where
  /-- Case does not matter. -/
  ignoreCase : Bool := false
  /-- Line starts and ends count as text starts and ends. -/
  multiLine : Bool := false
  /-- The point matches line ends too. -/
  dotAll : Bool := false
  /-- Greedy and lazy repetitions change places. -/
  swapGreed : Bool := false
  /-- Classes follow Unicode. -/
  unicode : Bool := true
  /-- A carriage return before a line feed belongs to the line end. -/
  crlf : Bool := false
  deriving DecidableEq, Repr

/-- Turns one switch on or off. A switch that only matters for reading changes nothing. -/
def Switches.set (s : Switches) (on : Bool) : Switch → Switches
  | .ignoreCase => { s with ignoreCase := on }
  | .multiLine => { s with multiLine := on }
  | .dotAll => { s with dotAll := on }
  | .unicode => { s with unicode := on }
  | .crlf => { s with crlf := on }
  | .swapGreed => { s with swapGreed := on }
  | .spaced => s
  | .negation => s

/-- Turns switches on, and off after a negation. -/
def Switches.setAll (s : Switches) (on : Bool) : List Switch → Switches
  | [] => s
  | .negation :: rest => s.setAll false rest
  | item :: rest => (s.set on item).setAll on rest

/-- The digits of ASCII. -/
def asciiDigits : Text.CharSet := .range '0' '9'

/-- The blank characters of ASCII. -/
def asciiBlanks : Text.CharSet := .ofRanges [(0x09, 0x0E), (0x20, 0x21)]

/-- The characters of words in ASCII. -/
def asciiWordChars : Text.CharSet :=
  .ofRanges [(0x30, 0x3A), (0x41, 0x5B), (0x5F, 0x60), (0x61, 0x7B)]

/-- The characters of a class with a letter of its own. -/
def ShortClass.chars (unicode : Bool) : ShortClass → Text.CharSet
  | .digit => if unicode then digits else asciiDigits
  | .blank => if unicode then blanks else asciiBlanks
  | .word => if unicode then wordChars else asciiWordChars

/-- A name in lower case, without blanks, dashes, underscores, a leading is, and characters outside
ASCII. -/
def plainName (name : String) : String :=
  let dropped := match name.toList with
    | a :: b :: rest =>
      if (a == 'i' || a == 'I') && (b == 's' || b == 'S') then (true, rest)
      else (false, name.toList)
    | chars => (false, chars)
  let kept := (dropped.2.filter fun c => c.toNat < 0x80 && c ∉ [' ', '-', '_']).map Char.toLower
  if dropped.1 && kept == ['c'] then "isc" else String.ofList kept

/-- The characters with a named property. The names of a few general categories come before the
properties of the same name. -/
def PropertyName.chars? : PropertyName → Option Text.CharSet
  | .alone name =>
    let plain := plainName name
    let asProperty := if plain ∈ ["cf", "sc", "lc"] then none else property? plain
    (asProperty.orElse fun _ => category? plain).orElse fun _ => script? plain
  | .valued property value _ =>
    let property := plainName property
    let value := plainName value
    if property ∈ ["gc", "generalcategory"] then category? value
    else if property ∈ ["sc", "script"] then script? value
    else if property ∈ ["scx", "scriptextensions"] then scriptExtension? value
    else if property == "age" then age? value
    else if property ∈ ["gcb", "graphemeclusterbreak"] then NamedSet.find? graphemeBreaks value
    else if property ∈ ["wb", "wordbreak"] then NamedSet.find? wordBreaks value
    else if property ∈ ["sb", "sentencebreak"] then NamedSet.find? sentenceBreaks value
    else none

/-- Whether the name stands for the characters without the property. -/
def PropertyName.unequal : PropertyName → Bool
  | .alone _ => false
  | .valued _ _ unequal => unequal

/-- A set after folding and complementing it as asked. Without Unicode the complement would hold
parts of characters, so there is none. -/
def adjust? (s : Switches) (negated : Bool) (set : Text.CharSet) : Option Text.CharSet :=
  if s.unicode then
    let folded := if s.ignoreCase then foldCase set else set
    some (if negated then folded.compl else folded)
  else if negated then none
  else some (if s.ignoreCase then foldAsciiCase set else set)

/-- The character that a literal stands for in a pattern. Without Unicode a raw literal is a byte,
and bytes outside ASCII are no characters. -/
def Literal.char? (s : Switches) (l : Literal) : Option Char :=
  if s.unicode || !l.raw || l.char.toNat < 0x80 then some l.char else none

/-- The character that a literal stands for in a set. Without Unicode it has to be of ASCII. -/
def Literal.member? (s : Switches) (l : Literal) : Option Char :=
  if s.unicode || l.char.toNat < 0x80 then some l.char else none

/-- The characters of a class with a letter of its own, or the others. -/
def shortClass? (s : Switches) (c : ShortClass) (negated : Bool) : Option Text.CharSet :=
  if s.unicode then some (if negated then (c.chars true).compl else c.chars true)
  else if negated then none else some (c.chars false)

/-- The characters with a property, or those without it. -/
def propertyClass? (s : Switches) (name : PropertyName) (negated : Bool) : Option Text.CharSet :=
  if s.unicode then name.chars?.bind (adjust? s (negated != name.unequal)) else none

/-- Folds a set that an operator takes. -/
def foldOperand (s : Switches) (set : Text.CharSet) : Text.CharSet :=
  if !s.ignoreCase then set else if s.unicode then foldCase set else foldAsciiCase set

mutual

/-- The characters of a set as written, under the switches in force. -/
def SetNode.chars? (s : Switches) : SetNode → Option Text.CharSet
  | .literal l => (l.member? s).map .singleton
  | .range first last => do some (.range (← first.member? s) (← last.member? s))
  | .ascii set negated => adjust? s negated set
  | .short c negated => shortClass? s c negated
  | .property name negated => propertyClass? s name negated
  | .bracket negated inner => (inner.chars? s).bind (adjust? s negated)
  | .union items => (SetNode.charsOf? s items).map .unionAll
  | .binary op left right => do
    let l := foldOperand s (← left.chars? s)
    let r := foldOperand s (← right.chars? s)
    some (match op with
      | .inter => l.inter r
      | .diff => l.diff r
      | .symmDiff => l.symmDiff r)

/-- The characters of each set of a list. -/
def SetNode.charsOf? (s : Switches) : List SetNode → Option (List Text.CharSet)
  | [] => some []
  | item :: items => do some ((← item.chars? s) :: (← SetNode.charsOf? s items))

end

/-- One character that is not a line end. -/
def anyButLineEnd (crlf : Bool) : Text.CharSet :=
  (Text.CharSet.ofChars (if crlf then ['\r', '\n'] else ['\n'])).compl

/-- The characters of words that a condition depends on, under the switches in force. -/
def Anchor.wordSet (s : Switches) : Anchor → Text.CharSet
  | .textStart => .empty
  | .textEnd => .empty
  | _ => ShortClass.word.chars s.unicode

/-- One character of a set, under the switches in force. -/
def ofSet (s : Switches) (set : Text.CharSet) : Regex := .ofSet (!s.unicode) set

mutual

/-- The meaning of a pattern as written under the switches in force, and the switches in force
after it. -/
def Node.meaning? (s : Switches) : Node → Option (Regex × Switches)
  | .empty => some (.empty, s)
  | .switches items => some (.empty, s.setAll true items)
  | .literal l => do
    let c ← l.char? s
    let set := Text.CharSet.singleton c
    some (ofSet s (if s.ignoreCase then
      (if s.unicode then foldCase set else foldAsciiCase set) else set), s)
  | .dot =>
    if s.unicode then some (ofSet s (if s.dotAll then .all else anyButLineEnd s.crlf), s)
    else none
  | .caret =>
    let at_ := if !s.multiLine then .textStart else if s.crlf then .crlfLineStart else .lineStart
    some (.anchor at_ .empty, s)
  | .dollar =>
    let at_ := if !s.multiLine then .textEnd else if s.crlf then .crlfLineEnd else .lineEnd
    some (.anchor at_ .empty, s)
  | .anchor at_ => some (.anchor at_ (at_.wordSet s), s)
  | .short c negated => (shortClass? s c negated).map fun set => (ofSet s set, s)
  | .property name negated => (propertyClass? s name negated).map fun set => (ofSet s set, s)
  | .bracket negated inner =>
    ((inner.chars? s).bind (adjust? s negated)).map fun set => (ofSet s set, s)
  | .times inner least most lazy =>
    (inner.meaning? s).map fun (r, after) => (r.repeated least most (lazy != s.swapGreed), after)
  | .group number items inner =>
    (inner.meaning? (s.setAll true items)).map fun (r, _) =>
      (number.elim r fun n => .group n r, s)
  | .concat parts =>
    (Node.meaningsOf? s parts).map fun (rs, after) => (.ofParts rs, after)
  | .alternation branches =>
    (Node.meaningsOf? s branches).map fun (rs, after) => (.ofBranches rs, after)

/-- The meanings of patterns, each under the switches that the ones before leave in force. -/
def Node.meaningsOf? (s : Switches) : List Node → Option (List Regex × Switches)
  | [] => some ([], s)
  | part :: parts => do
    let (r, middle) ← part.meaning? s
    let (rs, after) ← Node.meaningsOf? middle parts
    some (r :: rs, after)

end

end PauseWatch.Pattern
