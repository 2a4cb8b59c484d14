import PauseWatch.Proofs.Shell.Expansion
import PauseWatch.Proofs.Shell.Reading
import PauseWatch.Shell.Evaluation

/-!
# A shell that is handed the line of a launch

The line of a launch is a script of one command, whose words expand to the program and its
arguments. So a shell runs just these words, whatever texts they are and whatever the shell
remembers, unless it takes the program for a reserved word or an assignment.
-/

namespace PauseWatch.Shell

open Launch (quoteWord quoteWords)

variable {word : List Char}

/-- A word with quotes is not reserved. -/
theorem quotedWord_not_mem_reserved (h : String.ofList word ∉ reserved) :
    quotedWord word ∉ reserved := by
  rw [quotedWord, quoteWord]
  split_ifs
  · exact h
  · intro hmem
    have hhead : ∀ other ∈ reserved, other.toList.head? ≠ some '\x27' := by decide
    refine hhead _ hmem ?_
    rw [String.toList_ofList]
    rfl

/-- A word with quotes is no assignment. -/
theorem assignment?_quotedWord (h : Reading.assignment? (String.ofList word) = none) :
    Reading.assignment? (quotedWord word) = none := by
  rw [quotedWord, quoteWord]
  split_ifs
  · exact h
  · rw [Reading.assignment?, String.toList_ofList]
    split
    · rw [if_neg]
      simp [isName]
    · rfl

/-- A script that is one complete command is run by running the command. -/
theorem runFrom_of_takes {self : Evaluate} {isLast : Bool} {ends fuel : Nat} {text : List Char}
    {c : Command} (h : Reading.Takes (Reading.complete? ends) text (some c) []) :
    runFrom self isLast ends (fuel + 2) text = self isLast c := by
  have hnil : (Reading.complete? ends).run.run [] = (.ok none, []) := Reading.takes_complete?_nil
  have hend {isLast : Bool} : runFrom self isLast ends (fuel + 1) [] = pure () := by
    rw [runFrom, hnil]
  rw [runFrom, show (Reading.complete? ends).run.run text = (.ok (some c), []) from h]
  dsimp only
  rw [hend, Reading.blanks, List.all_nil, Bool.and_true]
  exact bind_pure_unit

/-- A script that is the line of a launch is one command with the quoted words. -/
theorem runText_command (self : Evaluate) (isLast : Bool) (spec : LaunchSpec)
    (hreserved : spec.program ∉ reserved) (hassign : Reading.assignment? spec.program = none) :
    runText self isLast spec.command =
      self isLast (.simple [] (spec.argv.map fun word => quotedWord word.toList) [] 1) := by
  have hline : spec.command.toList =
      quoteWords (spec.program.toList :: spec.args.map String.toList) := String.toList_ofList
  have hreserved : quotedWord spec.program.toList ∉ reserved :=
    quotedWord_not_mem_reserved (by rwa [String.ofList_toList])
  have hassign : Reading.assignment? (quotedWord spec.program.toList) = none :=
    assignment?_quotedWord (by rwa [String.ofList_toList])
  have hpos : 0 < spec.command.toList.length := by
    rw [hline, Reading.quoteWords_cons, List.length_append]
    have := List.length_pos_of_ne_nil (Launch.quoteWord_ne_nil spec.program.toList)
    omega
  obtain ⟨fuel, hfuel⟩ := Nat.exists_eq_add_one.mpr hpos
  have htakes : Reading.Takes (Reading.complete? (spec.command.toList.count '\n'))
      spec.command.toList (some (Reading.launchCommand (spec.argv.map String.toList) 1)) [] := by
    have hread := Reading.takes_complete? (spec.args.map String.toList)
      ((quoteWords (spec.program.toList :: spec.args.map String.toList)).count '\n')
      hreserved hassign
    rw [Nat.sub_self] at hread
    rw [hline]
    exact hread
  rw [runText, runLines, Nat.add_sub_cancel, hfuel, runFrom_of_takes htakes,
    Reading.launchCommand, List.map_map]
  rfl

/-- A simple command whose words stand as on the line of a launch runs the words. -/
theorem runSimple_quotedWords (self : Evaluate) (isLast : Bool) {program : String}
    (args : List String) (line : Nat) (hprogram : program ≠ "command") :
    runSimple self isLast [] ((program :: args).map fun word => quotedWord word.toList) [] line =
      (do
        ask (Host.Work.pause commandCost)
        modify fun s => { s with line, substituted := none }
        trace [] (program :: args)
        runFields self isLast [] [] true (program :: args)) := by
  have hwords : expandWords (substitute self)
      ((program :: args).map fun word => quotedWord word.toList) = pure (program :: args) := by
    refine eq_pure_of_brings fun s => ?_
    simpa [List.map_map, Function.comp_def] using
      brings_expandWords (s := s) ((program :: args).map String.toList)
  rw [runSimple, hwords]
  simp only [pure_bind]
  refine bind_congr fun _ => bind_congr fun _ => ?_
  split
  next heq => cases heq
  next heq => exact absurd (List.cons.inj heq).1 hprogram
  next => rfl

/-- A shell that is handed the line of a launch runs the program with its arguments, in any state
and at any depth. The word that only looks up another command is no program. -/
theorem runText_command_runs (depth : Nat) (isLast : Bool) (spec : LaunchSpec)
    (hreserved : spec.program ∉ reserved) (hassign : Reading.assignment? spec.program = none)
    (hprogram : spec.program ≠ "command") :
    runText (evaluate_ (depth + 1)) isLast spec.command =
      (do
        ask (Host.Work.pause commandCost)
        modify fun s => { s with line := 1, substituted := none }
        trace [] spec.argv
        runFields (evaluate_ depth) isLast [] [] true spec.argv
        checkFailure
        runTraps (evaluate_ depth)) := by
  rw [runText_command _ isLast spec hreserved hassign, evaluate_, evaluateWith]
  have hsimple := runSimple_quotedWords (evaluate_ depth) isLast spec.args 1 hprogram
  rw [show spec.argv = spec.program :: spec.args from rfl, hsimple]
  simp only [bind_assoc]

end PauseWatch.Shell
