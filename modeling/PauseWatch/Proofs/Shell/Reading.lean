import PauseWatch.Proofs.Shell.Nesting
import PauseWatch.Shell.Process

/-!
# Reading the line of a launch

A reader takes a guarded word as one word, since it finds no mark of its own outside quotes. So the
line of a launch is one complete command, without assignments and redirections, whose words are the
quoted words of the launch as they stand there. Only a program that is named like a reserved word or
an assignment is taken for something else.
-/

namespace PauseWatch.Shell

open Launch (Guards StartsWithBlank quoteWord quoteWords isPlain)

variable {text rest part word : List Char} {words : List (List Char)} {α β : Type}

namespace Reading

/-- That a reader takes something off a script and leaves the rest. -/
def Takes (r : Reading α) (text : List Char) (a : α) (rest : List Char) : Prop :=
  r.run.run text = (.ok a, rest)

variable {r : Reading α} {f : α → Reading β} {a : α} {b : β} {t other : Token}

theorem takes_pure : Takes (pure a) text a text := rfl

theorem takes_get : Takes get text text text := rfl

theorem takes_set : Takes (set rest) text PUnit.unit rest := rfl

theorem Takes.bind {between : List Char} (h : Takes r text a between)
    (hf : Takes (f a) between b rest) : Takes (r >>= f) text b rest := by
  rw [Takes, ExceptT.run_bind, StateT.run_bind, h]
  exact hf

/-- A guarded word is not left out, and no operator stands in front of it. -/
theorem blanks_guards (h : Guards part word) (hne : part ≠ []) :
    blanks (part ++ rest) = part ++ rest := by
  cases h with
  | nil => exact absurd rfl hne
  | @plain c part word harmless _ =>
    rw [List.cons_append, blanks.eq_2]
    · simp [ne_of_isPlain harmless (show isPlain ' ' = false by decide),
        ne_of_isPlain harmless (show isPlain '\t' = false by decide),
        ne_of_isPlain harmless (show isPlain '#' = false by decide)]
    · exact fun _ hc _ => ne_of_isPlain harmless (show isPlain '\\' = false by decide) hc
  | @escaped c part word inLine _ =>
    rw [List.cons_append, List.cons_append, blanks.eq_2]
    · simp
    · rintro _ - hcd
      exact inLine (List.cons.inj hcd).1
  | @quoted run part word _ _ =>
    rw [List.cons_append, blanks.eq_2]
    · simp
    · exact fun _ hcd _ => absurd hcd (by decide)

theorem find?_operators_guards (h : Guards part word) (hne : part ≠ []) :
    (operators.find? fun o => o.toList.isPrefixOf (part ++ rest)) = none := by
  obtain ⟨c, part, rfl⟩ := List.exists_cons_of_ne_nil hne
  have hc {d : Char} (hd : isPlain d = false) (hbackslash : '\\' ≠ d) (hquote : '\x27' ≠ d) :
      c ≠ d := by
    rcases head_of_guards h with hplain | rfl | rfl
    · exact ne_of_isPlain hplain hd
    · exact hbackslash
    · exact hquote
  have hangle : c ≠ '<' := hc (by decide) (by decide) (by decide)
  have hbracket : c ≠ '>' := hc (by decide) (by decide) (by decide)
  have hand : c ≠ '&' := hc (by decide) (by decide) (by decide)
  have hbar : c ≠ '|' := hc (by decide) (by decide) (by decide)
  have hsemicolon : c ≠ ';' := hc (by decide) (by decide) (by decide)
  have hopen : c ≠ '(' := hc (by decide) (by decide) (by decide)
  have hclose : c ≠ ')' := hc (by decide) (by decide) (by decide)
  simp [operators, List.isPrefixOf, hangle.symm, hbracket.symm, hand.symm, hbar.symm,
    hsemicolon.symm, hopen.symm, hclose.symm]

theorem token_guards (h : Guards part word) (hne : part ≠ []) (hends : StartsWithBlank rest) :
    Takes token (part ++ rest) (.word (String.ofList part)) rest := by
  refine takes_get.bind ?_
  rw [blanks_guards h hne]
  obtain ⟨c, part, rfl⟩ := List.exists_cons_of_ne_nil hne
  have hline : c ≠ '\n' := by
    rcases head_of_guards h with hplain | rfl | rfl
    · exact ne_of_isPlain hplain (by decide)
    · decide
    · decide
  have hword : Nest.word [] [] (c :: part ++ rest) = .ok (c :: part, rest) :=
    Nest.word_guards h hends
  have hoperator : (operators.find? fun o => o.toList.isPrefixOf (c :: part ++ rest)) = none :=
    find?_operators_guards h hne
  rw [List.cons_append] at hword hoperator ⊢
  dsimp only
  split
  next heq => cases heq
  next heq => exact absurd (List.cons.inj heq).1 hline
  next =>
    rw [hoperator, hword]
    exact takes_set.bind takes_pure

theorem run_get {f : List Char → Reading α} :
    (get >>= f).run.run text = (f text).run.run text := rfl

/-- The next token does not depend on what is left out in front of it. -/
theorem Takes.token_congr {other : List Char} (h : Takes token text t rest)
    (hblanks : blanks other = blanks text) : Takes token other t rest := by
  rw [Takes, token, run_get] at *
  rw [hblanks, ← h]
  dsimp only
  split
  · rfl
  · rfl
  · split
    · rfl
    · split <;> rfl

theorem token_nil : Takes token [] .done [] := rfl

/-- A token that is looked at stays where it is. -/
theorem takes_peek (h : Takes token text t rest) : Takes peek text t text :=
  takes_get.bind (h.bind (takes_set.bind takes_pure))

theorem takes_accept_of_ne (h : Takes token text t rest) (hne : t ≠ other) :
    Takes (accept other) text false text := by
  refine (takes_peek h).bind ?_
  rw [if_neg hne]
  exact takes_pure

/-- What follows the first word on the line of a launch. -/
def lineRest (words : List (List Char)) : List Char :=
  words.flatMap fun word => ' ' :: quoteWord word

theorem quoteWords_cons : quoteWords (word :: words) = quoteWord word ++ lineRest words := by
  rw [quoteWords, List.map_cons]
  induction words generalizing word with
  | nil => simp [lineRest]
  | cons next words ih =>
    rw [List.map_cons, List.intercalate_cons_cons, ih]
    simp [lineRest]

theorem startsWithBlank_lineRest : StartsWithBlank (lineRest words) := by
  cases words with
  | nil => exact Text.startsWithGap_nil
  | cons word words => exact Launch.startsWithBlank_cons_iff.mpr rfl

/-- That a reader stands in front of a word on the line of a launch, or of the blank before it. -/
def AtWord (text word : List Char) (words : List (List Char)) : Prop :=
  blanks text = quoteWord word ++ lineRest words

theorem atWord_quoteWords : AtWord (quoteWords (word :: words)) word words := by
  rw [AtWord, quoteWords_cons]
  exact blanks_guards (Launch.guards_quoteWord word) (Launch.quoteWord_ne_nil word)

theorem atWord_lineRest : AtWord (lineRest (word :: words)) word words := by
  have hline : lineRest (word :: words) = ' ' :: (quoteWord word ++ lineRest words) := rfl
  rw [AtWord, hline, blanks.eq_2 _ _ fun _ hcd _ => absurd hcd (by decide), if_pos (.inl rfl)]
  exact blanks_guards (Launch.guards_quoteWord word) (Launch.quoteWord_ne_nil word)

theorem AtWord.token (h : AtWord text word words) :
    Takes token text (.word (quotedWord word)) (lineRest words) := by
  have hguards := Launch.guards_quoteWord word
  have hne := Launch.quoteWord_ne_nil word
  exact (token_guards hguards hne startsWithBlank_lineRest).token_congr
    (h.trans (blanks_guards hguards hne).symm)

/-- No redirection stands in front of a token that is no operator, unless a number does. -/
theorem takes_redirect?_none (h : Takes token text t rest) (ht : ∀ o, t ≠ .operator o)
    (hnumber : (((blanks text).takeWhile Char.isDigit).length == 1 &&
      ((blanks text).drop 1).head?.any fun c => c == '<' || c == '>') = false) :
    Takes redirect? text none text := by
  refine takes_get.bind ?_
  simp only [hnumber, Bool.false_eq_true, if_false]
  refine h.bind ?_
  split
  all_goals first
    | exact absurd rfl (ht _)
    | exact takes_set.bind takes_pure

/-- A guarded word is not taken for the number of a redirection. -/
theorem numbered_guards (h : Guards part word) (hne : part ≠ []) (hends : StartsWithBlank rest) :
    (((part ++ rest).takeWhile Char.isDigit).length == 1 &&
      ((part ++ rest).drop 1).head?.any fun c => c == '<' || c == '>') = false := by
  cases h with
  | nil => exact absurd rfl hne
  | @plain c part word _ h =>
    rw [Bool.and_eq_false_iff, List.cons_append, List.drop_one, List.tail_cons]
    refine .inr ?_
    cases part with
    | nil =>
      cases rest with
      | nil => rfl
      | cons d rest =>
        obtain rfl := Launch.startsWithBlank_cons_iff.mp hends
        rfl
    | cons d part =>
      rcases head_of_guards h with hplain | rfl | rfl
      · simp [ne_of_isPlain hplain (show isPlain '<' = false by decide),
          ne_of_isPlain hplain (show isPlain '>' = false by decide)]
      · rfl
      · rfl
  | escaped => simp
  | quoted => simp

theorem AtWord.redirect?_none (h : AtWord text word words) : Takes redirect? text none text := by
  refine takes_redirect?_none h.token (fun _ => Token.noConfusion) ?_
  rw [h]
  exact numbered_guards (Launch.guards_quoteWord word) (Launch.quoteWord_ne_nil word)
    startsWithBlank_lineRest

/-- The next word of a launch is one more word, unless it is an assignment in front of all words. -/
theorem AtWord.parts {p whole : Parts} {fuel : Nat} (h : AtWord text word words)
    (hassign : p.words ≠ [] ∨ assignment? (quotedWord word) = none)
    (hparts : Takes (parts fuel { p with words := p.words ++ [quotedWord word] })
      (lineRest words) whole rest) :
    Takes (parts (fuel + 1) p) text whole rest := by
  refine h.redirect?_none.bind ((takes_peek h.token).bind (h.token.bind ?_))
  have hnone : (if p.words = [] then assignment? (quotedWord word) else none) = none := by
    split_ifs with hp
    · exact hassign.resolve_left (absurd hp)
    · rfl
  rw [hnone]
  exact hparts

theorem takes_parts_nil {p : Parts} {fuel : Nat} : Takes (parts (fuel + 1) p) [] p [] :=
  (takes_redirect?_none token_nil (fun _ => Token.noConfusion) rfl).bind
    ((takes_peek token_nil).bind takes_pure)

/-- Behind the first word all words are taken as they stand. -/
theorem takes_parts_lineRest {p : Parts} (hp : p.words ≠ []) {fuel : Nat}
    (hfuel : words.length < fuel) :
    Takes (parts fuel p) (lineRest words)
      { p with words := p.words ++ words.map quotedWord } [] := by
  induction words generalizing p fuel with
  | nil =>
    obtain ⟨fuel, rfl⟩ := Nat.exists_eq_add_one.mpr hfuel
    rw [List.map_nil, List.append_nil]
    exact takes_parts_nil
  | cons word words ih =>
    obtain ⟨fuel, rfl⟩ := Nat.exists_eq_add_one.mpr (Nat.zero_lt_of_lt hfuel)
    have hmore := ih (p := { p with words := p.words ++ [quotedWord word] }) (by simp)
      (Nat.lt_of_succ_lt_succ hfuel)
    refine atWord_lineRest.parts (.inl hp) ?_
    simpa only [List.append_assoc, List.singleton_append, List.map_cons] using hmore

theorem length_le_lineRest : words.length ≤ (lineRest words).length := by
  induction words with
  | nil => exact Nat.le_refl 0
  | cons word words ih =>
    rw [lineRest, List.flatMap_cons, ← lineRest, List.length_append, List.length_cons,
      List.length_cons]
    omega

/-- The simple command that the line of a launch is. -/
def launchCommand (words : List (List Char)) (line : Nat) : Command :=
  .simple [] (words.map quotedWord) [] line

theorem takes_simple {ends : Nat} (hassign : assignment? (quotedWord word) = none) :
    Takes (simple ends) (quoteWords (word :: words))
      (launchCommand (word :: words) (ends - (quoteWords (word :: words)).count '\n' + 1)) [] := by
  have hparts : Takes (parts ((quoteWords (word :: words)).length + 1) {})
      (quoteWords (word :: words)) { words := (word :: words).map quotedWord } [] := by
    refine atWord_quoteWords.parts (.inr hassign) ?_
    refine takes_parts_lineRest (by simp) ?_
    rw [quoteWords_cons, List.length_append]
    have hword := List.length_pos_of_ne_nil (Launch.quoteWord_ne_nil word)
    have hlength : words.length ≤ (lineRest words).length := length_le_lineRest
    omega
  exact (takes_get.bind takes_pure).bind (takes_get.bind (hparts.bind takes_pure))

theorem AtWord.compound?_none {list : Reading Command} (h : AtWord text word words)
    (hreserved : quotedWord word ∉ reserved) : Takes (compound? list) text none text := by
  have hne {other : Word} (hother : other ∈ reserved) :
      Takes (accept (.word other)) text false text :=
    takes_accept_of_ne h.token fun heq => hreserved (Token.word.inj heq ▸ hother)
  refine (takes_accept_of_ne h.token Token.noConfusion).bind ?_
  refine (hne (by decide)).bind ?_
  refine (hne (by decide)).bind ?_
  refine (hne (by decide)).bind ?_
  refine (hne (by decide)).bind ?_
  refine (hne (by decide)).bind ?_
  refine (hne (by decide)).bind ?_
  exact takes_pure

/-- No parenthesis follows a word of a launch, so none of its words names a function. -/
theorem AtWord.functionName?_none (h : AtWord text word words) :
    Takes functionName? text none text := by
  have hparen : Takes (accept (.operator "(")) (lineRest words) false (lineRest words) := by
    cases words with
    | nil => exact takes_accept_of_ne token_nil Token.noConfusion
    | cons next words => exact takes_accept_of_ne atWord_lineRest.token Token.noConfusion
  refine takes_get.bind ((takes_peek h.token).bind (h.token.bind (hparen.bind ?_)))
  simp only [Bool.and_false, Bool.false_eq_true, if_false]
  exact takes_set.bind takes_pure

theorem takes_accept_operator_nil {o : String} : Takes (accept (.operator o)) [] false [] :=
  takes_accept_of_ne token_nil Token.noConfusion

variable {ends : Nat}

theorem takes_command {list : Reading Command} (hreserved : quotedWord word ∉ reserved)
    (hassign : assignment? (quotedWord word) = none) :
    Takes (command list ends) (quoteWords (word :: words))
      (launchCommand (word :: words) (ends - (quoteWords (word :: words)).count '\n' + 1)) [] := by
  have hword : AtWord (quoteWords (word :: words)) word words := atWord_quoteWords
  refine (takes_get.bind takes_pure).bind ((hword.compound?_none hreserved).bind ?_)
  refine (takes_peek hword.token).bind ?_
  dsimp only
  rw [if_neg (by simpa using hreserved)]
  exact hword.functionName?_none.bind (takes_simple hassign)

/-- A stage that takes everything that is left is a pipeline, and the only condition. -/
theorem Takes.conditions_pipeline {stage : Reading Command} {c : Command}
    (h : Takes stage text c []) (ht : Takes token text t rest) (hnot : t ≠ .word "!") :
    Takes (conditions (pipeline stage)) text c [] := by
  have hrest {fuel : Nat} : Takes (pipelineRest stage c (fuel + 1)) [] c [] :=
    takes_accept_operator_nil.bind takes_pure
  have hpipeline : Takes (pipeline stage) text c [] :=
    (takes_accept_of_ne ht hnot).bind (h.bind (takes_get.bind (hrest.bind takes_pure)))
  refine takes_get.bind (hpipeline.bind ?_)
  exact takes_accept_operator_nil.bind (takes_accept_operator_nil.bind takes_pure)

theorem takes_listRest_nil {item : Reading Command} {fuel : Nat} {c : Command} :
    Takes (listRest item true (fuel + 1) c) [] c [] :=
  takes_accept_operator_nil.bind (takes_accept_operator_nil.bind takes_pure)

theorem takes_allNewlines_of_ne (h : Takes token text t rest) (hne : t ≠ .newline) :
    Takes allNewlines text () text :=
  takes_get.bind ((takes_accept_of_ne h hne).bind takes_pure)

/-- The line of a launch is one complete command. -/
theorem takes_complete? (words : List (List Char)) (ends : Nat)
    (hreserved : quotedWord word ∉ reserved) (hassign : assignment? (quotedWord word) = none) :
    Takes (complete? ends) (quoteWords (word :: words))
      (some (launchCommand (word :: words)
        (ends - (quoteWords (word :: words)).count '\n' + 1))) [] := by
  have hword : AtWord (quoteWords (word :: words)) word words := atWord_quoteWords
  have hnot : Token.word (quotedWord word) ≠ .word "!" := fun heq =>
    hreserved (Token.word.inj heq ▸ by decide)
  refine (takes_allNewlines_of_ne hword.token Token.noConfusion).bind ?_
  refine (takes_peek hword.token).bind ?_
  rw [if_neg Token.noConfusion]
  refine takes_get.bind (((takes_command hreserved hassign).conditions_pipeline
    hword.token hnot).bind (takes_listRest_nil.bind ?_))
  refine (takes_accept_of_ne token_nil Token.noConfusion).bind ((takes_peek token_nil).bind ?_)
  exact takes_pure

theorem takes_complete?_nil : Takes (complete? ends) [] none [] :=
  (takes_allNewlines_of_ne token_nil Token.noConfusion).bind
    ((takes_peek token_nil).bind takes_pure)

end Reading

end PauseWatch.Shell
