import LoopProgress.Proofs.Sentences

namespace LoopProgress

/-- These options come behind earlier blocks. -/
def Options.behind (blocks : List Kind) (options : Options) : Options :=
  { options with blocks := blocks ++ options.blocks }

theorem Options.behind_blocks_of_quiet {options : Options} (quiet : options.verbose = false) :
    Options.behind options.blocks {} = options := by
  rw [behind, List.append_nil, ← quiet]

namespace CommandLine

namespace State

/-- This state has read earlier blocks in front of all it has read itself. -/
def behind (blocks : List Kind) (state : State) : State :=
  { state with options := state.options.behind blocks }

variable {blocks : List Kind}

theorem addBlocks_behind (state : State) (value : Argument) :
    (state.behind blocks).addBlocks value = (state.addBlocks value).map (behind blocks) := by
  rw [addBlocks, addBlocks]
  cases kindsOf value with
  | error stop => rfl
  | ok kinds =>
      change Except.ok _ = Except.ok _
      simp only [behind, Options.behind, List.append_assoc]

theorem settle_behind (state : State) :
    (state.behind blocks).settle = state.settle.map (behind blocks) := by
  have pending : (state.behind blocks).pending = state.pending := rfl
  rw [settle, settle, pending]
  cases state.pending with
  | nothing => rfl
  | awaiting => rfl
  | held value => exact state.addBlocks_behind value

/-- A state follows another one behind earlier blocks if it has the blocks in front, or if it will
have them as soon as its open value is settled. -/
def Follows (blocks : List Kind) (state fresh : State) : Prop :=
  state = fresh.behind blocks ∨ state.settle = .ok (fresh.behind blocks)

namespace Follows

variable {state fresh : State}

/-- A fresh state has no open value if the other one has yet to settle its own. -/
theorem pending_of_settle (settles : state.settle = .ok (fresh.behind blocks)) :
    fresh.pending = .nothing := by
  have nothing : (fresh.behind blocks).pending = .nothing := State.pending_of_settle settles
  exact nothing

theorem separated (follows : Follows blocks state fresh) : state.separated = fresh.separated := by
  rcases follows with rfl | settles
  · rfl
  · exact (separated_of_settle settles).symm

/-- Once settled, both states differ in the earlier blocks alone. -/
theorem settle (follows : Follows blocks state fresh) :
    state.settle = fresh.settle.map (behind blocks) := by
  rcases follows with rfl | settles
  · exact fresh.settle_behind
  · rw [settles, settle_of_nothing (pending_of_settle settles)]
    rfl

/-- Whatever is done to a settled state without a look at its blocks is done to both alike. -/
theorem settle_bind {next : State → Except Stop State} (follows : Follows blocks state fresh)
    (natural : ∀ settled : State,
      next (settled.behind blocks) = (next settled).map (behind blocks)) :
    (state.settle >>= next) = (fresh.settle >>= next).map (behind blocks) := by
  rw [follows.settle]
  cases fresh.settle with
  | error stop => rfl
  | ok settled => exact natural settled

theorem turnVerbose (follows : Follows blocks state fresh) :
    state.turnVerbose = fresh.turnVerbose.map (behind blocks) := by
  apply follows.settle_bind
  intro settled
  have verbose : (settled.behind blocks).options.verbose = settled.options.verbose := rfl
  rw [verbose]
  cases settled.options.verbose <;> rfl

theorem askHelp (follows : Follows blocks state fresh) (detail : HelpDetail) :
    state.askHelp detail = (fresh.askHelp detail).map (behind blocks) := by
  apply follows.settle_bind
  intro settled
  rfl

theorem openBlock (follows : Follows blocks state fresh) (value : Option Argument) :
    state.openBlock value = (fresh.openBlock value).map (behind blocks) := by
  apply follows.settle_bind
  intro settled
  cases value with
  | none => rfl
  | some value => exact settled.addBlocks_behind value

theorem takeLong (follows : Follows blocks state fresh) (name : Argument)
    (value : Option Argument) :
    state.takeLong name value = (fresh.takeLong name value).map (behind blocks) := by
  unfold State.takeLong
  split
  · exact follows.openBlock value
  · split
    · cases value with
      | none => exact follows.turnVerbose
      | some value => rfl
    · split
      · cases value with
        | none => exact follows.askHelp .full
        | some value => rfl
      · rfl

/-- The flags of a cluster count alike behind the first of them, which settles the open value. -/
theorem takeShort (follows : Follows blocks state fresh) {flags : Argument}
    (present : flags ≠ []) :
    state.takeShort flags = (fresh.takeShort flags).map (behind blocks) := by
  induction flags generalizing state fresh with
  | nil => exact absurd rfl present
  | cons byte rest inductionHypothesis =>
      rw [State.takeShort, State.takeShort]
      split
      · rw [follows.turnVerbose]
        cases fresh.turnVerbose with
        | error stop => rfl
        | ok loud =>
            change (loud.behind blocks).takeShort rest = (loud.takeShort rest).map (behind blocks)
            cases rest with
            | nil => rfl
            | cons other flags => exact inductionHypothesis (.inl rfl) (List.cons_ne_nil other flags)
      · split
        · exact follows.askHelp .summary
        · rfl

theorem takePlain (follows : Follows blocks state fresh) (value : Argument) :
    state.takePlain value = (fresh.takePlain value).map (behind blocks) := by
  rcases follows with rfl | settles
  · have pending : (fresh.behind blocks).pending = fresh.pending := rfl
    rw [State.takePlain, State.takePlain, pending]
    cases fresh.pending <;> rfl
  · -- Neither state waits for a value.
    have filled : state.pending ≠ .awaiting := by
      intro awaiting
      rw [State.settle, awaiting] at settles
      cases settles
    rw [State.takePlain, State.takePlain, pending_of_settle settles]
    cases pending : state.pending with
    | nothing => rfl
    | awaiting => exact absurd pending filled
    | held value => rfl

/-- An argument does the same to both states, except that the separator settles nothing. -/
theorem take (follows : Follows blocks state fresh) (argument : Argument) :
    state.take argument = (fresh.take argument).map (behind blocks) ∨
      state.take argument = .ok { state with separated := true } ∧
        fresh.take argument = .ok { fresh with separated := true } := by
  rw [State.take, State.take, follows.separated]
  split
  · exact .inl rfl
  · cases token : Token.ofArgument argument with
    | separator => exact .inr ⟨rfl, rfl⟩
    | long name value => exact .inl (follows.takeLong name value)
    | short flags =>
        have present : flags ≠ [] := by
          rintro rfl
          exact Token.ofArgument_ne_short_nil argument token
        exact .inl (follows.takeShort present)
    | plain value => exact .inl (follows.takePlain value)

theorem separate (follows : Follows blocks state fresh) :
    Follows blocks { state with separated := true } { fresh with separated := true } := by
  rcases follows with rfl | settles
  · exact .inl rfl
  · exact .inr (settle_separated settles)

/-- Whatever arguments come next, both states end alike. -/
theorem takeAll_settle (follows : Follows blocks state fresh) (arguments : List Argument) :
    (state.takeAll arguments >>= State.settle) =
      (fresh.takeAll arguments >>= State.settle).map (behind blocks) := by
  induction arguments generalizing state fresh with
  | nil => exact follows.settle
  | cons argument rest inductionHypothesis =>
      rw [takeAll, takeAll, List.foldlM_cons, List.foldlM_cons]
      -- After any argument but the separator both states hold the same open value.
      rcases follows.take argument with same | ⟨taken, takenToo⟩
      · rw [same]
        cases fresh.take argument with
        | error stop => rfl
        | ok next => exact inductionHypothesis (.inl rfl)
      · rw [taken, takenToo]
        exact inductionHypothesis follows.separate

end Follows

end State

theorem parse_eq_takeAll_settle (arguments : List Argument) :
    parse arguments = (State.takeAll {} arguments >>= State.settle).map State.options := by
  change parse arguments = State.options <$> (State.takeAll {} arguments >>= State.settle)
  simp only [parse, map_eq_pure_bind, bind_assoc]

/-- Arguments without the separator that give options spell items alone. -/
theorem exists_items_of_parse {arguments : List Argument} {options : Options}
    (undivided : Utf8.encode "--" ∉ arguments) (parsed : parse arguments = .ok options) :
    ∃ items, (Sentence.mk items false).WellFormed ∧ items.flatMap Item.arguments = arguments ∧
      (Sentence.mk items false).options = options := by
  obtain ⟨⟨items, separated⟩, wellFormed, rfl, rfl⟩ := exists_sentence_of_parse parsed
  cases separated with
  | false => exact ⟨items, wellFormed, by simp [Sentence.arguments], rfl⟩
  | true => simp [Sentence.arguments] at undivided

theorem parse_append_of_quiet {earlier : Options} {first : List Argument}
    (undivided : Utf8.encode "--" ∉ first) (parsed : parse first = .ok earlier)
    (quiet : earlier.verbose = false) (second : List Argument) :
    parse (first ++ second) = (parse second).map (Options.behind earlier.blocks) := by
  obtain ⟨items, wellFormed, rfl, rfl⟩ := exists_items_of_parse undivided parsed
  obtain ⟨last, taken, -, settles⟩ := State.takeAll_items wellFormed
  have follows : State.Follows (Sentence.mk items false).options.blocks last {} := by
    apply Or.inr
    rw [settles, State.behind, Options.behind_blocks_of_quiet quiet]
  rw [parse_eq_takeAll_settle, parse_eq_takeAll_settle, State.takeAll_append, taken]
  change (last.takeAll second >>= State.settle).map State.options = _
  rw [follows.takeAll_settle]
  cases State.takeAll {} second >>= State.settle <;> rfl

theorem parse_append_of_verbose {earlier later : Options} {first second : List Argument}
    (undivided : Utf8.encode "--" ∉ first) (parsed : parse first = .ok earlier)
    (loud : earlier.verbose = true) (parsedToo : parse second = .ok later) :
    parse (first ++ second) =
      if later.verbose then .error .repeatedVerbose
      else .ok { blocks := earlier.blocks ++ later.blocks, verbose := true } := by
  obtain ⟨items, wellFormed, rfl, rfl⟩ := exists_items_of_parse undivided parsed
  obtain ⟨⟨others, separated⟩, wellFormedToo, rfl, rfl⟩ := exists_sentence_of_parse parsedToo
  have whole : items.flatMap Item.arguments ++ (Sentence.mk others separated).arguments =
      (Sentence.mk (items ++ others) separated).arguments := by
    simp [Sentence.arguments]
  have one := (Sentence.verbose_options_iff items false).mp loud
  have total : (items ++ others).countP Item.isVerbose = _ := List.countP_append
  have both := Sentence.options_append items others separated
  rw [whole]
  cases quiet : (Sentence.mk others separated).options.verbose with
  | true =>
      have another := (Sentence.verbose_options_iff others separated).mp quiet
      apply parse_of_not_wellFormed
      rw [Sentence.WellFormed, total]
      omega
  | false =>
      have none := mt (Sentence.verbose_options_iff others separated).mpr (Bool.eq_false_iff.mp quiet)
      have fits : (Sentence.mk (items ++ others) separated).WellFormed := by
        change items.countP Item.isVerbose ≤ 1 at wellFormed
        rw [Sentence.WellFormed, total]
        omega
      rw [parse_sentence fits, both, loud]
      rfl

/-- Arguments without the separator that give options leave nothing behind but these options,
whatever comes next and however they were spelled. What stops the later arguments stops the whole
in the same way. Only the verbose flag cannot be given on both sides. -/
theorem parse_append {earlier : Options} {first : List Argument}
    (undivided : Utf8.encode "--" ∉ first) (parsed : parse first = .ok earlier)
    (second : List Argument) :
    (earlier.verbose = false →
      parse (first ++ second) = (parse second).map fun later =>
        { later with blocks := earlier.blocks ++ later.blocks }) ∧
    (earlier.verbose = true → ∀ later, parse second = .ok later →
      parse (first ++ second) =
        if later.verbose then .error .repeatedVerbose
        else .ok { blocks := earlier.blocks ++ later.blocks, verbose := true }) :=
  ⟨fun quiet => parse_append_of_quiet undivided parsed quiet second,
    fun loud _ parsedToo => parse_append_of_verbose undivided parsed loud parsedToo⟩

/-- The value of the first line is still open where the second line begins, and comes before its
own bad value. A verbose flag on either side of it is one too many. -/
theorem parse_append_open_value :
    let quiet := [Utf8.encode "--block", Utf8.encode "nested,guarded"]
    let loud := [Utf8.encode "-v", Utf8.encode "--block", Utf8.encode "nested"]
    let bad := [Utf8.encode "--block", Utf8.encode "-v"]
    let verbose := [Utf8.encode "--block=guarded", Utf8.encode "--verbose", Utf8.encode "--"]
    (Utf8.encode "--" ∉ quiet ∧ parse quiet = .ok { blocks := [.nested, .guarded] } ∧
      parse (quiet ++ bad) = .error .missingValue ∧
      parse (quiet ++ verbose) =
        .ok { blocks := [.nested, .guarded, .guarded], verbose := true }) ∧
    Utf8.encode "--" ∉ loud ∧ parse loud = .ok { blocks := [.nested], verbose := true } ∧
      parse verbose = .ok { blocks := [.guarded], verbose := true } ∧
      parse (loud ++ verbose) = .error .repeatedVerbose ∧
      parse (loud ++ quiet) =
        .ok { blocks := [.nested, .nested, .guarded], verbose := true } := by
  intro quiet loud bad verbose
  have quietOpen : Utf8.encode "--" ∉ quiet := by decide
  have loudOpen : Utf8.encode "--" ∉ loud := by decide
  have quietParsed : parse quiet = .ok { blocks := [.nested, .guarded] } := by decide +kernel
  have loudParsed : parse loud = .ok { blocks := [.nested], verbose := true } := by decide +kernel
  have badParsed : parse bad = .error .missingValue := by decide +kernel
  have verboseParsed : parse verbose = .ok { blocks := [.guarded], verbose := true } := by
    decide +kernel
  refine ⟨⟨quietOpen, quietParsed, ?_, ?_⟩, loudOpen, loudParsed, verboseParsed, ?_, ?_⟩
  · rw [(parse_append quietOpen quietParsed bad).1 rfl, badParsed]
    rfl
  · rw [(parse_append quietOpen quietParsed verbose).1 rfl, verboseParsed]
    rfl
  · exact (parse_append loudOpen loudParsed verbose).2 rfl _ verboseParsed
  · exact (parse_append loudOpen loudParsed quiet).2 rfl _ quietParsed

end CommandLine

end LoopProgress
