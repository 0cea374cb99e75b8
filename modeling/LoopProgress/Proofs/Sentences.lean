import LoopProgress.Proofs.Acceptance
import Mathlib.Data.List.Induction

namespace LoopProgress.CommandLine

/-- An open value is written behind the option that it belongs to. -/
def Pending.arguments : Pending → List Argument
  | .nothing => []
  | .awaiting => [Utf8.encode "--block"]
  | .held value => [Utf8.encode "--block", value]

namespace Sentence

theorem options_append_singleton (items : List Item) (item : Item) (separated : Bool) :
    (mk (items ++ [item]) separated).options = item.extend (mk items separated).options := by
  simp [options, Item.extend]

theorem verbose_options_iff (items : List Item) (separated : Bool) :
    (mk items separated).options.verbose = true ↔ 0 < items.countP Item.isVerbose := by
  rw [List.countP_pos_iff, ← List.any_eq_true]
  rfl

theorem options_append (first second : List Item) (separated : Bool) :
    (mk (first ++ second) separated).options =
      { blocks := (mk first false).options.blocks ++ (mk second separated).options.blocks
        verbose := (mk first false).options.verbose || (mk second separated).options.verbose } := by
  simp [options]

/-- One more item keeps a sentence well formed if it fits behind the others. -/
theorem wellFormed_append_singleton_iff (items : List Item) (item : Item) (separated : Bool) :
    (mk (items ++ [item]) separated).WellFormed ↔
      (mk items separated).WellFormed ∧ item.Fits (mk items separated).options := by
  simp only [WellFormed, Item.Fits, verbose_options_iff, List.countP_append,
    List.countP_singleton]
  cases item.isVerbose with
  | false => simp
  | true =>
      simp only [↓reduceIte, Bool.true_eq_false, imp_false]
      omega

end Sentence

/-- A state has read these items if the arguments spell them, with the open value and the separator
behind them, and if the options are theirs. -/
structure State.HasRead (state : State) (items : List Item) (read : List Argument) : Prop where
  written : read = items.flatMap Item.arguments ++ state.pending.arguments ++
    if state.separated then [Utf8.encode "--"] else []
  options : state.options = (Sentence.mk items state.separated).options
  wellFormed : (Sentence.mk items state.separated).WellFormed

namespace State.HasRead

variable {state settled next last : State} {items : List Item} {read : List Argument}

theorem start : State.HasRead {} [] [] :=
  ⟨rfl, rfl, Nat.zero_le 1⟩

/-- An open value that is settled becomes an item, and the arguments stay the same. -/
theorem settle (hasRead : state.HasRead items read) (settles : state.settle = .ok settled) :
    ∃ items, settled.HasRead items read := by
  rcases settle_eq_ok_iff.mp settles with ⟨-, rfl⟩ | ⟨first, others, held, rfl⟩
  · exact ⟨items, hasRead⟩
  · refine ⟨items ++ [.blockSeparate first others], ?_, ?_, ?_⟩
    · simp [hasRead.written, held, Pending.arguments, Item.arguments]
    · exact (congrArg _ hasRead.options).trans (Sentence.options_append_singleton ..).symm
    · exact (Sentence.wellFormed_append_singleton_iff ..).mpr ⟨hasRead.wellFormed, fun _ => rfl⟩

theorem item {item : Item} (hasRead : settled.HasRead items read)
    (nothing : settled.pending = .nothing) (undivided : settled.separated = false)
    (fits : item.Fits settled.options) :
    State.HasRead { settled with options := item.extend settled.options } (items ++ [item])
      (read ++ item.arguments) where
  written := by simp [hasRead.written, nothing, undivided, Pending.arguments]
  options := (congrArg _ hasRead.options).trans (Sentence.options_append_singleton ..).symm
  wellFormed :=
    (Sentence.wellFormed_append_singleton_iff ..).mpr
      ⟨hasRead.wellFormed, hasRead.options ▸ fits⟩

/-- Whatever is accepted keeps the account of what has been read. -/
theorem accepts {argument : Argument} (hasRead : state.HasRead items read)
    (undivided : state.separated = false) (accepts : state.Accepts argument next) :
    ∃ items, next.HasRead items (read ++ [argument]) := by
  cases accepts with
  | separator =>
      exact ⟨items, by simp [hasRead.written, undivided], hasRead.options, hasRead.wellFormed⟩
  | item item written settles fits =>
      obtain ⟨items, hasRead⟩ := hasRead.settle settles
      rw [← separated_of_settle settles] at undivided
      exact ⟨items ++ [item],
        written ▸ hasRead.item (pending_of_settle settles) undivided fits⟩
  | block settles =>
      obtain ⟨items, hasRead⟩ := hasRead.settle settles
      rw [← separated_of_settle settles] at undivided
      refine ⟨items, ?_, hasRead.options, hasRead.wellFormed⟩
      simp [hasRead.written, undivided, pending_of_settle settles, Pending.arguments]
  | value awaited plain =>
      refine ⟨items, ?_, hasRead.options, hasRead.wellFormed⟩
      simp [hasRead.written, undivided, awaited, Pending.arguments]

theorem takeAll {arguments : List Argument} (hasRead : state.HasRead items read)
    (taken : state.takeAll arguments = .ok last) :
    ∃ items, last.HasRead items (read ++ arguments) := by
  induction arguments generalizing state items read with
  | nil =>
      cases taken
      exact ⟨items, by rwa [List.append_nil]⟩
  | cons argument rest inductionHypothesis =>
      rw [State.takeAll, List.foldlM_cons] at taken
      obtain ⟨middle, first, others⟩ := bind_eq_ok_iff.mp taken
      obtain ⟨undivided, accepts⟩ := accepts_of_take first
      obtain ⟨items, hasRead⟩ := hasRead.accepts undivided accepts
      have whole := inductionHypothesis hasRead others
      rwa [List.append_assoc] at whole

/-- Without an open value, what has been read is a sentence. -/
theorem sentence (hasRead : settled.HasRead items read) (nothing : settled.pending = .nothing) :
    (Sentence.mk items settled.separated).arguments = read := by
  rw [hasRead.written, nothing, Pending.arguments, List.append_nil]
  rfl

end State.HasRead

namespace State

theorem takeAll_singleton (state : State) (argument : Argument) :
    state.takeAll [argument] = state.take argument := by
  rw [takeAll, List.foldlM_cons]
  cases state.take argument <;> rfl

/-- An item that fits is taken, and it shows as soon as the state is settled. -/
theorem takeAll_item {state settled : State} {item : Item} (undivided : state.separated = false)
    (settles : state.settle = .ok settled) (fits : item.Fits settled.options) :
    ∃ next, state.takeAll item.arguments = .ok next ∧ next.separated = false ∧
      next.settle = .ok { settled with options := item.extend settled.options } := by
  have nothing := pending_of_settle settles
  have stays := (separated_of_settle settles).trans undivided
  have alone {argument : Argument} (written : item.arguments = [argument]) :
      state.takeAll item.arguments =
        .ok { settled with options := item.extend settled.options } := by
    rw [written, takeAll_singleton]
    exact take_of_accepts undivided (.item item written settles fits)
  cases item with
  | verboseShort => exact ⟨_, alone rfl, stays, settle_of_nothing nothing⟩
  | verboseLong => exact ⟨_, alone rfl, stays, settle_of_nothing nothing⟩
  | blockJoined first others => exact ⟨_, alone rfl, stays, settle_of_nothing nothing⟩
  | blockSeparate first others =>
      -- The value is only held, so the kinds are not among the options yet.
      let awaiting : State := { settled with pending := .awaiting }
      let held : State := { settled with pending := .held (Item.value first others) }
      have opened : state.take (Utf8.encode "--block") = .ok awaiting :=
        take_of_accepts undivided (.block settles)
      have filled : awaiting.take (Item.value first others) = .ok held :=
        take_of_accepts stays (.value rfl (Token.ofArgument_value first others))
      refine ⟨held, ?_, stays, ?_⟩
      · change state.takeAll ([_] ++ [_]) = _
        rw [takeAll_append, takeAll_singleton, opened]
        exact (takeAll_singleton ..).trans filled
      · rw [nothing]
        exact settle_eq_ok_iff.mpr (.inr ⟨first, others, rfl, rfl⟩)

/-- An item that does not fit is the verbose flag once more. -/
theorem takeAll_item_of_not_fits {state settled : State} {item : Item}
    (undivided : state.separated = false) (settles : state.settle = .ok settled)
    (unfit : ¬ item.Fits settled.options) :
    state.takeAll item.arguments = .error .repeatedVerbose := by
  obtain ⟨loud, verbose⟩ : settled.options.verbose = true ∧ item.isVerbose = true := by
    simpa [Item.Fits] using unfit
  have refused : state.turnVerbose = .error .repeatedVerbose := by
    rw [turnVerbose, settles]
    change (if settled.options.verbose = true then _ else _) = _
    rw [if_pos loud]
    rfl
  cases item with
  | verboseShort =>
      rw [Item.arguments, takeAll_singleton, take_eq undivided]
      change (do (← state.turnVerbose).takeShort []) = _
      rw [refused]
      rfl
  | verboseLong =>
      rw [Item.arguments, takeAll_singleton, take_eq undivided]
      exact refused
  | blockJoined first others => cases verbose
  | blockSeparate first others => cases verbose

/-- The items of a sentence are taken one after another. -/
theorem takeAll_items {items : List Item} (wellFormed : (Sentence.mk items false).WellFormed) :
    ∃ last, State.takeAll {} (items.flatMap Item.arguments) = .ok last ∧
      last.separated = false ∧
      last.settle = .ok { options := (Sentence.mk items false).options } := by
  -- The last item is split off, since only its value can still be open.
  induction items using List.reverseRecOn with
  | nil => exact ⟨{}, rfl, rfl, settle_of_nothing rfl⟩
  | append_singleton items item inductionHypothesis =>
      obtain ⟨before, fits⟩ := (Sentence.wellFormed_append_singleton_iff ..).mp wellFormed
      obtain ⟨middle, taken, undivided, settles⟩ := inductionHypothesis before
      obtain ⟨last, itemTaken, undivided, settles⟩ := takeAll_item undivided settles fits
      refine ⟨last, ?_, undivided, ?_⟩
      · rw [List.flatMap_append, List.flatMap_singleton, takeAll_append, taken]
        exact itemTaken
      · rw [settles, Sentence.options_append_singleton]

theorem takeAll_items_of_not_wellFormed {items : List Item}
    (repeated : ¬ (Sentence.mk items false).WellFormed) :
    State.takeAll {} (items.flatMap Item.arguments) = .error .repeatedVerbose := by
  -- The first item that does not fit is looked for from the end.
  induction items using List.reverseRecOn with
  | nil => exact absurd (Nat.zero_le 1) repeated
  | append_singleton items item inductionHypothesis =>
      rw [List.flatMap_append, List.flatMap_singleton, takeAll_append]
      by_cases before : (Sentence.mk items false).WellFormed
      · obtain ⟨middle, taken, undivided, settles⟩ := takeAll_items before
        have unfit : ¬ item.Fits (Sentence.mk items false).options := fun fits =>
          repeated ((Sentence.wellFormed_append_singleton_iff ..).mpr ⟨before, fits⟩)
        rw [taken]
        exact takeAll_item_of_not_fits undivided settles unfit
      · rw [inductionHypothesis before]
        rfl

end State

theorem parse_eq_ok_iff_settles {arguments : List Argument} {options : Options} :
    parse arguments = .ok options ↔ ∃ last settled, State.takeAll {} arguments = .ok last ∧
      last.settle = .ok settled ∧ settled.options = options := by
  simp only [parse, bind_eq_ok_iff, pure, Except.pure, Except.ok.injEq, exists_and_left]

/-- A sentence gives its own options. -/
theorem parse_sentence {sentence : Sentence} (wellFormed : sentence.WellFormed) :
    parse sentence.arguments = .ok sentence.options := by
  obtain ⟨items, separated⟩ := sentence
  obtain ⟨last, taken, undivided, settles⟩ := State.takeAll_items wellFormed
  apply parse_eq_ok_iff_settles.mpr
  cases separated with
  | false =>
      refine ⟨last, _, ?_, settles, rfl⟩
      rw [Sentence.arguments, if_neg Bool.false_ne_true, List.append_nil, taken]
  | true =>
      refine ⟨{ last with separated := true }, _, ?_, State.settle_separated settles, rfl⟩
      rw [Sentence.arguments, if_pos rfl, State.takeAll_append, taken]
      exact (State.takeAll_singleton ..).trans (State.take_of_accepts undivided .separator)

/-- A sentence with a second verbose flag stops at that flag, whatever else it holds. -/
theorem parse_of_not_wellFormed {sentence : Sentence} (repeated : ¬ sentence.WellFormed) :
    parse sentence.arguments = .error .repeatedVerbose := by
  rw [parse, Sentence.arguments, State.takeAll_append,
    State.takeAll_items_of_not_wellFormed repeated]
  rfl

/-- Arguments that give options spell a sentence with these options. -/
theorem exists_sentence_of_parse {arguments : List Argument} {options : Options}
    (parsed : parse arguments = .ok options) :
    ∃ sentence : Sentence, sentence.WellFormed ∧ sentence.arguments = arguments ∧
      sentence.options = options := by
  obtain ⟨last, settled, taken, settles, rfl⟩ := parse_eq_ok_iff_settles.mp parsed
  obtain ⟨items, hasRead⟩ := State.HasRead.start.takeAll taken
  obtain ⟨items, hasRead⟩ := hasRead.settle settles
  exact ⟨⟨items, settled.separated⟩, hasRead.wellFormed,
    hasRead.sentence (State.pending_of_settle settles), hasRead.options.symm⟩

/-- The command lines that give options are exactly the sentences, and they give the options that
the sentences mean. -/
theorem parse_eq_ok_iff (arguments : List Argument) (options : Options) :
    parse arguments = .ok options ↔
      ∃ sentence : Sentence, sentence.WellFormed ∧ sentence.arguments = arguments ∧
        sentence.options = options := by
  constructor
  · exact exists_sentence_of_parse
  · rintro ⟨sentence, wellFormed, rfl, rfl⟩
    exact parse_sentence wellFormed

/-- The flag does not become the value of the option in front of it. -/
example : parse [Utf8.encode "--block", Utf8.encode "-v"] = .error .missingValue := by
  decide +kernel

end LoopProgress.CommandLine
