import LoopProgress.Proofs.Values

namespace LoopProgress.CommandLine

namespace Token

/-- A token is written as the argument that it stands for. -/
def written : Token → Argument
  | .separator => [45, 45]
  | .long name none => 45 :: 45 :: name
  | .long name (some value) => 45 :: 45 :: name ++ 61 :: value
  | .short flags => 45 :: flags
  | .plain value => value

theorem written_ofLong (text : Argument) : (ofLong text).written = 45 :: 45 :: text := by
  have whole := List.takeWhile_append_dropWhile (p := (· ≠ 61)) (l := text)
  rw [ofLong]
  cases rest : text.dropWhile (· ≠ 61) with
  | nil =>
      rw [rest, List.append_nil] at whole
      rw [List.tail?_nil, written, whole]
  | cons byte value =>
      have sign : byte = 61 := by
        have stopped := List.head?_dropWhile_not (· ≠ (61 : UInt8)) text
        rw [rest] at stopped
        simpa using stopped
      subst sign
      rw [rest] at whole
      simp only [List.tail?_cons, written, List.cons_append, whole]

/-- No byte of an argument is lost when it is told apart. -/
theorem written_ofArgument (argument : Argument) : (ofArgument argument).written = argument := by
  unfold ofArgument
  split
  · rfl
  · exact written_ofLong _
  · rfl
  · rfl
  · rfl

theorem ofArgument_ne_short_nil (argument : Argument) : ofArgument argument ≠ .short [] := by
  unfold ofArgument
  split <;> simp_all [ofLong]

end Token

namespace Item

/-- An item adds its kinds behind the others and may turn the verbose flag on. -/
def extend (item : Item) (options : Options) : Options where
  blocks := options.blocks ++ item.kinds
  verbose := options.verbose || item.isVerbose

/-- An item fits behind these options unless it turns the verbose flag on again. -/
def Fits (item : Item) (options : Options) : Prop :=
  options.verbose = true → item.isVerbose = false

theorem extend_of_isVerbose {item : Item} (verbose : item.isVerbose = true) (options : Options) :
    item.extend options = { options with verbose := true } := by
  cases item <;> simp_all [extend, kinds, isVerbose]

end Item

namespace State

theorem addBlocks_eq_ok_iff {state next : State} {value : Argument} :
    state.addBlocks value = .ok next ↔ ∃ first others, value = Item.value first others ∧
      next = { state with
        options := (Item.blockSeparate first others).extend state.options
        pending := .nothing } := by
  simp only [addBlocks, bind_eq_ok_iff, kindsOf_eq_ok_iff]
  constructor
  · rintro ⟨kinds, ⟨first, others, rfl, written⟩, built⟩
    cases built
    exact ⟨first, others, written, by simp [Item.extend, Item.kinds, Item.isVerbose]⟩
  · rintro ⟨first, others, written, rfl⟩
    exact ⟨_, ⟨first, others, rfl, written⟩,
      by simp [Item.extend, Item.kinds, Item.isVerbose, pure, Except.pure]⟩

/-- An open value is settled as the item that it belongs to. -/
theorem settle_eq_ok_iff {state settled : State} :
    state.settle = .ok settled ↔ state.pending = .nothing ∧ settled = state ∨
      ∃ first others, state.pending = .held (Item.value first others) ∧
        settled = { state with
          options := (Item.blockSeparate first others).extend state.options
          pending := .nothing } := by
  rw [settle]
  cases pending : state.pending with
  | nothing => simp [eq_comm]
  | awaiting => simp
  | held value => simp [addBlocks_eq_ok_iff]

theorem settle_of_nothing {state : State} (nothing : state.pending = .nothing) :
    state.settle = .ok state :=
  settle_eq_ok_iff.mpr (.inl ⟨nothing, rfl⟩)

theorem pending_of_settle {state settled : State} (settles : state.settle = .ok settled) :
    settled.pending = .nothing := by
  rcases settle_eq_ok_iff.mp settles with ⟨nothing, rfl⟩ | ⟨first, others, -, rfl⟩
  · exact nothing
  · rfl

theorem separated_of_settle {state settled : State} (settles : state.settle = .ok settled) :
    settled.separated = state.separated := by
  rcases settle_eq_ok_iff.mp settles with ⟨-, rfl⟩ | ⟨first, others, -, rfl⟩ <;> rfl

/-- The separator leaves the open value to be settled at the end. -/
theorem settle_separated {state settled : State} (settles : state.settle = .ok settled) :
    settle { state with separated := true } = .ok { settled with separated := true } := by
  rcases settle_eq_ok_iff.mp settles with ⟨nothing, rfl⟩ | ⟨first, others, held, rfl⟩
  · exact settle_of_nothing nothing
  · exact settle_eq_ok_iff.mpr (.inr ⟨first, others, held, rfl⟩)

theorem turnVerbose_eq_ok_iff {state next : State} :
    state.turnVerbose = .ok next ↔ ∃ settled, state.settle = .ok settled ∧
      settled.options.verbose = false ∧
      next = { settled with options := { settled.options with verbose := true } } := by
  rw [turnVerbose, bind_eq_ok_iff]
  apply exists_congr
  intro settled
  apply and_congr_right
  intro _
  cases settled.options.verbose with
  | false => simp [eq_comm, pure, Except.pure]
  | true => simp [bind, Except.bind, throw, throwThe, MonadExceptOf.throw]

theorem turnVerbose_of_fits {state settled : State} {item : Item}
    (verbose : item.isVerbose = true) (settles : state.settle = .ok settled)
    (fits : item.Fits settled.options) :
    state.turnVerbose = .ok { settled with options := item.extend settled.options } := by
  have quiet : settled.options.verbose = false := by
    apply Bool.eq_false_iff.mpr
    intro loud
    exact absurd verbose (by simp [fits loud])
  rw [Item.extend_of_isVerbose verbose]
  exact turnVerbose_eq_ok_iff.mpr ⟨settled, settles, quiet, rfl⟩

theorem askHelp_ne_ok (state next : State) (detail : HelpDetail) :
    state.askHelp detail ≠ .ok next := by
  intro asked
  obtain ⟨settled, -, ended⟩ := bind_eq_ok_iff.mp asked
  cases ended

theorem openBlock_none_eq_ok_iff {state next : State} :
    state.openBlock none = .ok next ↔ ∃ settled, state.settle = .ok settled ∧
      next = { settled with pending := .awaiting } := by
  rw [openBlock, bind_eq_ok_iff]
  simp only [pure, Except.pure, Except.ok.injEq, eq_comm]

theorem openBlock_some_eq_ok_iff {state next : State} {value : Argument} :
    state.openBlock (some value) = .ok next ↔ ∃ settled first others,
      state.settle = .ok settled ∧ value = Item.value first others ∧
        next = { settled with options := (Item.blockJoined first others).extend settled.options } := by
  rw [openBlock, bind_eq_ok_iff]
  apply exists_congr
  intro settled
  simp only [addBlocks_eq_ok_iff, ← exists_and_left]
  apply exists_congr
  intro first
  apply exists_congr
  intro others
  apply and_congr_right
  intro settles
  rw [← pending_of_settle settles]
  rfl

/-- Behind the verbose flag a cluster can only turn it on again, ask for help or be unknown. -/
theorem takeShort_ne_ok_of_verbose {state loud next : State} {byte : UInt8} {flags : Argument}
    (turned : state.turnVerbose = .ok loud) : loud.takeShort (byte :: flags) ≠ .ok next := by
  intro taken
  rw [takeShort] at taken
  split at taken
  · obtain ⟨twice, again, -⟩ := bind_eq_ok_iff.mp taken
    obtain ⟨settled, settles, -, louder⟩ := turnVerbose_eq_ok_iff.mp turned
    obtain ⟨same, settlesAgain, quiet, -⟩ := turnVerbose_eq_ok_iff.mp again
    have settledPending := pending_of_settle settles
    have nothing : loud.pending = .nothing := by
      rw [louder]
      exact settledPending
    cases (settle_of_nothing nothing).symm.trans settlesAgain
    rw [louder] at quiet
    cases quiet
  · split at taken
    · exact askHelp_ne_ok _ _ _ taken
    · cases taken

/-- A state accepts an argument as the separator, as an item of its own, as the block option whose
value is to come, or as that value. -/
inductive Accepts (state : State) : Argument → State → Prop where
  | separator : Accepts state (Utf8.encode "--") { state with separated := true }
  | item (item : Item) {argument : Argument} {settled : State}
      (written : item.arguments = [argument]) (settles : state.settle = .ok settled)
      (fits : item.Fits settled.options) :
      Accepts state argument { settled with options := item.extend settled.options }
  | block {settled : State} (settles : state.settle = .ok settled) :
      Accepts state (Utf8.encode "--block") { settled with pending := .awaiting }
  | value {argument : Argument} (awaited : state.pending = .awaiting)
      (plain : Token.ofArgument argument = .plain argument) :
      Accepts state argument { state with pending := .held argument }

theorem accepts_of_turnVerbose (item : Item) {state next : State} {argument : Argument}
    (written : item.arguments = [argument]) (verbose : item.isVerbose = true)
    (turned : state.turnVerbose = .ok next) : state.Accepts argument next := by
  obtain ⟨settled, settles, quiet, rfl⟩ := turnVerbose_eq_ok_iff.mp turned
  rw [← Item.extend_of_isVerbose verbose]
  apply Accepts.item item written settles
  intro loud
  exact absurd quiet (by simp [loud])

theorem accepts_of_openBlock {state next : State} {value : Option Argument}
    (opened : state.openBlock value = .ok next) :
    state.Accepts (Token.long (Utf8.encode "block") value).written next := by
  cases value with
  | none =>
      obtain ⟨settled, settles, rfl⟩ := openBlock_none_eq_ok_iff.mp opened
      exact .block settles
  | some value =>
      obtain ⟨settled, first, others, settles, rfl, rfl⟩ := openBlock_some_eq_ok_iff.mp opened
      exact .item (.blockJoined first others) rfl settles fun _ => rfl

theorem accepts_of_takeLong {state next : State} {name : Argument} {value : Option Argument}
    (taken : state.takeLong name value = .ok next) :
    state.Accepts (Token.long name value).written next := by
  unfold takeLong at taken
  split at taken
  · next same => exact same ▸ accepts_of_openBlock taken
  · split at taken
    · next same =>
        subst same
        cases value with
        | none => exact accepts_of_turnVerbose .verboseLong rfl rfl taken
        | some value => cases taken
    · split at taken
      · cases value with
        | none => exact absurd taken (askHelp_ne_ok _ _ _)
        | some value => cases taken
      · cases taken

theorem accepts_of_takeShort {state next : State} {flags : Argument} (present : flags ≠ [])
    (taken : state.takeShort flags = .ok next) :
    state.Accepts (Token.short flags).written next := by
  cases flags with
  | nil => exact absurd rfl present
  | cons byte rest =>
      rw [takeShort] at taken
      split at taken
      · next flag =>
          subst flag
          obtain ⟨loud, turned, taken⟩ := bind_eq_ok_iff.mp taken
          cases rest with
          | nil =>
              cases taken
              exact accepts_of_turnVerbose .verboseShort rfl rfl turned
          | cons other flags => exact absurd taken (takeShort_ne_ok_of_verbose turned)
      · split at taken
        · exact absurd taken (askHelp_ne_ok _ _ _)
        · cases taken

/-- An argument that is taken has been accepted in one of these ways, and never behind the
separator. -/
theorem accepts_of_take {state next : State} {argument : Argument}
    (taken : state.take argument = .ok next) :
    state.separated = false ∧ state.Accepts argument next := by
  unfold take at taken
  split at taken
  · cases taken
  · next undivided =>
      refine ⟨Bool.eq_false_iff.mpr undivided, ?_⟩
      have written := Token.written_ofArgument argument
      split at taken
      · next token =>
          cases taken
          rw [← written, token]
          exact .separator
      · next name value token =>
          rw [← written, token]
          exact accepts_of_takeLong taken
      · next flags token =>
          have present : flags ≠ [] := by
            rintro rfl
            exact Token.ofArgument_ne_short_nil argument token
          rw [← written, token]
          exact accepts_of_takeShort present taken
      · next value token =>
          rw [token] at written
          change value = argument at written
          subst written
          unfold takePlain at taken
          split at taken
          · next awaited =>
              cases taken
              exact .value awaited token
          · cases taken

/-- As long as the separator has not passed, the token decides what becomes of an argument. -/
theorem take_eq {state : State} (undivided : state.separated = false) (argument : Argument) :
    state.take argument = match Token.ofArgument argument with
      | .separator => .ok { state with separated := true }
      | .long name value => state.takeLong name value
      | .short flags => state.takeShort flags
      | .plain value => state.takePlain value := by
  rw [take, undivided]
  rfl

/-- What is accepted is taken. -/
theorem take_of_accepts {state next : State} {argument : Argument}
    (undivided : state.separated = false) (accepts : state.Accepts argument next) :
    state.take argument = .ok next := by
  rw [take_eq undivided]
  cases accepts with
  | separator => rfl
  | item item written settles fits =>
      cases item with
      | verboseShort =>
          cases written
          change (do (← state.turnVerbose).takeShort []) = _
          rw [turnVerbose_of_fits rfl settles fits]
          rfl
      | verboseLong =>
          cases written
          exact turnVerbose_of_fits rfl settles fits
      | blockJoined first others =>
          cases written
          exact openBlock_some_eq_ok_iff.mpr ⟨_, _, _, settles, rfl, rfl⟩
      | blockSeparate first others => cases written
  | block settles => exact openBlock_none_eq_ok_iff.mpr ⟨_, settles, rfl⟩
  | value awaited plain =>
      rw [plain]
      simp only [takePlain, awaited]

end State

end LoopProgress.CommandLine
