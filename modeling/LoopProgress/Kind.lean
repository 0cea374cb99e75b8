namespace LoopProgress

/-- Each kind of block demonstrates one form of loop. -/
inductive Kind where
  | accumulate
  | guarded
  | nested
deriving DecidableEq

namespace Kind

/-- The canonical order lists every kind once. -/
def all : List Kind := [.accumulate, .guarded, .nested]

theorem mem_all (kind : Kind) : kind ∈ all := by
  cases kind <;> simp [all]

/-- The rank counts the kinds that come before this one. -/
def rank : Kind → Nat
  | .accumulate => 0
  | .guarded => 1
  | .nested => 2

theorem all_rank (kind : Kind) : all[kind.rank]? = some kind := by
  cases kind <;> rfl

theorem rank_injective {first second : Kind} (same : first.rank = second.rank) :
    first = second := by
  cases first <;> cases second <;> simp_all [rank]

instance : LT Kind := ⟨fun first second => first.rank < second.rank⟩

instance (first second : Kind) : Decidable (first < second) :=
  inferInstanceAs (Decidable (first.rank < second.rank))

instance : Ord Kind := ⟨fun first second => compare first.rank second.rank⟩

/-- The name selects a kind on the command line and stands for it in messages. -/
def name : Kind → String
  | .accumulate => "accumulate"
  | .guarded => "guarded"
  | .nested => "nested"

instance : ToString Kind := ⟨name⟩

/-- The label stands for a kind where whole values are shown. -/
def label : Kind → String
  | .accumulate => "Accumulate"
  | .guarded => "Guarded"
  | .nested => "Nested"

/-- The long help text explains a kind with this phrase. -/
def help : Kind → String
  | .accumulate => "Counted accumulation (Block A)"
  | .guarded => "Condition-guarded counting (Block B)"
  | .nested => "Nested iteration (Block C)"

/-- Only the exact name denotes a kind. -/
def ofName? (text : String) : Option Kind :=
  all.find? fun kind => kind.name == text

theorem ofName?_eq_some_iff {text : String} {kind : Kind} :
    ofName? text = some kind ↔ text = kind.name := by
  constructor
  · intro found
    have named := List.find?_some found
    exact (beq_iff_eq.mp named).symm
  · intro named
    subst named
    cases kind <;> decide

theorem name_injective {first second : Kind} (same : first.name = second.name) :
    first = second :=
  Option.some.inj
    ((ofName?_eq_some_iff.mpr rfl).symm.trans (ofName?_eq_some_iff.mpr same))

/-- This reading of a name takes ASCII letters in either case. -/
def ofNameInAnyCase? (text : String) : Option Kind :=
  ofName? text.toLower

end Kind

end LoopProgress
