import LoopProgress.Plan
import LoopProgress.Script

namespace LoopProgress

/-- A block is asked for by its kind or given as a script. The outlet it writes to stays open. -/
inductive BlockRequest where
  | standard (kind : Kind)
  | scripted (script : Script)

namespace BlockRequest

def block {outlet : Type} [Outlet outlet] : BlockRequest → Block outlet
  | .standard kind => kind.block
  | .scripted script => script.block

/-- Every request stands for one script. -/
def script : BlockRequest → Script
  | .standard kind => kind.script
  | .scripted script => script

end BlockRequest

/-- A role is played by a block of its own on every outlet. -/
class Role (role : Type) where
  block {outlet : Type} [Outlet outlet] : role → Block outlet

instance : Role Kind where
  block := Kind.block

instance : Role BlockRequest where
  block := BlockRequest.block

@[simp] theorem BlockRequest.role_block {outlet : Type} [Outlet outlet] (request : BlockRequest) :
    (Role.block request : Block outlet) = request.block := rfl

/-- A plan is asked for as the standard one, by a selection of kinds, or role by role. Unless others
are named, the roles are requested blocks. -/
inductive PlanRequest (role : Type := BlockRequest) where
  | standard
  | selection (kinds : List Kind)
  | blocks (roles : List role)

def PlanRequest.plan {role outlet : Type} [Role role] [Outlet outlet] :
    PlanRequest role → Plan outlet
  | .standard => Plan.standard
  | .selection kinds => Plan.ofSelection kinds
  | .blocks roles => ⟨roles.map Role.block⟩

end LoopProgress
