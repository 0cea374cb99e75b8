import LoopProgress.Outlet

namespace LoopProgress

/-- A store is an outlet that keeps what it takes. It can be looked into and its settings can be
replaced. A store of bytes hands out what it holds and keeps it too, until it is emptied. A store
that hands out nothing cannot be emptied. A store may count how often it was finished. -/
class Store (store : Type) (settings item : outParam Type) extends Outlet store where
  contents : store → List item
  configure : settings → store → store
  handOut? : store → Option (List item)
  emptied : store → store
  finishes? : store → Option Nat

end LoopProgress
