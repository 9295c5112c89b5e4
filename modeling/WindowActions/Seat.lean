import WindowActions.Client.Store

/-!
# Keyboard and pointer

While an interactive action has its session, the keyboard is grabbed for it. A seat is what the
engine needs of the user's devices: it may refuse a grab, and it knows where the pointer is.
-/

namespace WindowActions

class Seat (S : Type) where
  grab : S → Bool × S
  release : S → S
  pointer : S → Int × Int
  /-- The client at a place on the screen, if the seat can tell. -/
  clientAt : S → ClientStore → Int → Int → Option ClientRef := fun _ _ _ _ => none

/-- A seat without devices. It grants a grab unless grabs are denied or there is one already. -/
structure HeadlessSeat where
  position : Int × Int := (0, 0)
  denyGrabs : Bool := false
  grabbed : Bool := false
deriving DecidableEq, Repr, Inhabited

instance : Seat HeadlessSeat where
  grab seat :=
    if seat.denyGrabs || seat.grabbed then (false, seat) else (true, { seat with grabbed := true })
  release seat := { seat with grabbed := false }
  pointer seat := seat.position

end WindowActions
