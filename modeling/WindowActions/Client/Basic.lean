/-!
# Clients

A client is a window that the window manager knows. Its window number can be given to another
client later, so what a client is recognised by is a reference: a serial number that is never used
again, together with the window.
-/

namespace WindowActions

structure ClientRef where
  serial : Nat
  window : UInt32
deriving DecidableEq, Repr

structure ClientState where
  title : String := ""
  className : String := ""
  desktop : UInt32 := 0
  urgent : Bool := false
  focused : Bool := false
  iconic : Bool := false
  closed : Bool := false
deriving DecidableEq, Repr, Inhabited

/-- A window and the state of the client that it belongs to. -/
structure ClientSpec where
  window : UInt32
  state : ClientState
deriving DecidableEq, Repr

/-- A client that is managed, or that somebody still holds after the end of its management. -/
structure Client where
  ref : ClientRef
  state : ClientState
  managed : Bool
deriving DecidableEq, Repr

def Client.window (c : Client) : UInt32 := c.ref.window

def Client.spec (c : Client) : ClientSpec := ⟨c.ref.window, c.state⟩

end WindowActions
