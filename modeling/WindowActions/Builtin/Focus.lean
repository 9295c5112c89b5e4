import WindowActions.Behavior

/-!
# The focus

At most one managed client should have the focus. It is moved in two ways: for good, which also
shows the client if it was an icon, and as a preview, which changes nothing but the focus of the
clients that took part in it.
-/

namespace WindowActions

namespace ClientStore

def focus (store : ClientStore) (r : ClientRef) : ClientStore :=
  (store.mapManaged fun c => { c.state with focused := c.ref == r }).modify r
    fun state => { state with iconic := false }

/-- Moves the focus to a client as a preview among `others`. -/
def preview (store : ClientStore) (others : List ClientRef) (r : ClientRef) : ClientStore :=
  store.mapLive fun c => if c.ref ∈ others then { c.state with focused := c.ref == r } else c.state

end ClientStore

end WindowActions
