import WindowActions.ActionList.Basic

/-!
# Which clients a chain selects

A filter can add the clients it is for to a set and can remove all others from it. A chain is cut
into groups behind every term that is joined by `or`. The clients of a group are those of all its
terms, the clients of the chain those of any of its groups; clients of earlier groups come first.
Inside of another conditional every term narrows down the clients of that one.
-/

namespace WindowActions

namespace Filter

/-- The set without the clients that the filter is not for, or nothing if none is left. -/
def reduce (f : Filter) (store : ClientStore) (set : ClientSet) : Option ClientSet :=
  match f.rule with
  | .everything => if f.invert then none else some set
  | .matching test => set.reduce store fun c => test c != f.invert

/-- The set with all clients added that the filter is for. -/
def expand (f : Filter) (store : ClientStore) (set : Option ClientSet) : ClientSet :=
  match f.rule with
  | .everything => if f.invert then set.getD .empty else .all
  | .matching test => ClientSet.expand store (fun c => test c != f.invert) set

end Filter

/-- The clients that a term selects: among those of the incoming set, or if there is none, among
all managed ones. -/
def Term.select (term : Term) (store : ClientStore) (incoming : Option ClientSet) : ClientSet :=
  match term.filter, incoming with
  | none, _ => .empty
  | some f, some set => (f.reduce store (set.duplicate store)).getD .empty
  | some f, none => f.expand store none

namespace TestChain

/-- The groups of a chain. Its last term closes a group however it is joined. -/
def groups : TestChain → List (List Term)
  | [] => []
  | term :: terms =>
    match term.joint, groups terms with
    | .and, group :: others => (term :: group) :: others
    | _, others => [term] :: others

/-- Combines the sets of a list one after the other. No sets make up the empty set. -/
def combine (op : ClientSet → ClientSet → ClientSet) : List ClientSet → ClientSet
  | [] => .empty
  | set :: sets => sets.foldl op set

def selectGroup (store : ClientStore) (incoming : Option ClientSet) (group : List Term) :
    ClientSet :=
  combine (ClientSet.intersection store) (group.map fun term => term.select store incoming)

def evaluate (chain : TestChain) (store : ClientStore) (incoming : Option ClientSet) : ClientSet :=
  let selected := combine (ClientSet.union store) (chain.groups.map (selectGroup store incoming))
  match incoming with
  | some set => selected.intersection store (set.duplicate store)
  | none => selected

end TestChain

end WindowActions
