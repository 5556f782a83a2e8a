import BuildQuery.Registry

/-!
# Handles on registries

A registry that several parts of a program work on has a place of its own and is used through
handles. A handle is the number of the place, so that all clones of a handle lead to one registry.
Nobody else uses a registry while an operation on it goes on.
-/

namespace BuildQuery

/-- What leads to a registry. A clone of a handle is the same handle. -/
structure Handle where
  place : Nat
  deriving DecidableEq, Repr

/-- The registries that are in use, each at its place. -/
structure Shelf where
  registries : List Registry

namespace Shelf

/-- The shelf without registries. -/
def empty : Shelf := ⟨[]⟩

/-- The registry that a handle leads to. -/
def get? (s : Shelf) (h : Handle) : Option Registry := s.registries[h.place]?

/-- The shelf with one more registry, and a handle on that one. -/
def put (s : Shelf) (r : Registry) : Shelf × Handle :=
  (⟨s.registries ++ [r]⟩, ⟨s.registries.length⟩)

/-- The shelf after an operation on the registry that a handle leads to. -/
def update (s : Shelf) (h : Handle) (op : Registry → Registry) : Shelf :=
  ⟨s.registries.modify h.place op⟩

theorem get?_put_self (s : Shelf) (r : Registry) : (s.put r).1.get? (s.put r).2 = some r := by
  simp [get?, put]

theorem get?_update_self (s : Shelf) (h : Handle) (op : Registry → Registry) :
    (s.update h op).get? h = (s.get? h).map op := by
  simp [get?, update]

theorem get?_update_of_ne (s : Shelf) {h k : Handle} (ne : h ≠ k) (op : Registry → Registry) :
    (s.update h op).get? k = s.get? k := by
  have apart : h.place ≠ k.place := fun e => ne (congrArg Handle.mk e)
  simp [get?, update, List.getElem?_modify_ne, apart]

end Shelf

end BuildQuery
