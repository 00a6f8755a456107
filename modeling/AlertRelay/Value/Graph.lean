import AlertRelay.Value.KeyOrder

/-!
Containers that share parts or contain themselves.

A `Graph` lists containers whose parts refer to one another by place, so one container can
stand in many places and a way along the parts can lead back to where it began.
`Graph.value` unfolds what a part stands for: a container that is met on the way into itself
becomes `Value.again`, every other meeting of it is written out, with its place as identity.
-/

namespace AlertRelay

/-- A part of a container: a value without parts of its own, or the container at a place. -/
inductive Graph.Part where
  | simple (v : Value)
  | node (place : Nat)

instance : Inhabited Graph.Part := ⟨.simple .undefined⟩

/-- A container with its parts. -/
inductive Graph.Node where
  | list (items : List Graph.Part)
  | record (fields : List (String × Graph.Part))
  | error (kind : ErrorClass) (fields : List (String × Graph.Part))

/-- Containers by their places. -/
structure Graph where
  nodes : Array Graph.Node

namespace Graph

/-- What a part stands for inside the containers at some places, for at most `room` more
containers around one another. -/
def valueInside (g : Graph) : Nat → List Nat → Part → Value
  | _, _, .simple v => v
  | 0, _, .node place => .again place
  | room + 1, inside, .node place =>
    if inside.contains place then .again place
    else
      let inner := g.valueInside room (place :: inside)
      match g.nodes[place]? with
      | some (.list items) => .list (some place) (items.map inner)
      | some (.record fields) =>
        .record (some place) (listedFields (fields.map fun f => (f.1, inner f.2)))
      | some (.error kind fields) =>
        .error (some place) kind (fields.map fun f => (f.1, inner f.2))
      | none => .undefined

/-- What a part stands for.  Of containers around one another none is at the place of another,
so there is room for all that can be met. -/
def value (g : Graph) (p : Part) : Value :=
  g.valueInside (g.nodes.size + 1) [] p

/-- A container stands for itself inside its own parts. -/
theorem valueInside_of_mem {g : Graph} {room : Nat} {inside : List Nat} {place : Nat}
    (h : place ∈ inside) : g.valueInside room inside (.node place) = .again place := by
  cases room <;> simp [valueInside, h]

/-- A list that holds itself. -/
example : (⟨#[.list [.node 0]]⟩ : Graph).value (.node 0) = .list (some 0) [.again 0] := by
  simp [value, valueInside]

end Graph

end AlertRelay
