import ShapeOverlay.Store

/-!
# Traversal order

Shapes are hit in an order that puts a rectangle behind every rectangle that strictly contains it,
so that of nested rectangles the innermost comes last. Only rectangles change places: the order of
the rectangles among themselves (`Traversal.nesting`) is dealt into the places that rectangles have
in the list (`Traversal.deal`), and polygons and circles stay where they are.

The nesting order is a topological sort. A `Traversal.Sorting` counts for each place how many of
the rectangles that strictly contain the one there still wait, and lists the waiting rectangles for
which there are none. `Traversal.Sorting.drain` takes the first of these again and again, and lowers
the counts of the rectangles inside it.
-/

namespace ShapeOverlay

variable {α : Type} [Scalar α]

/-- The box of a rectangle; other geometries take no part in nesting. -/
def Geometry.nestingBox? : Geometry α → Option (Bounds α)
  | rectangle a b => some (.ofCorners a b)
  | _ => none

namespace Traversal

/-! ### Nesting -/

/-- The boxes of the rectangles of a list of shapes, each at the place of its shape. -/
def boxes (shapes : List (Shape α)) : List (Option (Bounds α)) :=
  shapes.map (·.geometry.nestingBox?)

/-- The rectangle at one place strictly contains the rectangle at another. -/
def encloses (boxes : List (Option (Bounds α))) (outer inner : Nat) : Bool :=
  match boxes[outer]?, boxes[inner]? with
  | some (some o), some (some i) => outer != inner && o.strictlyContains i
  | _, _ => false

/-- The places of the rectangles that the one at a place strictly contains, in ascending order. -/
def contents (boxes : List (Option (Bounds α))) (outer : Nat) : List Nat :=
  (List.range boxes.length).filter (encloses boxes outer)

/-- How many rectangles strictly contain the one at a place. -/
def depth (boxes : List (Option (Bounds α))) (inner : Nat) : Nat :=
  (List.range boxes.length).countP (encloses boxes · inner)

/-- Ascending places with one more among them. -/
def insertPlace (i : Nat) : List Nat → List Nat
  | [] => [i]
  | j :: js =>
    if i < j then i :: j :: js else if i = j then j :: js else j :: insertPlace i js

/-- A sort of the rectangles of a list under way. For each place `pending` counts the rectangles
that strictly contain the one there and still wait. `ready` are the places of the waiting ones that
no waiting one strictly contains, ascending, and `taken` those of the others, in the order in which
they were taken. -/
structure Sorting where
  pending : List Nat
  ready : List Nat
  taken : List Nat := []
  deriving Repr, DecidableEq

namespace Sorting

/-- The sort before the first rectangle is taken. -/
def start (boxes : List (Option (Bounds α))) : Sorting where
  pending := (List.range boxes.length).map (depth boxes)
  ready := (List.range boxes.length).filter fun i =>
    boxes[i]?.join.isSome && depth boxes i == 0

/-- The sort after one of the rectangles around the one at a place has been taken; none if no
rectangle around it was waiting. -/
def release? (s : Sorting) (i : Nat) : Option Sorting :=
  match s.pending[i]? with
  | some (n + 1) =>
    some { s with
      pending := s.pending.set i n
      ready := if n = 0 then insertPlace i s.ready else s.ready }
  | _ => none

/-- The sort after the rectangle at a place is taken, which leaves others ready. -/
def take? (boxes : List (Option (Bounds α))) (s : Sorting) (i : Nat) (ready : List Nat) :
    Option Sorting :=
  (contents boxes i).foldlM release? { s with ready, taken := s.taken ++ [i] }

/-- The sort after rectangles are taken as long as one is ready. The fuel bounds how many. -/
def drain (boxes : List (Option (Bounds α))) : Nat → Sorting → Option Sorting
  | 0, s => some s
  | fuel + 1, s =>
    match s.ready with
    | [] => some s
    | i :: ready => (s.take? boxes i ready).bind (drain boxes fuel)

end Sorting

/-- The places of the rectangles of a list of shapes, each behind those that strictly contain it. -/
def nesting (shapes : List (Shape α)) : List Nat :=
  let boxes := boxes shapes
  (Sorting.drain boxes boxes.length (.start boxes)).elim [] (·.taken)

/-! ### Dealing -/

/-- The places of all shapes in order: the next of the rectangles where a rectangle stands, and the
shape's own place elsewhere. The place of a rectangle is left out once no next one is left. -/
def deal : List Nat → List (Shape α × Nat) → List Nat
  | _, [] => []
  | next, (shape, i) :: rest =>
    match shape.geometry.nestingBox?, next with
    | none, next => i :: deal next rest
    | some _, j :: next => j :: deal next rest
    | some _, [] => deal [] rest

/-- The places of a list of shapes in traversal order. -/
def places (shapes : List (Shape α)) : List Nat := deal (nesting shapes) shapes.zipIdx

/-- **The traversal order of a list of shapes**: each with its place in the list. -/
def order (shapes : List (Shape α)) : List (Nat × Shape α) :=
  (places shapes).filterMap fun i => shapes[i]?.map (i, ·)

end Traversal

end ShapeOverlay
