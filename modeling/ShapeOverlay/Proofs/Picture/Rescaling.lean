import ShapeOverlay.Picture
import ShapeOverlay.Proofs.Picture.Painting
import ShapeOverlay.Proofs.Scalar.Real
import ShapeOverlay.Proofs.Session.Detection

/-! # Surfaces of different size

Shapes are kept in relative coordinates, so with exact numbers nothing but the number of pixels
depends on the size of the surface (`resolutionFree`). Detection reads the size for the boxes of
circles only (`Geometry.bounds?_of_kind`), and a circle keeps its box as long as both axes grow by
one factor (`Geometry.bounds?_scaled`). What is painted grows as the surface does: every point by
the factors of the two axes, and the length of a radius by the factor that both axes share
(`shapesPicture_scaled`). -/

namespace ShapeOverlay

/-! ### Detection -/

namespace Geometry

/-- Only the box of a circle depends on the surface. -/
theorem bounds?_of_kind {α : Type} [Scalar α] {g : Geometry α} (h : g.kind ≠ .circle)
    (v w : Viewport α) : g.bounds? v = g.bounds? w := by
  cases g with
  | rectangle a b | polygon vertices => rfl
  | circle center radius => exact absurd rfl h

/-- A circle keeps its box when both axes grow by one factor. -/
theorem bounds?_scaled {k : ℝ} (hk : 0 < k) (v : Viewport ℝ) (g : Geometry ℝ) :
    g.bounds? (v.scaled k k) = g.bounds? v := by
  cases g with
  | rectangle a b | polygon vertices => rfl
  | circle center radius =>
    have hdiv : ∀ a b : ℝ, k * a / (k * b) = a / b := fun a b => mul_div_mul_left a b hk.ne'
    simp only [bounds?, isEmpty_scaled hk hk, effective_scaled hk.le]
    simp only [Viewport.scaled, hdiv]

end Geometry

/-- Detection depends on the surface through the boxes of the shapes only. -/
theorem Detection.shapeAt?_congr {α : Type} [Scalar α] {shapes : List (Shape α)}
    {v w : Viewport α} (h : ∀ s ∈ shapes, s.geometry.bounds? v = s.geometry.bounds? w)
    (p : Point α) : shapeAt? shapes p v = shapeAt? shapes p w := by
  have hhit : isHit shapes v p = isHit shapes w p := by
    funext i
    unfold isHit
    cases hi : shapes[i]? with
    | none => rfl
    | some s => simp only [Option.any_some, Geometry.contains, h s (List.mem_of_getElem? hi)]
  rw [shapeAt?_eq, shapeAt?_eq, hhit]

/-! ### Pictures -/

namespace Primitive

variable {α : Type} [Scalar α]

/-- A primitive with its points multiplied by one factor for each axis, and the length of a radius
by a third one. -/
def scaled (kx ky kr : α) : Primitive α → Primitive α
  | path points closed stroke => .path (points.map (.scaled kx ky)) closed stroke
  | circle center radius stroke => .circle (center.scaled kx ky) (kr * radius) stroke
  | fill box color => .fill ⟨box.min.scaled kx ky, box.max.scaled kx ky⟩ color

/-- The points at which a primitive is painted. -/
def points : Primitive α → List (Point α)
  | path points _ _ => points
  | circle center _ _ => [center]
  | fill box _ => [box.min, box.max]

end Primitive

variable {kx ky kr : ℝ} {v : Viewport ℝ}

theorem map_toPixels_scaled (ps : List (Point ℝ)) :
    ps.map (v.scaled kx ky).toPixels = (ps.map v.toPixels).map (.scaled kx ky) := by
  rw [List.map_map]
  exact List.map_congr_left fun p _ => toPixels_scaled v p

/-- The outline of a geometry grows as the surface does. -/
theorem Geometry.outline_scaled {g : Geometry ℝ}
    (h : ∀ center radius, g = .circle center radius →
      radius.effective (v.scaled kx ky) = kr * radius.effective v)
    (stroke : Stroke) (isOpen : Bool) :
    g.outline stroke isOpen (v.scaled kx ky) = (g.outline stroke isOpen v).scaled kx ky kr := by
  cases g with
  | rectangle a b | polygon vertices =>
    simp only [outline, Primitive.scaled, map_toPixels_scaled]
  | circle center radius =>
    simp only [outline, Primitive.scaled, toPixels_scaled, h center radius rfl]

theorem Geometry.points_outline_scaled (g : Geometry ℝ) (stroke : Stroke) (isOpen : Bool) :
    (g.outline stroke isOpen (v.scaled kx ky)).points =
      (g.outline stroke isOpen v).points.map (.scaled kx ky) := by
  cases g with
  | rectangle a b | polygon vertices =>
    simp only [outline, Primitive.points, map_toPixels_scaled]
  | circle center radius =>
    simp only [outline, Primitive.points, toPixels_scaled, List.map_cons, List.map_nil]

/-- **The picture of a list grows as the surface does**, if the lengths of all radii grow by one
factor. -/
theorem shapesPicture_scaled {shapes : List (Shape ℝ)}
    (h : ∀ s ∈ shapes, ∀ center radius, s.geometry = .circle center radius →
      radius.effective (v.scaled kx ky) = kr * radius.effective v) :
    shapesPicture shapes (v.scaled kx ky) =
      (shapesPicture shapes v).map (.scaled kx ky kr) := by
  unfold shapesPicture
  rw [List.map_flatMap]
  refine List.flatMap_congr fun s hs => ?_
  unfold Shape.picture Shape.pictureIn
  split_ifs
  · rw [Geometry.outline_scaled (h s hs)]
    rfl
  · rfl

theorem points_shapesPicture_scaled (shapes : List (Shape ℝ)) :
    (shapesPicture shapes (v.scaled kx ky)).map (·.points) =
      (shapesPicture shapes v).map fun p => p.points.map (.scaled kx ky) := by
  unfold shapesPicture
  rw [List.map_flatMap, List.map_flatMap]
  refine List.flatMap_congr fun s hs => ?_
  unfold Shape.picture Shape.pictureIn
  split_ifs
  · simp only [List.map_cons, List.map_nil, Geometry.points_outline_scaled]
  · rfl

/-! ### Surfaces -/

/-- What a surface shows after all shapes of a list have been painted on it anew. -/
def redrawn {α : Type} [Scalar α] (shapes : List (Shape α)) (s : Surface α) :
    List (Primitive α) :=
  (s.repaint (shapesPicture shapes)).1.primitives

/-- How many times as wide a surface is as another one. -/
def Viewport.widthOver {α : Type} [Scalar α] (w v : Viewport α) : α := w.width / v.width

/-- How many times as high a surface is as another one. -/
def Viewport.heightOver {α : Type} [Scalar α] (w v : Viewport α) : α := w.height / v.height

/-- Any surface is a larger or smaller one than a surface that has an area. -/
theorem viewport_eq_scaled (h : v.isEmpty = false) (w : Viewport ℝ) :
    w = v.scaled (w.widthOver v) (w.heightOver v) := by
  simp only [Viewport.isEmpty, Bool.or_eq_false_iff, decide_eq_false_iff_not] at h
  have hwidth : v.width ≠ 0 := fun hzero => h.1 hzero.le
  have hheight : v.height ≠ 0 := fun hzero => h.2 hzero.le
  unfold Viewport.scaled Viewport.widthOver Viewport.heightOver
  rw [div_mul_cancel₀ _ hwidth, div_mul_cancel₀ _ hheight]

/-- **Shapes are detected and painted alike on surfaces of different size**, over exact numbers:
what is selected is the same, and what is painted is larger or smaller by the factor. Without
circles the axes may differ: detection depends on the relative point alone (`detection_of_kind`),
and what is painted is stretched along each axis (`painting_of_kind`). Every point is painted at the
same place of the surface in any case (`points`). -/
structure ResolutionFree (shapes : List (Shape ℝ)) : Prop where
  detection (d : Detection) (v : Viewport ℝ) (pixel : Point ℝ) {k : ℝ} (hk : 0 < k) :
    d.pointerMove shapes ((v.scaled k k).toRelative (pixel.scaled k k)) (v.scaled k k) =
      d.pointerMove shapes (v.toRelative pixel) v
  painting {s t : Surface ℝ} (hs : s.IsFaultless) (ht : t.IsFaultless) {k : ℝ} (hk : 0 < k)
    (hsize : t.viewport = s.viewport.scaled k k) :
    redrawn shapes t = (redrawn shapes s).map (.scaled k k k)
  detection_of_kind (hkind : ∀ s ∈ shapes, s.kind ≠ .circle) (d : Detection) {v w : Viewport ℝ}
    {p q : Point ℝ} (hpoint : v.toRelative p = w.toRelative q) :
    d.pointerMove shapes (v.toRelative p) v = d.pointerMove shapes (w.toRelative q) w
  points {s t : Surface ℝ} (hs : s.IsFaultless) (ht : t.IsFaultless)
    (harea : s.viewport.isEmpty = false) :
    (redrawn shapes t).map (·.points) = (redrawn shapes s).map fun p => p.points.map
      (.scaled (t.viewport.widthOver s.viewport) (t.viewport.heightOver s.viewport))
  painting_of_kind (hkind : ∀ s ∈ shapes, s.kind ≠ .circle) {s t : Surface ℝ}
    (hs : s.IsFaultless) (ht : t.IsFaultless) (harea : s.viewport.isEmpty = false) :
    redrawn shapes t = (redrawn shapes s).map
      (.scaled (t.viewport.widthOver s.viewport) (t.viewport.heightOver s.viewport) 1)

/-- **Nothing but the number of pixels depends on the size of the surface.** -/
theorem resolutionFree (shapes : List (Shape ℝ)) : ResolutionFree shapes where
  detection d v pixel k hk := by
    unfold Detection.pointerMove
    rw [toRelative_scaled hk hk,
      Detection.shapeAt?_congr fun s _ => s.geometry.bounds?_scaled hk v]
  painting {s t} hs ht k hk hsize := by
    unfold redrawn
    rw [Surface.primitives_repaint hs, Surface.primitives_repaint ht, hsize]
    exact shapesPicture_scaled fun _ _ _ radius _ => effective_scaled hk.le _ radius
  detection_of_kind hkind d v w p q hpoint := by
    unfold Detection.pointerMove
    rw [hpoint, Detection.shapeAt?_congr fun s hs => Geometry.bounds?_of_kind (hkind s hs) v w]
  points {s t} hs ht harea := by
    unfold redrawn
    rw [Surface.primitives_repaint hs, Surface.primitives_repaint ht]
    conv_lhs => rw [viewport_eq_scaled harea t.viewport]
    exact points_shapesPicture_scaled shapes
  painting_of_kind hkind s t hs ht harea := by
    unfold redrawn
    rw [Surface.primitives_repaint hs, Surface.primitives_repaint ht]
    conv_lhs => rw [viewport_eq_scaled harea t.viewport]
    refine shapesPicture_scaled fun s hmem center radius hcircle => absurd ?_ (hkind s hmem)
    rw [Shape.kind, hcircle]
    rfl

end ShapeOverlay
