import Mathlib.Data.List.Forall2
import ShapeOverlay.Picture
import ShapeOverlay.Proofs.Scalar.Binary64
import ShapeOverlay.Proofs.Store.Identity

/-! # Pictures that are alike

Two points, geometries, shapes or primitives are alike if they are the same but for the signs of
zeros among their coordinates. Geometries that are taken for equal are alike (`alike_of_beq`), and
what is painted for shapes that are alike is alike (`Store.Alike.picture`, `Shape.Alike.highlight`,
`Overlay.alike_picture`). -/

namespace ShapeOverlay

open SignlessScalar

/-! ### The relation -/

/-- The same point but for the signs of zeros. -/
structure Point.Alike {α : Type} [BEq α] (p q : Point α) : Prop where
  x : Scalar.Alike p.x q.x
  y : Scalar.Alike p.y q.y

/-- The same radius but for the signs of zeros. -/
structure Radius.Alike {α : Type} [BEq α] (r s : Radius α) : Prop where
  x : Scalar.Alike r.x s.x
  y : Scalar.Alike r.y s.y

/-- The same box but for the signs of zeros. -/
structure Bounds.Alike {α : Type} [BEq α] (b c : Bounds α) : Prop where
  min : b.min.Alike c.min
  max : b.max.Alike c.max

/-- The same geometry but for the signs of zeros. -/
inductive Geometry.Alike {α : Type} [BEq α] : Geometry α → Geometry α → Prop where
  | rectangle {a b c d : Point α} : a.Alike c → b.Alike d → Alike (.rectangle a b) (.rectangle c d)
  | polygon {ps qs : List (Point α)} :
    List.Forall₂ Point.Alike ps qs → Alike (.polygon ps) (.polygon qs)
  | circle {c d : Point α} {r s : Radius α} :
    c.Alike d → r.Alike s → Alike (.circle c r) (.circle d s)

/-- The same shape but for the signs of zeros in its geometry. -/
structure Shape.Alike {α : Type} [BEq α] (s t : Shape α) : Prop where
  geometry : s.geometry.Alike t.geometry
  others : { s with geometry := t.geometry } = t

/-- The same list of shapes but for the signs of zeros in their geometries. -/
def Store.Alike {α : Type} [BEq α] (s t : Store α) : Prop :=
  List.Forall₂ Shape.Alike s.shapes t.shapes

/-- **The same primitive but for the signs of zeros.** -/
inductive Primitive.Alike {α : Type} [BEq α] : Primitive α → Primitive α → Prop where
  | path {ps qs : List (Point α)} {closed : Bool} {stroke : Stroke} :
    List.Forall₂ Point.Alike ps qs → Alike (.path ps closed stroke) (.path qs closed stroke)
  | circle {c d : Point α} {r s : α} {stroke : Stroke} :
    c.Alike d → Scalar.Alike r s → Alike (.circle c r stroke) (.circle d s stroke)
  | fill {b c : Bounds α} {color : String} : b.Alike c → Alike (.fill b color) (.fill c color)

/-! ### Reflexivity and transitivity -/

section Refl
variable {α : Type} [BEq α]

theorem Point.Alike.refl (p : Point α) : p.Alike p := ⟨.refl _, .refl _⟩

theorem Bounds.Alike.refl (b : Bounds α) : b.Alike b := ⟨.refl _, .refl _⟩

theorem Geometry.Alike.refl : ∀ g : Geometry α, g.Alike g
  | .rectangle a b => .rectangle (.refl a) (.refl b)
  | .polygon _ => .polygon (List.forall₂_same.mpr fun p _ => .refl p)
  | .circle c _ => .circle (.refl c) ⟨.refl _, .refl _⟩

theorem Shape.Alike.refl (s : Shape α) : s.Alike s := ⟨.refl _, rfl⟩

theorem Store.Alike.refl (s : Store α) : s.Alike s := List.forall₂_same.mpr fun t _ => .refl t

theorem Primitive.Alike.refl : ∀ p : Primitive α, p.Alike p
  | .path _ _ _ => .path (List.forall₂_same.mpr fun p _ => .refl p)
  | .circle c _ _ => .circle (.refl c) (.refl _)
  | .fill b _ => .fill (.refl b)

/-- Lists that are related stay so when related elements are written at one place. -/
theorem forall₂_set {β : Type} {R : β → β → Prop} {a b : β} (hab : R a b) :
    ∀ {l m : List β} (i : Nat), List.Forall₂ R l m → List.Forall₂ R (l.set i a) (m.set i b)
  | _, _, _, .nil => .nil
  | _, _, 0, .cons _ hs => .cons hab hs
  | _, _, i + 1, .cons h hs => .cons h (forall₂_set hab i hs)

end Refl

section Trans
variable {α : Type} [Scalar α] [OrderedScalar α]

/-- A relation between the elements of lists is transitive if it is between elements. -/
theorem forall₂_trans {β : Type} {R : β → β → Prop} (hR : ∀ a b c, R a b → R b c → R a c) :
    ∀ {l m n : List β}, List.Forall₂ R l m → List.Forall₂ R m n → List.Forall₂ R l n
  | _, _, _, .nil, .nil => .nil
  | _, _, _, .cons h hs, .cons h' hs' => .cons (hR _ _ _ h h') (forall₂_trans hR hs hs')

theorem Point.Alike.trans {p q r : Point α} (h : p.Alike q) (h' : q.Alike r) : p.Alike r :=
  ⟨h.x.trans h'.x, h.y.trans h'.y⟩

theorem Geometry.Alike.trans {f g h : Geometry α} (hf : f.Alike g) (hg : g.Alike h) :
    f.Alike h := by
  cases hf with
  | rectangle ha hb =>
    cases hg with
    | rectangle ha' hb' => exact .rectangle (ha.trans ha') (hb.trans hb')
  | polygon hps =>
    cases hg with
    | polygon hqs =>
      exact .polygon (forall₂_trans (R := Point.Alike) (fun _ _ _ => Point.Alike.trans) hps hqs)
  | circle hc hr =>
    cases hg with
    | circle hc' hr' => exact .circle (hc.trans hc') ⟨hr.x.trans hr'.x, hr.y.trans hr'.y⟩

theorem Shape.Alike.trans {s t u : Shape α} (hs : s.Alike t) (ht : t.Alike u) : s.Alike u := by
  refine ⟨hs.geometry.trans ht.geometry, ?_⟩
  rw [← ht.others, ← hs.others]

theorem Primitive.Alike.trans {p q r : Primitive α} (h : p.Alike q) (h' : q.Alike r) :
    p.Alike r := by
  cases h with
  | path h =>
    cases h' with
    | path h' =>
      exact .path (forall₂_trans (R := Point.Alike) (fun _ _ _ => Point.Alike.trans) h h')
  | circle h hr =>
    cases h' with
    | circle h' hr' => exact .circle (h.trans h') (hr.trans hr')
  | fill h =>
    cases h' with
    | fill h' => exact .fill ⟨h.min.trans h'.min, h.max.trans h'.max⟩

theorem Primitive.forall₂_trans {ps qs rs : List (Primitive α)}
    (h : List.Forall₂ Primitive.Alike ps qs) (h' : List.Forall₂ Primitive.Alike qs rs) :
    List.Forall₂ Primitive.Alike ps rs :=
  ShapeOverlay.forall₂_trans (R := Primitive.Alike) (fun _ _ _ => Primitive.Alike.trans) h h'

/-! ### Geometries that are taken for equal -/

omit [OrderedScalar α] in
theorem Point.alike_of_beq {p q : Point α} (h : (p == q) = true) : p.Alike q := by
  have h : (p.x == q.x && p.y == q.y) = true := h
  rw [Bool.and_eq_true] at h
  exact ⟨Or.inr h.1, Or.inr h.2⟩

omit [OrderedScalar α] in
theorem Point.forall₂_alike_of_beq : ∀ {ps qs : List (Point α)}, (ps == qs) = true →
    List.Forall₂ Point.Alike ps qs
  | [], [], _ => .nil
  | p :: ps, q :: qs, h => by
    rw [List.cons_beq_cons, Bool.and_eq_true] at h
    exact .cons (alike_of_beq h.1) (forall₂_alike_of_beq h.2)

omit [OrderedScalar α] in
/-- **Geometries that are taken for equal are alike.** -/
theorem Geometry.alike_of_beq {g h : Geometry α} (heq : (g == h) = true) : g.Alike h := by
  cases g <;> cases h <;> try cases heq
  case rectangle.rectangle a b c d =>
    have heq : (a == c && b == d) = true := heq
    rw [Bool.and_eq_true] at heq
    exact .rectangle (Point.alike_of_beq heq.1) (Point.alike_of_beq heq.2)
  case polygon.polygon ps qs => exact .polygon (Point.forall₂_alike_of_beq heq)
  case circle.circle c r d s =>
    have heq : (c == d && (r.x == s.x && r.y == s.y)) = true := heq
    rw [Bool.and_eq_true, Bool.and_eq_true] at heq
    exact .circle (Point.alike_of_beq heq.1) ⟨Or.inr heq.2.1, Or.inr heq.2.2⟩

end Trans

/-! ### Boxes -/

section Boxes
variable {α : Type} [Scalar α] [SignlessScalar α]

theorem Point.Alike.toPixels {p q : Point α} (h : p.Alike q) (v : Viewport α) :
    (v.toPixels p).Alike (v.toPixels q) :=
  ⟨alike_mul h.x (.refl _), alike_mul h.y (.refl _)⟩

theorem Radius.Alike.effective {r s : Radius α} (h : r.Alike s) (v : Viewport α) :
    Scalar.Alike (r.effective v) (s.effective v) :=
  alike_norm (alike_mul h.x (.refl _)) (alike_mul h.y (.refl _))

namespace Bounds

theorem alike_ofCorners {a b c d : Point α} (h : a.Alike c) (h' : b.Alike d) :
    (ofCorners a b).Alike (ofCorners c d) :=
  ⟨⟨h.x.lesser h'.x, h.y.lesser h'.y⟩, ⟨h.x.greater h'.x, h.y.greater h'.y⟩⟩

theorem Alike.stretch {b c : Bounds α} (h : b.Alike c) {p q : Point α} (h' : p.Alike q) :
    (b.stretch p).Alike (c.stretch q) :=
  ⟨⟨h.min.x.lesser h'.x, h.min.y.lesser h'.y⟩, ⟨h.max.x.greater h'.x, h.max.y.greater h'.y⟩⟩

theorem alike_ofPoints? : ∀ {ps qs : List (Point α)}, List.Forall₂ Point.Alike ps qs →
    Option.Rel Bounds.Alike (ofPoints? ps) (ofPoints? qs)
  | _, _, .nil => .none
  | _, _, .cons h hs => .some (List.rel_foldl (fun _ _ hb _ _ hp => hb.stretch hp) ⟨h, h⟩ hs)

theorem alike_around {c d : Point α} (h : c.Alike d) {rx ry sx sy : α} (hx : Scalar.Alike rx sx)
    (hy : Scalar.Alike ry sy) : (around c rx ry).Alike (around d sx sy) :=
  ⟨⟨alike_sub h.x hx, alike_sub h.y hy⟩, ⟨alike_add h.x hx, alike_add h.y hy⟩⟩

omit [SignlessScalar α] in
theorem Alike.corners {b c : Bounds α} (h : b.Alike c) :
    List.Forall₂ Point.Alike b.corners c.corners :=
  .cons h.min (.cons ⟨h.max.x, h.min.y⟩ (.cons h.max (.cons ⟨h.min.x, h.max.y⟩ .nil)))

end Bounds

theorem Point.forall₂_toPixels {ps qs : List (Point α)} (h : List.Forall₂ Point.Alike ps qs)
    (v : Viewport α) : List.Forall₂ Point.Alike (ps.map v.toPixels) (qs.map v.toPixels) :=
  List.rel_map (fun _ _ hp => hp.toPixels v) h

theorem Geometry.Alike.bounds? {g h : Geometry α} (hg : g.Alike h) (v : Viewport α) :
    Option.Rel Bounds.Alike (g.bounds? v) (h.bounds? v) := by
  cases hg with
  | rectangle ha hb => exact .some (Bounds.alike_ofCorners ha hb)
  | polygon hps => exact Bounds.alike_ofPoints? hps
  | circle hc hr =>
    unfold Geometry.bounds?
    split_ifs
    · exact .some (Bounds.alike_around hc (.refl _) (.refl _))
    · have heff := hr.effective v
      exact .some (Bounds.alike_around hc (alike_div _ heff) (alike_div _ heff))

/-! ### Pictures of shapes -/

theorem Geometry.Alike.outline {g h : Geometry α} (hg : g.Alike h) (stroke : Stroke)
    (isOpen : Bool) (v : Viewport α) :
    (g.outline stroke isOpen v).Alike (h.outline stroke isOpen v) := by
  cases hg with
  | rectangle ha hb =>
    exact .path (Point.forall₂_toPixels (Bounds.alike_ofCorners ha hb).corners v)
  | polygon hps => exact .path (Point.forall₂_toPixels hps v)
  | circle hc hr => exact .circle (hc.toPixels v) (hr.effective v)

namespace Shape.Alike

variable {s t : Shape α}

theorem pictureIn (h : s.Alike t) (stroke : Stroke) (isOpen : Bool) (v : Viewport α) :
    List.Forall₂ Primitive.Alike (s.pictureIn stroke isOpen v) (t.pictureIn stroke isOpen v) := by
  have hvisible : s.isVisible = t.isVisible := by
    rw [← h.others]
    rfl
  unfold Shape.pictureIn
  rw [hvisible]
  split_ifs
  · exact .cons (h.geometry.outline stroke isOpen v) .nil
  · exact .nil

theorem picture (h : s.Alike t) (isOpen : Bool) (v : Viewport α) :
    List.Forall₂ Primitive.Alike (s.picture isOpen v) (t.picture isOpen v) := by
  have hstroke : s.stroke = t.stroke := by
    rw [← h.others]
    rfl
  unfold Shape.picture
  rw [hstroke]
  exact h.pictureIn _ isOpen v

theorem highlight (h : s.Alike t) (theme : Theme) (v : Viewport α) :
    List.Forall₂ Primitive.Alike (s.highlight theme v) (t.highlight theme v) :=
  h.pictureIn _ false v

end Shape.Alike

/-! ### Stores -/

namespace Store.Alike

variable {s t : Store α}

theorem picture (h : s.Alike t) (v : Viewport α) :
    List.Forall₂ Primitive.Alike (s.picture v) (t.picture v) :=
  List.rel_flatMap h fun _ _ hst => hst.picture false v

end Store.Alike

end Boxes

/-! ### Shapes in a list -/

namespace Store.Alike

variable {α : Type} [BEq α] {s t : Store α}

/-- Lists whose elements are related have related elements at each place, or none. -/
theorem rel_getElem? {β : Type} {R : β → β → Prop} : ∀ {l m : List β}, List.Forall₂ R l m →
    ∀ i : Nat, Option.Rel R l[i]? m[i]?
  | _, _, .nil, _ => .none
  | _, _, .cons h _, 0 => .some h
  | _, _, .cons _ hs, i + 1 => rel_getElem? hs i

theorem map_id (h : s.Alike t) : s.shapes.map (·.id) = t.shapes.map (·.id) := by
  have hid : ∀ {a b : Shape α}, a.Alike b → a.id = b.id := fun hab => by rw [← hab.others]
  rw [← List.forall₂_eq_eq_eq, List.forall₂_map_left_iff, List.forall₂_map_right_iff]
  exact h.imp fun _ _ => hid

theorem indexOf? (h : s.Alike t) (id : Identifier) : s.indexOf? id = t.indexOf? id :=
  Store.indexOf?_congr h.map_id id

theorem lookup (h : s.Alike t) (id : Identifier) :
    Option.Rel Shape.Alike (s.lookup id) (t.lookup id) := by
  unfold Store.lookup
  rw [h.indexOf?]
  cases t.indexOf? id with
  | none => exact .none
  | some i => exact rel_getElem? h i

/-- Writing a geometry that is alike gives a list that is alike. -/
theorem modify {i : Nat} {shape shape' : Shape α} (hi : s.get? i = some shape)
    (h : shape'.Alike shape) : (s.modify i fun _ => shape').Alike s := by
  have hset := forall₂_set h i (Store.Alike.refl s)
  rw [Store.set_of_get? hi, List.set_eq_modify] at hset
  exact hset

end Store.Alike

/-! ### Handles -/

namespace Geometry

variable {α : Type} [Scalar α]

variable [SignlessScalar α] {g h : Geometry α}

theorem Alike.handles (hg : g.Alike h) (v : Viewport α) :
    List.Forall₂ Point.Alike ((g.handles v).map (·.2)) ((h.handles v).map (·.2)) := by
  rw [map_snd_handles, map_snd_handles]
  cases hg with
  | rectangle ha hb => exact (Bounds.alike_ofCorners ha hb).corners
  | polygon hps => exact hps
  | @circle c d r s hc hr =>
    have hhandle : (radiusHandle c (r.effective v) v).Alike (radiusHandle d (s.effective v) v) := by
      unfold radiusHandle
      split_ifs
      · exact hc
      · exact ⟨hc.x, alike_sub hc.y (alike_div _ (hr.effective v))⟩
    exact .cons hhandle .nil

theorem Alike.overlay? (hg : g.Alike h) (v : Viewport α) :
    Option.Rel (fun o p : Overlay α => o.mover.Alike p.mover ∧
      List.Forall₂ Point.Alike o.handles p.handles) (g.overlay? v) (h.overlay? v) := by
  have hb := hg.bounds? v
  unfold Geometry.overlay?
  revert hb
  generalize g.bounds? v = b, h.bounds? v = c
  rintro (hb | -)
  · refine .some ⟨Bounds.alike_ofCorners (hb.min.toPixels v) (hb.max.toPixels v), ?_⟩
    have hmap : ∀ k : Geometry α, (k.handles v).map (fun x => v.toPixels x.2) =
        ((k.handles v).map (·.2)).map v.toPixels := fun k => by rw [List.map_map]; rfl
    rw [hmap, hmap]
    exact Point.forall₂_toPixels (hg.handles v) v
  · exact .none

end Geometry

/-- What is painted of an overlay with handles that are alike is alike. -/
theorem Overlay.alike_picture {o p : Overlay Float} (hm : o.mover.Alike p.mover)
    (hh : List.Forall₂ Point.Alike o.handles p.handles) (theme : Theme) :
    List.Forall₂ Primitive.Alike (o.picture theme) (p.picture theme) := by
  refine .cons (.fill hm) (List.rel_flatMap hh fun c d hcd => ?_)
  have hsquare : (handleSquare theme c).Alike (handleSquare theme d) :=
    Bounds.alike_around hcd (.refl _) (.refl _)
  exact .cons (.fill hsquare) (.cons (.path hsquare.corners) .nil)

end ShapeOverlay
