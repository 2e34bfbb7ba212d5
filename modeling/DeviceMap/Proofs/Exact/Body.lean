import Mathlib
import DeviceMap.Proofs.Exact.Isometric
import DeviceMap.Proofs.Exact.Segment

/-! The body of a marker over the exact reals. The three faces fit together without
gaps and without overlap, and fill a hexagon around the anchor that is its own
mirror image. A raised marker also has whatever is near one of its three strokes. -/
namespace DeviceMap.Marker
open Exact

/-- The faces of the cube. -/
inductive Face where
  | top
  | left
  | right

/-- Whether a point relative to the marker lies on a face. -/
def Face.covers {α : Type} [Scalar α] (face : Face) (p : Vec2 α) : Bool :=
  match face with
  | .top => inRect p ⟨0, -size⟩ ⟨size, 0⟩
  | .left => inRect (unskewY p) ⟨-size, -size⟩ .zero
  | .right => inRect (skewX p) .zero ⟨size, size⟩

/-- The points of a face as pairs of coordinates. -/
def Face.region (face : Face) : Set (ℝ × ℝ) := {p | face.covers (⟨p.1, p.2⟩ : Vec2 ℝ) = true}

/-- The hexagon that the faces fill, as pairs of coordinates. -/
def hexagon : Set (ℝ × ℝ) := {p | |p.1| ≤ 40 ∧ |p.2| ≤ 40 ∧ |p.1 + p.2| ≤ 40}

/-- The corners of the hexagon, each one next to the one before. -/
def corners : Set (ℝ × ℝ) := {(40, -40), (40, 0), (0, 40), (-40, 40), (-40, 0), (0, -40)}

section Bands

/-- What a linear form takes to no more than the size, to both sides. -/
def band (form : ℝ × ℝ →L[ℝ] ℝ) : Set (ℝ × ℝ) := {p | |form p| ≤ 40}

variable (form : ℝ × ℝ →L[ℝ] ℝ)

theorem band_eq : band form = Set.preimage form (Set.Icc (-40) 40) := by
  ext p
  exact abs_le (a := form p)

theorem band_closed : IsClosed (band form) := by
  rw [band_eq]
  exact isClosed_Icc.preimage form.continuous

theorem band_convex : Convex ℝ (band form) := by
  rw [band_eq]
  exact (convex_Icc (-40 : ℝ) 40).linear_preimage form.toLinearMap

theorem band_around : band form ∈ nhds 0 := by
  rw [band_eq]
  apply form.continuous.continuousAt.preimage_mem_nhds
  rw [map_zero]
  exact Icc_mem_nhds (by norm_num) (by norm_num)

/-- The sum of the coordinates. -/
noncomputable def total : ℝ × ℝ →L[ℝ] ℝ := .fst ℝ ℝ ℝ + .snd ℝ ℝ ℝ

theorem hexagon_eq : hexagon = band (.fst ℝ ℝ ℝ) ∩ (band (.snd ℝ ℝ ℝ) ∩ band total) := rfl

end Bands

theorem hexagon_closed : IsClosed hexagon := by
  rw [hexagon_eq]
  exact (band_closed _).inter ((band_closed _).inter (band_closed _))

theorem hexagon_convex : Convex ℝ hexagon := by
  rw [hexagon_eq]
  exact (band_convex _).inter ((band_convex _).inter (band_convex _))

theorem hexagon_around : 0 ∈ interior hexagon := by
  rw [hexagon_eq, mem_interior_iff_mem_nhds]
  exact Filter.inter_mem (band_around _) (Filter.inter_mem (band_around _) (band_around _))

theorem hexagon_symmetric : -hexagon = hexagon := by
  ext p
  change |-p.1| ≤ 40 ∧ |-p.2| ≤ 40 ∧ |-p.1 + -p.2| ≤ 40 ↔ _
  rw [abs_neg, abs_neg, ← neg_add, abs_neg]
  rfl

section Faces

theorem onFace_iff_covers {p : Vec2 ℝ} : onFace p = true ↔ ∃ face : Face, face.covers p = true := by
  constructor
  · intro touched
    rcases Bool.or_eq_true_iff.mp touched with touched | right
    · rcases Bool.or_eq_true_iff.mp touched with top | left
      · exact ⟨.top, top⟩
      · exact ⟨.left, left⟩
    · exact ⟨.right, right⟩
  · rintro ⟨face, covered⟩
    unfold onFace
    cases face <;> simp_all [Face.covers]

theorem hexagon_faces : hexagon = ⋃ face : Face, face.region := by
  ext p
  rw [Set.mem_iUnion]
  have touched : onFace (⟨p.1, p.2⟩ : Vec2 ℝ) = true ↔ p ∈ hexagon := onFace_iff
  exact touched.symm.trans onFace_iff_covers

section Regions
variable {p : ℝ × ℝ}

theorem Face.mem_top : p ∈ Face.top.region ↔ (0 ≤ p.1 ∧ p.1 ≤ 40) ∧ -40 ≤ p.2 ∧ p.2 ≤ 0 := by
  change inRect _ _ _ = true ↔ _
  simp only [inRect_iff, size_eq, literal, Nat.cast_zero]

theorem Face.mem_left :
    p ∈ Face.left.region ↔ (-40 ≤ p.1 ∧ p.1 ≤ 0) ∧ -40 ≤ p.1 + p.2 ∧ p.1 + p.2 ≤ 0 := by
  change inRect _ _ _ = true ↔ _
  simp only [inRect_iff, unskewY, Vec2.zero, size_eq, literal, Nat.cast_zero, add_comm p.2]

theorem Face.mem_right :
    p ∈ Face.right.region ↔ (0 ≤ p.1 + p.2 ∧ p.1 + p.2 ≤ 40) ∧ 0 ≤ p.2 ∧ p.2 ≤ 40 := by
  change inRect _ _ _ = true ↔ _
  simp only [inRect_iff, skewX, Vec2.zero, size_eq, literal, Nat.cast_zero]

end Regions

/-- Regions on both sides of a line through the anchor share no more than the line. -/
theorem interiors_disjoint {form : ℝ × ℝ →L[ℝ] ℝ} (inclined : form ≠ 0) {low high : Set (ℝ × ℝ)}
    (below : ∀ p ∈ low, form p ≤ 0) (above : ∀ p ∈ high, 0 ≤ form p) :
    Disjoint (interior low) (interior high) := by
  have line : low ∩ high ⊆ (form.toLinearMap.ker : Set (ℝ × ℝ)) := fun p ⟨lower, higher⟩ =>
    le_antisymm (below p lower) (above p higher)
  rw [Set.disjoint_iff_inter_eq_empty, ← interior_inter]
  by_contra thick
  have open_line := (Set.nonempty_iff_ne_empty.mpr thick).mono (interior_mono line)
  have whole := Submodule.eq_top_of_nonempty_interior' _ open_line
  exact inclined (ContinuousLinearMap.coe_injective (LinearMap.ker_eq_top.mp whole))

theorem Face.regions_disjoint :
    Pairwise (Function.onFun Disjoint fun face : Face => interior face.region) := by
  have across : (.fst ℝ ℝ ℝ : ℝ × ℝ →L[ℝ] ℝ) ≠ 0 := fun zero => by
    simpa using DFunLike.congr_fun zero (1, 0)
  have along : (.snd ℝ ℝ ℝ : ℝ × ℝ →L[ℝ] ℝ) ≠ 0 := fun zero => by
    simpa using DFunLike.congr_fun zero (0, 1)
  have aslant : total ≠ 0 := fun zero => by simpa [total] using DFunLike.congr_fun zero (1, 0)
  have topLeft : Disjoint (interior Face.top.region) (interior Face.left.region) :=
    (interiors_disjoint across (fun _ covered => (mem_left.mp covered).1.2)
      fun _ covered => (mem_top.mp covered).1.1).symm
  have topRight : Disjoint (interior Face.top.region) (interior Face.right.region) :=
    interiors_disjoint along (fun _ covered => (mem_top.mp covered).2.2)
      fun _ covered => (mem_right.mp covered).2.1
  have leftRight : Disjoint (interior Face.left.region) (interior Face.right.region) :=
    interiors_disjoint aslant (fun _ covered => (mem_left.mp covered).2.2)
      fun _ covered => (mem_right.mp covered).1.1
  intro first second apart
  cases first <;> cases second
  case top.left => exact topLeft
  case top.right => exact topRight
  case left.right => exact leftRight
  case left.top => exact topLeft.symm
  case right.top => exact topRight.symm
  case right.left => exact leftRight.symm
  all_goals exact absurd rfl apart

end Faces

section Corners

/-- The parallelogram of two offsets from the anchor lies in every convex set with its corners. -/
theorem parallelogram_inside {s : Set (ℝ × ℝ)} (convex : Convex ℝ s) {u v : ℝ × ℝ}
    (anchor : 0 ∈ s) (first : u ∈ s) (second : v ∈ s) (both : u + v ∈ s) {a b : ℝ}
    (across : a ∈ Set.Icc (0 : ℝ) 1) (along : b ∈ Set.Icc (0 : ℝ) 1) : a • u + b • v ∈ s := by
  have near : a • u ∈ s := by
    simpa using convex anchor first (sub_nonneg.mpr across.2) across.1 (sub_add_cancel 1 a)
  have far : a • u + v ∈ s := by
    have edge := convex second both (sub_nonneg.mpr across.2) across.1 (sub_add_cancel 1 a)
    have same : (1 - a) • v + a • (u + v) = a • u + v := by module
    rwa [same] at edge
  have between := convex near far (sub_nonneg.mpr along.2) along.1 (sub_add_cancel 1 b)
  have same : (1 - b) • a • u + b • (a • u + v) = a • u + b • v := by module
  rwa [same] at between

/-- The two corners of a face next to the anchor; the one across is their sum. -/
def Face.sides : Face → (ℝ × ℝ) × (ℝ × ℝ)
  | .top => ((40, 0), (0, -40))
  | .left => ((-40, 40), (0, -40))
  | .right => ((40, 0), (-40, 40))

theorem Face.sides_corners (face : Face) : face.sides.1 ∈ corners ∧ face.sides.2 ∈ corners ∧
    face.sides.1 + face.sides.2 ∈ corners := by
  cases face <;> norm_num [sides, corners]

theorem Face.within_sides {face : Face} {p : ℝ × ℝ} (covered : p ∈ face.region) :
    ∃ a ∈ Set.Icc (0 : ℝ) 1, ∃ b ∈ Set.Icc (0 : ℝ) 1, a • face.sides.1 + b • face.sides.2 = p := by
  cases face with
  | top =>
    obtain ⟨⟨west, east⟩, north, south⟩ := mem_top.mp covered
    refine ⟨p.1 / 40, ⟨by linarith, by linarith⟩, -p.2 / 40, ⟨by linarith, by linarith⟩, ?_⟩
    ext <;> simp [sides]
  | left =>
    obtain ⟨⟨west, east⟩, above, below⟩ := mem_left.mp covered
    refine ⟨-p.1 / 40, ⟨by linarith, by linarith⟩, -(p.1 + p.2) / 40,
      ⟨by linarith, by linarith⟩, ?_⟩
    ext <;> simp [sides]
  | right =>
    obtain ⟨⟨above, below⟩, north, south⟩ := mem_right.mp covered
    refine ⟨(p.1 + p.2) / 40, ⟨by linarith, by linarith⟩, p.2 / 40, ⟨by linarith, by linarith⟩, ?_⟩
    ext <;> simp [sides]

theorem anchor_inside : 0 ∈ convexHull ℝ corners := by
  have inside := subset_convexHull ℝ corners
  have northeast : ((40, -40) : ℝ × ℝ) ∈ corners := by simp [corners]
  have southwest : ((-40, 40) : ℝ × ℝ) ∈ corners := by simp [corners]
  have middle := convex_convexHull ℝ corners (inside northeast) (inside southwest)
    (by norm_num : (0 : ℝ) ≤ 1 / 2) (by norm_num : (0 : ℝ) ≤ 1 / 2) (by norm_num)
  norm_num at middle
  exact middle

/-- The hexagon is what lies between its six corners. -/
theorem hexagon_hull : hexagon = convexHull ℝ corners := by
  apply Set.Subset.antisymm
  · rw [hexagon_faces]
    refine Set.iUnion_subset fun face p covered => ?_
    obtain ⟨first, second, across⟩ := face.sides_corners
    obtain ⟨a, aInside, b, bInside, rfl⟩ := Face.within_sides covered
    have inside := subset_convexHull ℝ corners
    exact parallelogram_inside (convex_convexHull ℝ corners) anchor_inside (inside first)
      (inside second) (inside across) aInside bInside
  · refine convexHull_min ?_ hexagon_convex
    rintro p (rfl | rfl | rfl | rfl | rfl | rfl) <;> norm_num [hexagon]

end Corners

section Stem

theorem strokes_eq (elevation : ℝ) : strokes elevation =
    [(⟨-40, 40⟩, ⟨-40 - elevation, 40 + elevation⟩),
      (⟨-40 - elevation, 30 + elevation⟩, ⟨-40 - elevation, 50 + elevation⟩),
      (⟨-50 - elevation, 40 + elevation⟩, ⟨-30 - elevation, 40 + elevation⟩)] := by
  have half : (arrowHalfLength : ℝ) = 10 := by simp [arrowHalfLength]
  simp only [strokes, skewY, skewX, size_eq, half, literal, Nat.cast_zero, List.cons.injEq,
    Prod.mk.injEq, Vec2.mk.injEq, true_and, and_true]
  refine ⟨⟨?_, ?_, ?_⟩, ⟨⟨?_, ?_⟩, ?_, ?_⟩, ⟨?_, ?_⟩, ?_, ?_⟩ <;> ring

theorem onStem_iff {p : Vec2 ℝ} {elevation : ℝ} : onStem p elevation = true ↔ elevation ≠ 0 ∧
    (p.Within ⟨-40, 40⟩ ⟨-40 - elevation, 40 + elevation⟩ (5 / 2) ∨
      p.Within ⟨-40 - elevation, 30 + elevation⟩ ⟨-40 - elevation, 50 + elevation⟩ (5 / 2) ∨
      p.Within ⟨-50 - elevation, 40 + elevation⟩ ⟨-30 - elevation, 40 + elevation⟩ (5 / 2)) := by
  have half : (stemHalfWidth : ℝ) = 5 / 2 := by
    unfold stemHalfWidth
    norm_num
  simp only [onStem, strokes_eq, half, literal, Nat.cast_zero, List.any_cons, List.any_nil,
    Bool.or_false, Bool.and_eq_true, Bool.or_eq_true, decide_eq_true_eq, bne_iff_ne,
    distanceToSegment_le_iff]

end Stem

/-- The three faces of a marker fill the hexagon between six corners around the anchor, each
point of it once but for the edges. It is closed and convex, and its own mirror image about
the anchor. A marker on the ground is that hexagon. A raised one is the hexagon with all
that is within half the width of a stroke from its stem, which goes from a corner toward
the ground, or from one of the two strokes that cross at the end of the stem. -/
theorem body_geometry :
    (∀ p : Vec2 ℝ, contains p 0 = true ↔ |p.x| ≤ 40 ∧ |p.y| ≤ 40 ∧ |p.x + p.y| ≤ 40) ∧
    (hexagon = ⋃ face : Face, face.region) ∧
    Pairwise (Function.onFun Disjoint fun face : Face => interior face.region) ∧
    (hexagon = convexHull ℝ corners ∧ IsClosed hexagon ∧ Convex ℝ hexagon ∧
      0 ∈ interior hexagon ∧ -hexagon = hexagon) ∧
    ∀ (p : Vec2 ℝ) (elevation : ℝ), contains p elevation = true ↔
      (|p.x| ≤ 40 ∧ |p.y| ≤ 40 ∧ |p.x + p.y| ≤ 40) ∨ elevation ≠ 0 ∧
        (p.Within ⟨-40, 40⟩ ⟨-40 - elevation, 40 + elevation⟩ (5 / 2) ∨
          p.Within ⟨-40 - elevation, 30 + elevation⟩ ⟨-40 - elevation, 50 + elevation⟩ (5 / 2) ∨
          p.Within ⟨-50 - elevation, 40 + elevation⟩ ⟨-30 - elevation, 40 + elevation⟩ (5 / 2)) := by
  refine ⟨fun p => contains_grounded.trans onFace_iff, hexagon_faces, Face.regions_disjoint,
    ⟨hexagon_hull, hexagon_closed, hexagon_convex, hexagon_around, hexagon_symmetric⟩,
    fun p elevation => ?_⟩
  rw [contains, Bool.or_eq_true, onFace_iff, onStem_iff]

end DeviceMap.Marker
