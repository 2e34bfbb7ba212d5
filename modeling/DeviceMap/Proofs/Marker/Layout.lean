import DeviceMap.Proofs.Device.Listed
import DeviceMap.Proofs.Exact.Body
import DeviceMap.Proofs.Marker.Topmost

/-! What is drawn is what can be pressed. A placement holds all that hit testing
looks at of a device, so that a press can be resolved among the markers as they are
drawn. Over the exact reals this includes the elevation, which is what the length of
a stem has beyond the size of the marker, and every point along a stem lands on its
device unless a later one covers it. -/
namespace DeviceMap
open Exact

namespace Vec2

theorem distance_self (p : Vec2 ℝ) : p.distance p = 0 := by
  change √((p.x - p.x) * (p.x - p.x) + (p.y - p.y) * (p.y - p.y)) = 0
  simp

/-- A point of a segment is within every radius of it. -/
theorem between_within (a b : Vec2 ℝ) {share radius : ℝ} (inside : share ∈ Set.Icc (0 : ℝ) 1)
    (wide : 0 ≤ radius) : (a.between b share).Within a b radius :=
  ⟨share, inside, (distance_self _).trans_le wide⟩

end Vec2

namespace Target
variable {α : Type} [Scalar α]

/-- A target names a device by its marker, or by its handle if it is the selected one. -/
def Names (selected : Option Mac) (device : Device α) (target : Target) : Prop :=
  target = .marker device.mac ∨ target = .handle ∧ selected = some device.mac

variable {devices : List (Device α)} {selected : Option Mac} {point : Vec2 α} {place : Nat}
  {device : Device α} (finite : point.isFinite)
include finite

theorem topmost_named (topmost : Topmost devices selected point place device) :
    Names selected device (ofPoint devices selected point) := by
  rw [ofPoint_topmost finite topmost]
  split
  · rename_i handle
    exact .inr ⟨rfl, handle.1⟩
  · exact .inl rfl

/-- Where a point touches a device, it lands on that one or on one that is drawn over it. -/
theorem names_above (entry : devices[place]? = some device)
    (touched : Touches selected point device) : ∃ above other, place ≤ above ∧
      devices[above]? = some other ∧ Names selected other (ofPoint devices selected point) := by
  obtain ⟨above, other, topmost⟩ := topmost_exists ⟨device, List.mem_of_getElem? entry, touched⟩
  refine ⟨above, other, ?_, topmost.entry, topmost_named finite topmost⟩
  by_contra below
  exact topmost.last place device (Nat.lt_of_not_le below) entry touched

end Target

namespace Marker

section Drawn
variable {α : Type} [Scalar α]

/-- The elevation that a drawn stem tells of. A marker without one is on the ground. -/
def Placement.elevation (entry : Placement α) : α := entry.stem.elim 0 fun length => length - size

/-- What a point lands on among the handle and the body of a marker as they are drawn. -/
def Placement.hit? (point : Vec2 α) (entry : Placement α) : Option Target :=
  if entry.selected ∧ onHandle (point - entry.anchor) then some .handle
  else if contains (point - entry.anchor) entry.elevation then some (.marker entry.mac)
  else none

/-- At most one marker is drawn as selected, and none if the selected device is missing. -/
theorem layout_selected {devices : List (Device α)} (distinct : Device.Distinct devices)
    (selected : Option Mac) : (layout devices selected).countP (·.selected) =
      if ∃ device ∈ devices, selected = some device.mac then 1 else 0 := by
  have flagged : (layout devices selected).countP (·.selected) =
      (devices.map Device.mac).countP fun mac => selected == some mac := by
    rw [layout, List.countP_map, List.countP_map]
    rfl
  rw [flagged]
  cases selected with
  | none => simp
  | some mac =>
    have counted := distinct.count (a := mac)
    rw [List.count_eq_countP] at counted
    simpa [eq_comm, beq_eq_decide] using counted

end Drawn

variable {selected : Option Mac} {device : Device ℝ}

theorem place_stem : (place selected device).stem =
    if device.position.y ≠ 0 then some (40 + device.position.y) else none := by
  simp only [place, size_eq, literal, Nat.cast_zero, bne_iff_ne]

theorem place_elevation : (place selected device).elevation = device.position.y := by
  rw [Placement.elevation, place_stem, size_eq]
  split
  · rw [Option.elim_some, add_sub_cancel_left]
  · rename_i level
    rw [Option.elim_none, not_not.mp level, literal, Nat.cast_zero]

/-- Hit testing sees a device as it is drawn. -/
theorem place_hit (point : Vec2 ℝ) :
    (place selected device).hit? point = Target.onDevice? selected point device := by
  unfold Placement.hit? Target.onDevice?
  rw [place_elevation]
  simp [place]

theorem layout_hit (devices : List (Device ℝ)) (selected : Option Mac) (point : Vec2 ℝ) :
    Target.ofPoint devices selected point =
      ((layout devices selected).reverse.findSome? (Placement.hit? point)).getD .background := by
  have finite : point.isFinite = true := rfl
  have seen : Placement.hit? point ∘ place selected = Target.onDevice? selected point :=
    funext fun _ => place_hit point
  rw [layout, ← List.map_reverse, List.findSome?_map, seen, Target.ofPoint, if_pos finite]

/-- A stem begins at the anchor and crosses the left face before it leaves the marker. -/
theorem stem_inside {elevation s : ℝ} (inside : s ∈ Set.Icc 0 (40 + elevation)) :
    contains (⟨-s, s⟩ : Vec2 ℝ) elevation = true := by
  obtain ⟨begun, ended⟩ := inside
  rw [contains, Bool.or_eq_true, onFace_iff, onStem_iff]
  rcases le_or_gt s 40 with near | far
  · left
    rw [abs_neg, abs_of_nonneg begun]
    exact ⟨near, near, by norm_num⟩
  · right
    have raised : 0 < elevation := by linarith
    have share : (s - 40) / elevation ∈ Set.Icc (0 : ℝ) 1 :=
      ⟨div_nonneg (by linarith) raised.le, (div_le_one raised).mpr (by linarith)⟩
    have reached : (⟨-40, 40⟩ : Vec2 ℝ).between ⟨-40 - elevation, 40 + elevation⟩
        ((s - 40) / elevation) = ⟨-s, s⟩ := by
      change (⟨-40 + (-40 - elevation - -40) * ((s - 40) / elevation),
        40 + (40 + elevation - 40) * ((s - 40) / elevation)⟩ : Vec2 ℝ) = ⟨-s, s⟩
      have along : elevation * ((s - 40) / elevation) = s - 40 := mul_div_cancel₀ _ raised.ne'
      congr 1
      · linear_combination -along
      · linear_combination along
    refine ⟨raised.ne', .inl ?_⟩
    rw [← reached]
    exact Vec2.between_within _ _ share (by norm_num)

/-- An entry draws a device as hit testing sees it. -/
structure Draws (selected : Option Mac) (device : Device ℝ) (entry : Placement ℝ) : Prop where
  named : entry.mac = device.mac
  anchored : entry.anchor = anchor device.position
  /-- Among the handle and the marker of this device, every press lands on what is drawn. -/
  pressed : ∀ point, entry.hit? point = Target.onDevice? selected point device
  flagged : entry.selected = true ↔ selected = some device.mac
  stemmed : entry.stem.isSome = true ↔ device.position.y ≠ 0

theorem place_draws (selected : Option Mac) (device : Device ℝ) :
    Draws selected device (place selected device) :=
  ⟨rfl, rfl, place_hit, by simp [place], by simp [place_stem]⟩

theorem along_anchor (position : Vec3 ℝ) (s : ℝ) :
    anchor position + ⟨-s, s⟩ = ⟨-position.x + position.y - s, position.z - position.y + s⟩ := by
  rw [anchor, Vec2.add_mk, ← sub_eq_add_neg]

theorem beside_anchor (position : Vec3 ℝ) (offset : Vec2 ℝ) :
    anchor position + offset - anchor position = offset := by
  change (⟨(anchor position).x + offset.x - (anchor position).x,
    (anchor position).y + offset.y - (anchor position).y⟩ : Vec2 ℝ) = offset
  rw [add_sub_cancel_left, add_sub_cancel_left]

/-- The layout has an entry for each device in order, at the anchor that hit testing uses, and
one of them is selected if the selected device is present. Hit testing does no more than
search these entries from the last one. A marker has a stem exactly if its device is not on the
ground, whose end does not depend on how far that is. Every point of it lies on the marker,
and a press there finds the device or one that is drawn over it. -/
theorem drawn_is_pressed {devices : List (Device ℝ)} (distinct : Device.Distinct devices)
    (selected : Option Mac) :
    let drawn := layout devices selected
    let hit (point : Vec2 ℝ) : Target := .ofPoint devices selected point
    (drawn.length = devices.length ∧
      ∀ (index : ℕ) device, devices[index]? = some device → ∃ entry, drawn[index]? = some entry ∧
        Draws selected device entry ∧ ∀ length, entry.stem = some length →
          (∀ s ∈ Set.Icc 0 length,
            let point := entry.anchor + ⟨-s, s⟩
            contains (point - anchor device.position) device.position.y = true ∧
              ∃ above other, index ≤ above ∧ devices[above]? = some other ∧
                Target.Names selected other (hit point)) ∧
          entry.anchor + ⟨-length, length⟩ =
            ⟨-device.position.x - 40, device.position.z + 40⟩) ∧
    (drawn.countP (·.selected) = if ∃ device ∈ devices, selected = some device.mac then 1 else 0) ∧
    ∀ point, hit point = (drawn.reverse.findSome? (Placement.hit? point)).getD .background := by
  intro drawn hit
  refine ⟨⟨List.length_map .., fun index device entry => ?_⟩, layout_selected distinct selected,
    layout_hit devices selected⟩
  refine ⟨place selected device, ?_, place_draws selected device, fun length stem => ?_⟩
  · exact List.getElem?_map.trans (congrArg (Option.map (place selected)) entry)
  simp only [place_stem, Option.ite_none_right_eq_some, Option.some.injEq] at stem
  obtain ⟨-, rfl⟩ := stem
  refine ⟨fun s inside => ?_, ?_⟩
  · have covered : contains (anchor device.position + ⟨-s, s⟩ - anchor device.position)
        device.position.y = true := by
      rw [beside_anchor]
      exact stem_inside inside
    exact ⟨covered, Target.names_above rfl entry (.inl covered)⟩
  · change anchor device.position + _ = _
    rw [along_anchor]
    congr 1 <;> ring

/-- Two stems that lie on each other: all along the later one that one is pressed. -/
theorem crossed_stems_pressed :
    let lower : Device ℝ := ⟨⟨1⟩, ⟨0, 60, 0⟩, .zero, []⟩
    let upper : Device ℝ := ⟨⟨2⟩, ⟨20, 100, 20⟩, .zero, []⟩
    Device.Distinct [lower, upper] ∧
      (layout [lower, upper] (some ⟨1⟩)).countP (·.selected) = 1 ∧
      ∀ s ∈ Set.Icc (0 : ℝ) 140,
        Target.ofPoint [lower, upper] (some ⟨1⟩) ⟨80 - s, s - 80⟩ = .marker ⟨2⟩ := by
  intro lower upper
  have distinct : Device.Distinct [lower, upper] := by decide
  obtain ⟨⟨-, drawn⟩, counted, -⟩ := drawn_is_pressed distinct (some ⟨1⟩)
  refine ⟨distinct, ?_, fun s inside => ?_⟩
  · rw [counted, if_pos ⟨lower, by simp, rfl⟩]
  · obtain ⟨entry, there, draws, along⟩ := drawn 1 upper rfl
    have stem : entry.stem = some 140 := by
      cases there
      rw [place_stem, if_pos (by norm_num [upper])]
      norm_num [upper]
    have point : entry.anchor + ⟨-s, s⟩ = ⟨80 - s, s - 80⟩ := by
      rw [draws.anchored, along_anchor]
      norm_num [upper]
      ring
    obtain ⟨-, above, other, order, found, names⟩ := (along 140 stem).1 s inside
    rw [point] at names
    match above with
    | 1 =>
      cases found
      exact names.resolve_right fun handle => absurd handle.2 (by decide)
    | beyond + 2 => cases found

end Marker
end DeviceMap
