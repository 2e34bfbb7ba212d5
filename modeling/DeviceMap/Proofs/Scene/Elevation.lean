import DeviceMap.Proofs.Exact.Isometric
import DeviceMap.Proofs.Scene.Coalesce

/-! Raising and lowering over the exact reals. A movement lowers the device by twice its
length, and the ground stops it. So what any number of movements leave is what those
since the device last stood on the ground have raised it by. -/
namespace DeviceMap

namespace Interaction

theorem exact_greatest (x y : ℝ) : Scalar.greatest x y = max x y := by
  have number : Scalar.isNaN y = false := rfl
  unfold Scalar.greatest
  rw [number, max_comm, max_def_lt]
  rfl

/-- Lowering by no more than the elevation is the same as stopping at the ground. -/
theorem sub_lowering (level movement : ℝ) :
    level - lowering level movement = max 0 (level - 2 * movement) := by
  unfold lowering
  rw [Viewport.exact_least, ← max_sub_sub_left, sub_self, max_comm, Exact.literal]
  ring_nf

theorem exact_lowered (level movement : ℝ) :
    lowered level movement = max 0 (level - 2 * movement) := by
  unfold lowered
  rw [sub_lowering, exact_greatest, Exact.literal, Nat.cast_zero]
  exact max_eq_left (le_max_left 0 _)

end Interaction

namespace Elevation
open Interaction

/-- The elevation that movements leave, one after the other. -/
def reached {α : Type} [Scalar α] (level : α) (movements : List α) : α :=
  movements.foldl lowered level

/-- The elevations that movements can leave: from the start on if the ground stops none of
them, and otherwise from the ground on, after any one of them. -/
inductive Reflection (level : ℝ) (movements : List ℝ) : ℝ → Prop where
  | start : Reflection level movements (level - 2 * movements.sum)
  | ground (k : ℕ) (first : 1 ≤ k) (last : k ≤ movements.length) :
      Reflection level movements (-2 * (movements.drop k).sum)

/-- The movements after the first one start from where it ends, or from the ground. -/
theorem reflection_cons {level movement left : ℝ} {rest : List ℝ} :
    Reflection level (movement :: rest) left ↔
      Reflection 0 rest left ∨ Reflection (level - 2 * movement) rest left := by
  have onward : level - 2 * (movement :: rest).sum = level - 2 * movement - 2 * rest.sum := by
    rw [List.sum_cons]
    ring
  have ground : 0 - 2 * rest.sum = -2 * rest.sum := by ring
  constructor
  · rintro (_ | ⟨k, first, last⟩)
    · exact .inr (onward ▸ .start)
    · obtain ⟨k, rfl⟩ := Nat.exists_eq_add_of_le' first
      rw [List.drop_succ_cons]
      cases k with
      | zero => exact .inl (ground ▸ .start)
      | succ k => exact .inl (.ground (k + 1) (by omega) (by simpa using last))
  · rintro ((_ | ⟨k, first, last⟩) | (_ | ⟨k, first, last⟩))
    · exact ground ▸ .ground 1 le_rfl (by simp)
    · exact .ground (k + 1) (by omega) (by simpa using last)
    · exact onward ▸ .start
    · exact .ground (k + 1) (by omega) (by simpa using last)

theorem Reflection.le_of_start_le {low high left : ℝ} {movements : List ℝ} (lower : low ≤ high)
    (reflection : Reflection low movements left) :
    ∃ higher, Reflection high movements higher ∧ left ≤ higher := by
  cases reflection with
  | start => exact ⟨_, .start, by linarith⟩
  | ground k first last => exact ⟨_, .ground k first last, le_rfl⟩

theorem reached_cons (level movement : ℝ) (rest : List ℝ) :
    reached level (movement :: rest) = reached (max 0 (level - 2 * movement)) rest := by
  rw [← exact_lowered]
  rfl

/-- Movements leave the greatest elevation that they can leave. -/
theorem reached_greatest (level : ℝ) (movements : List ℝ) :
    IsGreatest {left | Reflection level movements left} (reached level movements) := by
  induction movements generalizing level with
  | nil =>
    have only : level - 2 * ([] : List ℝ).sum = level := by simp
    have member : Reflection level [] (level - 2 * ([] : List ℝ).sum) := .start
    rw [only] at member
    refine ⟨member, ?_⟩
    rintro _ (_ | ⟨k, first, last⟩)
    · exact only.le
    · exact absurd (first.trans last) (by simp)
  | cons movement rest ih =>
    -- The rest starts at the higher one of the ground and where the first movement ends.
    obtain ⟨member, bound⟩ := ih (max 0 (level - 2 * movement))
    change Reflection _ _ _ at member
    rw [reached_cons]
    generalize reached (max 0 (level - 2 * movement)) rest = last at member bound ⊢
    constructor
    · apply reflection_cons.mpr
      rcases max_choice 0 (level - 2 * movement) with ground | above
      · exact .inl (ground ▸ member)
      · exact .inr (above ▸ member)
    · intro left reflection
      have higher : ∃ higher, Reflection (max 0 (level - 2 * movement)) rest higher ∧
          left ≤ higher := by
        rcases reflection_cons.mp reflection with ground | above
        · exact ground.le_of_start_le (le_max_left 0 _)
        · exact above.le_of_start_le (le_max_right 0 _)
      obtain ⟨higher, reaches, below⟩ := higher
      exact below.trans (bound reaches)

theorem reached_append {α : Type} [Scalar α] (level : α) (before rest : List α) :
    reached level (before ++ rest) = reached (reached level before) rest := List.foldl_append

/-- A higher start and lower movements leave no lower elevation. -/
theorem reached_mono {level level' : ℝ} (start : level ≤ level') {movements movements' : List ℝ}
    (lower : List.Forall₂ (fun movement movement' => movement' ≤ movement) movements movements') :
    reached level movements ≤ reached level' movements' := by
  induction lower generalizing level level' with
  | nil => exact start
  | cons first _ ih =>
    rw [reached_cons, reached_cons]
    exact ih (by gcongr)

theorem reached_above {level : ℝ} (above : 0 ≤ level) (movements : List ℝ) :
    0 ≤ reached level movements := by
  induction movements generalizing level with
  | nil => exact above
  | cons movement rest ih =>
    rw [reached_cons]
    exact ih (le_max_left 0 _)

/-- The ground stops the second of two movements in one direction where it would stop both. -/
theorem max_sub_twice {level first second : ℝ} (above : 0 ≤ level)
    (sign : 0 ≤ first ∧ 0 ≤ second ∨ first ≤ 0 ∧ second ≤ 0) :
    max 0 (max 0 (level - 2 * first) - 2 * second) = max 0 (level - 2 * (first + second)) := by
  rcases sign with ⟨_, down⟩ | ⟨up, _⟩
  · rcases le_total 0 (level - 2 * first) with above | ground
    · rw [max_eq_right above]
      ring_nf
    · rw [max_eq_left ground, max_eq_left (by linarith), max_eq_left (by linarith)]
  · have raised : 0 ≤ level - 2 * first := by linarith
    rw [max_eq_right raised]
    ring_nf

/-- Movements in one direction leave what their sum leaves. -/
theorem reached_sum {level : ℝ} (above : 0 ≤ level) {movements : List ℝ}
    (sign : (∀ movement ∈ movements, 0 ≤ movement) ∨ ∀ movement ∈ movements, movement ≤ 0) :
    reached level movements = max 0 (level - 2 * movements.sum) := by
  induction movements generalizing level with
  | nil => simp [reached, above]
  | cons movement rest ih =>
    simp only [List.forall_mem_cons] at sign
    have signs : 0 ≤ movement ∧ 0 ≤ rest.sum ∨ movement ≤ 0 ∧ rest.sum ≤ 0 := by
      rcases sign with ⟨first, others⟩ | ⟨first, others⟩
      · exact .inl ⟨first, List.sum_nonneg others⟩
      · exact .inr ⟨first, by simpa using List.sum_le_card_nsmul rest 0 others⟩
    have others := sign.imp And.right And.right
    rw [List.sum_cons, ← max_sub_twice above signs, reached_cons]
    exact ih (le_max_left 0 _) others

end Elevation

/-- Moves of the pointer, with what each of them adds to the vertical movement. -/
def Gesture.moves {α : Type} (path : List (Vec2 α × α)) : List (Gesture α) :=
  path.map fun (screen, movement) => .move screen.x screen.y movement

namespace Scene
open Elevation

/-- The elevation of the selected device, if that is present. -/
def elevation? {α : Type} [Scalar α] (scene : Scene α) : Option α :=
  scene.selectedDevice?.map fun device => device.position.y

section Lifting
variable {scene : Scene ℝ} (lifting : scene.interaction.mode = .lifting) {device : Device ℝ}
  (found : scene.selectedDevice? = some device)

include found in
theorem amend_same : scene.amend (some (.raise device.position.y)) = scene := by
  have stored := Device.put_self (Interaction.selected_found found)
  unfold amend
  rw [found]
  exact congrArg (fun devices => { scene with devices }) stored

include found in
theorem amend_elevation (level : ℝ) :
    (scene.amend (some (.raise level))).elevation? = some level := by
  unfold elevation?
  rw [amend_selected, found]
  rfl

include lifting found in
theorem lift_change (screen : Vec2 ℝ) (movement : ℝ) :
    scene.change? (.move screen.x screen.y movement) =
      some (.raise (Interaction.lowered device.position.y movement)) := by
  have finite (level : ℝ) : Scalar.isFinite level = true := rfl
  simp [change?, found, Interaction.change?, lifting, finite]

include lifting found in
/-- Moves leave the scene with the selected device at the elevation that they reach. -/
theorem replay_lifting (path : List (Vec2 ℝ × ℝ)) :
    (scene.replay (Gesture.moves path)).1 =
      scene.amend (some (.raise (reached device.position.y (path.map Prod.snd)))) := by
  induction path generalizing scene device with
  | nil => exact (amend_same found).symm
  | cons move rest ih =>
    obtain ⟨screen, movement⟩ := move
    let lift : Change ℝ := .raise (Interaction.lowered device.position.y movement)
    have stored : (scene.step (.move screen.x screen.y movement)).1 = scene.amend (some lift) :=
      (scene.step_amend rfl).1.trans (congrArg _ (lift_change lifting found screen movement))
    have onward : (scene.amend (some lift)).selectedDevice? = some (lift.apply device) := by
      rw [amend_selected, found]
      rfl
    have kept : (scene.amend (some lift)).interaction.mode = .lifting := by
      rw [amend_interaction, lifting]
    change ((scene.step (.move screen.x screen.y movement)).1.replay (Gesture.moves rest)).1 = _
    -- A later elevation overwrites this one.
    rw [stored, ih kept onward, amend_absorb fun _ => rfl]
    rfl

include lifting found in
theorem lifted_elevation (path : List (Vec2 ℝ × ℝ)) :
    (scene.replay (Gesture.moves path)).1.elevation? =
      some (reached device.position.y (path.map Prod.snd)) := by
  rw [replay_lifting lifting found, amend_elevation found]

end Lifting

/-- Moves that raise and lower a device leave it at the greatest of the elevations that the
sums of the last movements tell, from all of them down to none. Each of them lowers it by
twice its length down to the ground, as the formula that bounds the step does; a higher
start and lower movements leave it no lower; and movements in one direction can be made
in one. -/
theorem elevation_reflected {scene : Scene ℝ} (lifting : scene.interaction.mode = .lifting)
    {device : Device ℝ} (found : scene.selectedDevice? = some device)
    (above : 0 ≤ device.position.y) :
    let after (path : List (Vec2 ℝ × ℝ)) : Scene ℝ := (scene.replay (Gesture.moves path)).1
    (∀ path, ∃ level, (after path).elevation? = some level ∧
      IsGreatest {left | Reflection device.position.y (path.map Prod.snd) left} level) ∧
    (∀ path level, (after path).elevation? = some level → ∀ screen movement,
      (after (path ++ [(screen, movement)])).elevation? = some (max 0 (level - 2 * movement)) ∧
        level - Interaction.lowering level movement = max 0 (level - 2 * movement)) ∧
    (∀ (other : Scene ℝ) (twin : Device ℝ), other.interaction.mode = .lifting →
      other.selectedDevice? = some twin → device.position.y ≤ twin.position.y →
        ∀ path path', List.Forall₂ (fun move move' => move'.2 ≤ move.2) path path' →
          ∃ level level', (after path).elevation? = some level ∧
            (other.replay (Gesture.moves path')).1.elevation? = some level' ∧ level ≤ level') ∧
    ∀ before block rest screen,
      ((∀ move ∈ block, 0 ≤ move.2) ∨ ∀ move ∈ block, move.2 ≤ 0) →
        after (before ++ block ++ rest) =
          after (before ++ (screen, (block.map Prod.snd).sum) :: rest) := by
  intro after
  have elevation (path) : (after path).elevation? =
      some (reached device.position.y (path.map Prod.snd)) := lifted_elevation lifting found path
  refine ⟨fun path => ?_, fun path level here screen movement => ?_,
    fun other twin otherLifting otherFound start path path' lower => ?_,
    fun before block rest screen sign => ?_⟩
  · exact ⟨_, elevation path, reached_greatest _ _⟩
  · obtain rfl := Option.some.inj ((elevation path).symm.trans here)
    refine ⟨?_, Interaction.sub_lowering _ _⟩
    rw [elevation, List.map_append, reached_append]
    exact congrArg some (Interaction.exact_lowered _ _)
  · refine ⟨_, _, elevation path, lifted_elevation otherLifting otherFound path', ?_⟩
    exact reached_mono start (List.forall₂_map_left_iff.mpr (List.forall₂_map_right_iff.mpr lower))
  · have signs : (∀ movement ∈ block.map Prod.snd, 0 ≤ movement) ∨
        ∀ movement ∈ block.map Prod.snd, movement ≤ 0 := by
      simpa only [List.forall_mem_map] using sign
    have merged := reached_sum (reached_above above (before.map Prod.snd)) signs
    have same : reached device.position.y ((before ++ block ++ rest).map Prod.snd) =
        reached device.position.y
          ((before ++ (screen, (block.map Prod.snd).sum) :: rest).map Prod.snd) := by
      simp only [List.map_append, List.map_cons, reached_append, reached_cons, merged]
    change (scene.replay _).1 = (scene.replay _).1
    rw [replay_lifting lifting found, replay_lifting lifting found, same]

/-- Down through the ground and up again: the ground swallows part of the way down. -/
theorem lowered_and_raised :
    let device : Device ℝ := ⟨⟨1⟩, ⟨0, 5, 0⟩, .zero, []⟩
    let scene : Scene ℝ := flat [device] (some ⟨1⟩) .lifting
    let path : List (Vec2 ℝ × ℝ) := [(⟨3, 4⟩, 2), (⟨3, 6⟩, 4), (⟨3, 3⟩, -3)]
    (scene.replay (Gesture.moves path)).1.elevation? = some 6 := by
  intro device scene path
  have lifting : scene.interaction.mode = .lifting := rfl
  have found : scene.selectedDevice? = some device := rfl
  have above : (0 : ℝ) ≤ device.position.y := by norm_num [device]
  obtain ⟨closed, -⟩ := elevation_reflected lifting found above
  obtain ⟨level, reached, member, bound⟩ := closed path
  have raised : Reflection 5 [2, 4, -3] (-2 * ([2, 4, -3].drop 2).sum) :=
    .ground 2 (by simp) (by simp)
  have atLeast : -2 * ([2, 4, -3].drop 2).sum ≤ level := bound raised
  have atMost : level ≤ 6 := by
    change Reflection 5 [2, 4, -3] level at member
    rcases member with _ | ⟨k, first, last⟩
    · norm_num
    · simp only [List.length_cons, List.length_nil] at last
      have each : k = 1 ∨ k = 2 ∨ k = 3 := by omega
      rcases each with rfl | rfl | rfl <;> norm_num
  rw [reached]
  norm_num at atLeast
  exact congrArg some (le_antisymm atMost atLeast)

end Scene
end DeviceMap
