import DeviceMap.Vector

/-! Rotations of space: four by four matrices for drawing, and quaternions for
turning an offset into the frame of an observer. -/
namespace DeviceMap
variable {α : Type} [Scalar α]

/-- A column of a four by four matrix. -/
structure Vec4 (α : Type) where
  x : α
  y : α
  z : α
  w : α

namespace Vec4

instance : Add (Vec4 α) := ⟨fun p q => ⟨p.x + q.x, p.y + q.y, p.z + q.z, p.w + q.w⟩⟩
instance : HMul (Vec4 α) α (Vec4 α) := ⟨fun p k => ⟨p.x * k, p.y * k, p.z * k, p.w * k⟩⟩

def toList (p : Vec4 α) : List α := [p.x, p.y, p.z, p.w]

end Vec4

/-- A four by four matrix by its columns. -/
structure Mat4 (α : Type) where
  x : Vec4 α
  y : Vec4 α
  z : Vec4 α
  w : Vec4 α

namespace Mat4

def identity : Mat4 α := ⟨⟨1, 0, 0, 0⟩, ⟨0, 1, 0, 0⟩, ⟨0, 0, 1, 0⟩, ⟨0, 0, 0, 1⟩⟩

/-- The image of a column. -/
def apply (m : Mat4 α) (v : Vec4 α) : Vec4 α := m.x * v.x + m.y * v.y + m.z * v.z + m.w * v.w

instance : Mul (Mat4 α) := ⟨fun m n => ⟨m.apply n.x, m.apply n.y, m.apply n.z, m.apply n.w⟩⟩

/-- The rotation about the first axis by an angle in radians. -/
def rotationX (angle : α) : Mat4 α :=
  let c := Scalar.cos angle
  let s := Scalar.sin angle
  ⟨⟨1, 0, 0, 0⟩, ⟨0, c, s, 0⟩, ⟨0, -s, c, 0⟩, ⟨0, 0, 0, 1⟩⟩

/-- The rotation about the third axis by an angle in radians. -/
def rotationZ (angle : α) : Mat4 α :=
  let c := Scalar.cos angle
  let s := Scalar.sin angle
  ⟨⟨c, s, 0, 0⟩, ⟨-s, c, 0, 0⟩, ⟨0, 0, 1, 0⟩, ⟨0, 0, 0, 1⟩⟩

/-- The same scale along all three axes. -/
def scaling (k : α) : Mat4 α := ⟨⟨k, 0, 0, 0⟩, ⟨0, k, 0, 0⟩, ⟨0, 0, k, 0⟩, ⟨0, 0, 0, 1⟩⟩

/-- The sixteen entries, column after column. -/
def toList (m : Mat4 α) : List α := m.x.toList ++ m.y.toList ++ m.z.toList ++ m.w.toList

end Mat4

/-- A rotation of space as a quaternion with its real part last. -/
structure Quaternion (α : Type) where
  x : α
  y : α
  z : α
  w : α

namespace Quaternion

/-- A turn about the second axis by `bearing` followed by one about the first
axis by `tilt`, both in radians. The turn about the third axis is zero, and
takes part in the arithmetic all the same. -/
def ofAngles (tilt bearing : α) : Quaternion α :=
  let roll := 0 * 0.5
  let pitch := -tilt * 0.5
  let yaw := bearing * 0.5
  let si := Scalar.sin roll
  let ci := Scalar.cos roll
  let sj := Scalar.sin pitch
  let cj := Scalar.cos pitch
  let sh := Scalar.sin yaw
  let ch := Scalar.cos yaw
  let cc := ci * ch
  let cs := ci * sh
  let sc := si * ch
  let ss := si * sh
  { x := (cj * ss + sj * cc) * -1
    y := cj * cs - sj * sc
    z := cj * sc - sj * cs
    w := cj * cc + sj * ss }

/-- The rotated offset. -/
def rotate (q : Quaternion α) (v : Vec3 α) : Vec3 α :=
  let b : Vec3 α := ⟨q.x, q.y, q.z⟩
  v * (q.w * q.w - b.dot b) + b * (v.dot b * 2) + b.cross v * (q.w * 2)

end Quaternion
end DeviceMap
