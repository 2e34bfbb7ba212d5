import DeviceMap.Scalar

/-! Points and offsets of the plane and of space. Sums are formed from left to
right, which matters where the numbers round. -/
namespace DeviceMap
variable {α : Type} [Scalar α]

/-- A point of the world plane or of the screen, or an offset between two. -/
structure Vec2 (α : Type) where
  x : α
  y : α

namespace Vec2

def zero : Vec2 α := ⟨0, 0⟩

instance : Add (Vec2 α) := ⟨fun p q => ⟨p.x + q.x, p.y + q.y⟩⟩
instance : Sub (Vec2 α) := ⟨fun p q => ⟨p.x - q.x, p.y - q.y⟩⟩
instance : HMul (Vec2 α) α (Vec2 α) := ⟨fun p k => ⟨p.x * k, p.y * k⟩⟩
instance : HDiv (Vec2 α) α (Vec2 α) := ⟨fun p k => ⟨p.x / k, p.y / k⟩⟩

def dot (p q : Vec2 α) : α := p.x * q.x + p.y * q.y

def lengthSquared (p : Vec2 α) : α := p.dot p

def length (p : Vec2 α) : α := Scalar.sqrt p.lengthSquared

/-- The distance of two points. -/
def distance (p q : Vec2 α) : α := (p - q).length

def isFinite (p : Vec2 α) : Bool := Scalar.isFinite p.x && Scalar.isFinite p.y

end Vec2

/-- A position in the world in centimetres, or an offset between two. The
ordinate `y` is the elevation above the plane of `x` and `z`. -/
structure Vec3 (α : Type) where
  x : α
  y : α
  z : α

namespace Vec3

def zero : Vec3 α := ⟨0, 0, 0⟩

instance : Add (Vec3 α) := ⟨fun p q => ⟨p.x + q.x, p.y + q.y, p.z + q.z⟩⟩
instance : Sub (Vec3 α) := ⟨fun p q => ⟨p.x - q.x, p.y - q.y, p.z - q.z⟩⟩
instance : HMul (Vec3 α) α (Vec3 α) := ⟨fun p k => ⟨p.x * k, p.y * k, p.z * k⟩⟩

def dot (p q : Vec3 α) : α := p.x * q.x + p.y * q.y + p.z * q.z

def cross (p q : Vec3 α) : Vec3 α :=
  ⟨p.y * q.z - q.y * p.z, p.z * q.x - q.z * p.x, p.x * q.y - q.x * p.y⟩

def lengthSquared (p : Vec3 α) : α := p.dot p

def length (p : Vec3 α) : α := Scalar.sqrt p.lengthSquared

def isFinite (p : Vec3 α) : Bool :=
  Scalar.isFinite p.x && Scalar.isFinite p.y && Scalar.isFinite p.z

end Vec3
end DeviceMap
