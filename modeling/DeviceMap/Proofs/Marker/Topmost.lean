import DeviceMap.Marker.Target

/-! Hit testing by the topmost device. The search runs over the list from its
end; what it finds belongs to the last device that the point touches, and it is
that device's handle if the point lies on one. -/
namespace DeviceMap.Target
variable {α : Type} [Scalar α]

/-- A point touches a device on its marker, or on its handle if it is the
selected one. -/
def Touches (selected : Option Mac) (point : Vec2 α) (device : Device α) : Prop :=
  Marker.contains (point - Marker.anchor device.position) device.position.y ∨
    selected = some device.mac ∧ Marker.onHandle (point - Marker.anchor device.position)

instance (selected : Option Mac) (point : Vec2 α) (device : Device α) :
    Decidable (Touches selected point device) :=
  inferInstanceAs (Decidable (_ ∨ _ ∧ _))

/-- The last device of a list that a point touches, with its place. -/
structure Topmost (devices : List (Device α)) (selected : Option Mac) (point : Vec2 α)
    (place : Nat) (device : Device α) : Prop where
  entry : devices[place]? = some device
  touched : Touches selected point device
  last : ∀ later other, place < later → devices[later]? = some other →
    ¬Touches selected point other

theorem onDevice_none {selected : Option Mac} {point : Vec2 α} {device : Device α}
    (untouched : ¬Touches selected point device) : onDevice? selected point device = none := by
  obtain ⟨off, noHandle⟩ := not_or.mp untouched
  unfold onDevice?
  rw [if_neg noHandle, if_neg off]

/-- The handle counts before the marker that it lies over. -/
theorem onDevice_touched {selected : Option Mac} {point : Vec2 α} {device : Device α}
    (touched : Touches selected point device) : onDevice? selected point device =
      some (if selected = some device.mac ∧ Marker.onHandle (point - Marker.anchor device.position)
        then .handle else .marker device.mac) := by
  unfold onDevice?
  by_cases handle : selected = some device.mac ∧
    Marker.onHandle (point - Marker.anchor device.position)
  · rw [if_pos handle, if_pos handle]
  · rw [if_neg handle, if_neg handle, if_pos (touched.resolve_right handle)]

theorem ofPoint_untouched {devices : List (Device α)} {selected : Option Mac} {point : Vec2 α}
    (untouched : ∀ device ∈ devices, ¬Touches selected point device) :
    ofPoint devices selected point = .background := by
  have nothing : devices.reverse.findSome? (onDevice? selected point) = none := by
    apply List.findSome?_eq_none_iff.mpr
    intro device member
    exact onDevice_none (untouched device (List.mem_reverse.mp member))
  unfold ofPoint
  rw [nothing]
  split <;> rfl

/-- A finite point lands on the topmost device. -/
theorem ofPoint_topmost {devices : List (Device α)} {selected : Option Mac} {point : Vec2 α}
    {place : Nat} {device : Device α} (finite : point.isFinite)
    (topmost : Topmost devices selected point place device) :
    ofPoint devices selected point =
      if selected = some device.mac ∧ Marker.onHandle (point - Marker.anchor device.position)
      then .handle else .marker device.mac := by
  obtain ⟨inside, held⟩ := List.getElem?_eq_some_iff.mp topmost.entry
  have split : devices.reverse =
      (devices.drop (place + 1)).reverse ++ device :: (devices.take place).reverse := by
    have parts := List.take_append_drop place devices
    rw [List.drop_eq_getElem_cons inside, held] at parts
    simpa using congrArg List.reverse parts.symm
  have above : ∀ other ∈ (devices.drop (place + 1)).reverse,
      onDevice? selected point other = none := by
    intro other member
    obtain ⟨offset, found⟩ := List.mem_iff_getElem?.mp (List.mem_reverse.mp member)
    rw [List.getElem?_drop] at found
    exact onDevice_none (topmost.last _ other (by omega) found)
  have hit := List.findSome?_eq_some_iff.mpr
    ⟨_, device, _, split, onDevice_touched topmost.touched, above⟩
  unfold ofPoint
  rw [if_pos finite, hit]
  rfl

/-- Where a point touches anything, there is a topmost device. -/
theorem topmost_exists {devices : List (Device α)} {selected : Option Mac} {point : Vec2 α}
    (touched : ∃ device ∈ devices, Touches selected point device) :
    ∃ place device, Topmost devices selected point place device := by
  induction devices with
  | nil => simp at touched
  | cons first rest ih =>
    by_cases later : ∃ device ∈ rest, Touches selected point device
    · obtain ⟨place, device, topmost⟩ := ih later
      refine ⟨place + 1, device, by simpa using topmost.entry, topmost.touched, ?_⟩
      intro above other order found
      obtain ⟨above, rfl⟩ := Nat.exists_eq_succ_of_ne_zero (Nat.ne_zero_of_lt order)
      exact topmost.last above other (by omega) (by simpa using found)
    · have own : Touches selected point first := by
        obtain ⟨device, member, touches⟩ := touched
        rcases List.mem_cons.mp member with rfl | held
        · exact touches
        · exact absurd ⟨device, held, touches⟩ later
      refine ⟨0, first, rfl, own, ?_⟩
      intro above other order found touches
      obtain ⟨above, rfl⟩ := Nat.exists_eq_succ_of_ne_zero (Nat.ne_zero_of_lt order)
      exact later ⟨other, List.mem_of_getElem? (by simpa using found), touches⟩

section Markers
variable {devices : List (Device α)} {selected : Option Mac} {point : Vec2 α}
  (finite : point.isFinite)
  (noHandle : ∀ device ∈ devices,
    ¬(selected = some device.mac ∧ Marker.onHandle (point - Marker.anchor device.position)))
include finite noHandle

/-- Away from the handle a finite point lands on the last marker that holds it. -/
theorem ofPoint_last_marker {place : Nat} {device : Device α}
    (entry : devices[place]? = some device)
    (inside : Marker.contains (point - Marker.anchor device.position) device.position.y)
    (last : ∀ later other, place < later → devices[later]? = some other →
      ¬Marker.contains (point - Marker.anchor other.position) other.position.y) :
    ofPoint devices selected point = .marker device.mac := by
  have topmost : Topmost devices selected point place device := by
    refine ⟨entry, Or.inl inside, ?_⟩
    rintro later other order found (above | handle)
    · exact last later other order found above
    · exact noHandle other (List.mem_of_getElem? found) handle
  rw [ofPoint_topmost finite topmost, if_neg (noHandle device (List.mem_of_getElem? entry))]

/-- Away from the handle a finite point on some marker lands on a marker. -/
theorem ofPoint_on_marker {device : Device α} (member : device ∈ devices)
    (inside : Marker.contains (point - Marker.anchor device.position) device.position.y) :
    ∃ mac, ofPoint devices selected point = .marker mac := by
  have touched : Touches selected point device := Or.inl inside
  obtain ⟨place, top, topmost⟩ := topmost_exists ⟨device, member, touched⟩
  refine ⟨top.mac, ?_⟩
  rw [ofPoint_topmost finite topmost, if_neg (noHandle top (List.mem_of_getElem? topmost.entry))]

end Markers
end DeviceMap.Target
