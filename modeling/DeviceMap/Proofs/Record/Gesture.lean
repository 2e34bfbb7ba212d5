import DeviceMap.Proofs.Record.Device
import DeviceMap.Record.Event

/-! Gestures, what they leave selected and what they bring about, as data that
loses nothing. The kind of a gesture or an outcome is found wherever it stands,
and the rest is read as the kind asks for. -/
namespace DeviceMap
open Record Datum

def Selection.isFinite (selection : Selection Float) : Bool := selection.device.all Device.isFinite

def Outcome.isFinite (result : Outcome Float) : Bool := result.device?.all Device.isFinite

def Gesture.isFinite : Gesture Float → Bool
  | .down x y => x.isFinite && y.isFinite
  | .move x y movement => x.isFinite && y.isFinite && movement.isFinite
  | .up => true
  | .orient bearing tilt => bearing.isFinite && tilt.isFinite

def DeviceFile.isFinite (file : DeviceFile) : Bool := file.devices.all Device.isFinite

def Script.isFinite (script : Script) : Bool := script.gestures.all Gesture.isFinite

theorem Mode.lossless : Lossless Mode (fun _ => true) 0 where
  kept {mode} known format byName := by cases mode <;> cases byName <;> rfl
  given data decoded := rfl
  fits mode depth room := by cases mode <;> trivial

theorem Target.lossless : Lossless Target (fun _ => true) 1 where
  kept {target} known format byName := by
    cases target with
    | handle | background => cases byName <;> rfl
    | marker mac =>
      have shown : ((encode (Target.marker mac)).arranged byName).shown =
          .record [("marker", ((encode mac).arranged byName).shown)] := by
        cases byName <;> rfl
      rw [shown]
      change (decode format _).map Target.marker = _
      rw [Mac.lossless.kept rfl]
      rfl
  given data decoded := rfl
  fits target depth room := by
    cases target with
    | handle | background => trivial
    | marker mac => exact ⟨by omega, Mac.lossless.fits _ _ (by omega), trivial⟩

theorem Selection.lossless : Lossless (Selection Float) Selection.isFinite 4 := by
  have option := Device.lossless.option fun _ => rfl
  refine Lossless.record (fun selection => [("device", encode selection.device)])
    (fun _ => rfl) (fun _ _ => rfl) (fun _ => rfl) (by simp) ?_ ?_ ?_
  · intro selection known format byName
    have kept := option.kept known format byName
    rw [← nullable_given] at kept
    change (do return ⟨← (Entry.given _).nullable? format⟩ : Option (Selection Float)) = _
    rw [kept]
    rfl
  · intro format entries selection finite decoded
    split at decoded
    · simp only [Option.bind_eq_bind, Option.bind_eq_some_iff] at decoded
      obtain ⟨device, deviceRead, decoded⟩ := decoded
      cases decoded
      exact Device.lossless.nullable (finite _ (by simp)) deviceRead
    · cases decoded
  · exact fun selection depth room => ⟨option.fits _ _ room, trivial⟩

/-- The fields of a record stay different from each other in what is shown. -/
private theorem named_shown {byName : Bool} {fields : List (String × Datum)}
    (distinct : (fields.map Prod.fst).Nodup) {given : List (String × Datum)}
    (order : given.Perm (fields.map fun field => (field.1, (field.2.arranged byName).shown))) :
    (given.map Prod.fst).Nodup := by
  rw [(order.map Prod.fst).nodup_iff, List.map_map]
  exact distinct

section Outcome
variable {format : Format} {kind : String} {entry : Entry}

theorem Outcome.ofKind_finite {result : Outcome Float} (data : entry.Finite)
    (decoded : Outcome.ofKind? format kind entry = some result) : result.isFinite = true := by
  unfold Outcome.ofKind? at decoded
  split at decoded
  · split at decoded <;> cases decoded <;> rfl
  case h_5 => cases decoded
  all_goals
    obtain ⟨device, read, same⟩ := Option.map_eq_some_iff.mp decoded
    cases same
    exact Device.lossless.required data read

/-- Where the device stands before the kind it is read as kept data, to no effect. -/
private theorem Outcome.decode_fields {fields : List (String × Datum)} {result : Outcome Float}
    (kindFound : named? fields "kind" = some (.given (.text kind)))
    (deviceFound : named? fields "device" = some entry)
    (readable : ∀ value, entry = .given value → value.isReadable = true)
    (ofKind : ∀ format, Outcome.ofKind? format kind entry = some result) :
    decode format (.record fields) = some result := by
  change (named? fields "kind").bind _ = _
  rw [kindFound]
  change (named? fields "device").bind _ = _
  rw [deviceFound]
  have known : variant? format (.text kind) = some kind := rfl
  simp only [known, Option.bind_eq_bind, Option.bind_some]
  split
  · rw [if_pos (readable _ rfl), ofKind]
  · exact ofKind format

private theorem Outcome.kept_of_kind {device : Device Float} {result : Outcome Float}
    (byName : Bool)
    (encoded : encode result = .record [("kind", .text kind), ("device", encode device)])
    (ofKind : ∀ format value, decode format value = some device →
      Outcome.ofKind? format kind (.given value) = some result)
    (known : device.isFinite = true) :
    decode format ((encode result).arranged byName).shown = some result := by
  obtain ⟨given, shown, order⟩ := record_shown byName
    [("kind", .text kind), ("device", encode device)]
  have distinct := named_shown (by simp) order
  have kindShown : ((Datum.text kind).arranged byName).shown = .text kind := by
    cases byName <;> rfl
  have kindHeld : ("kind", Datum.text kind) ∈ given := order.mem_iff.mpr (by simp [kindShown])
  have deviceHeld : ("device", ((encode device).arranged byName).shown) ∈ given :=
    order.mem_iff.mpr (by simp)
  rw [encoded, shown]
  refine Outcome.decode_fields (named_of_mem distinct kindHeld) (named_of_mem distinct deviceHeld)
    ?_ fun format => ofKind format _ (Device.lossless.kept known format byName)
  rintro _ ⟨⟩
  exact shown_readable _

end Outcome

theorem Outcome.lossless : Lossless (Outcome Float) Outcome.isFinite 4 where
  kept {result} known format byName := by
    cases result with
    | none => cases byName <;> rfl
    | moved device | ended device | reoriented device =>
      refine Outcome.kept_of_kind byName rfl (fun format value read => ?_) known
      exact congrArg (Option.map _) read
  given {format d result} data decoded := by
    cases data with
    | record all =>
      obtain ⟨kind, -, decoded⟩ := Option.bind_eq_some_iff.mp decoded
      split at decoded
      · obtain ⟨device, found, decoded⟩ := Option.bind_eq_some_iff.mp decoded
        obtain ⟨kind, -, decoded⟩ := Option.bind_eq_some_iff.mp decoded
        have deviceData := named_finite all found
        split at decoded
        · split at decoded
          · exact Outcome.ofKind_finite deviceData decoded
          · cases decoded
        · exact Outcome.ofKind_finite deviceData decoded
      · cases decoded
    | list all =>
      rename_i items
      match items with
      | [kind, device] =>
        obtain ⟨kind, -, decoded⟩ := Option.bind_eq_some_iff.mp decoded
        have deviceData : (Entry.given device).Finite := all device (by simp)
        exact Outcome.ofKind_finite deviceData decoded
      | [] | [_] | _ :: _ :: _ :: _ => cases decoded
    | null | bool | int | float | text | unreadable => cases decoded
  fits result depth room := by
    cases result with
    | none => exact ⟨by omega, trivial, trivial⟩
    | moved device | ended device | reoriented device =>
      exact ⟨by omega, trivial, Device.lossless.fits _ _ (by omega), trivial⟩

section Gesture
variable {kind : String} {parts : List (String × Datum)}

/-- What is shown of a gesture is read as its kind asks for, with the other fields
found in their order. -/
private theorem Gesture.decode_shown (byName : Bool)
    (distinct : ("kind" :: parts.map Prod.fst).Nodup) :
    ∃ rest, (∀ format, decode format
        ((Datum.record (("kind", .text kind) :: parts)).arranged byName).shown =
          Gesture.ofKind? kind (.record rest)) ∧
      entries? .kept (parts.map Prod.fst) (.record rest) =
        some (parts.map fun part => .given (part.2.arranged byName).shown) := by
  obtain ⟨given, shown, order⟩ := record_shown byName (("kind", .text kind) :: parts)
  have names : (given.map Prod.fst).Nodup :=
    @named_shown byName (("kind", .text kind) :: parts) distinct given order
  have kindShown : ((Datum.text kind).arranged byName).shown = .text kind := by
    cases byName <;> rfl
  have kindHeld : ("kind", Datum.text kind) ∈ given := order.mem_iff.mpr (by simp [kindShown])
  refine ⟨given.filter (·.1 ≠ "kind"), fun format => ?_, ?_⟩
  · have readable := shown_readable ((Datum.record (("kind", .text kind) :: parts)).arranged byName)
    rw [shown] at readable ⊢
    change (if _ then (named? given "kind").bind _ else _) = _
    rw [if_pos readable, named_of_mem names kindHeld]
    rfl
  · -- The kind is taken out of the fields; no other field goes with it.
    have held : (parts.map fun part => (part.1, (part.2.arranged byName).shown)) ⊆
        given.filter (·.1 ≠ "kind") := by
      intro field member
      obtain ⟨part, partHeld, rfl⟩ := List.mem_map.mp member
      have other : part.1 ≠ "kind" := fun same =>
        (List.nodup_cons.mp distinct).1 (List.mem_map.mpr ⟨part, partHeld, same⟩)
      exact List.mem_filter.mpr ⟨order.mem_iff.mpr (List.mem_map_of_mem
        (List.mem_cons_of_mem _ partHeld)), by simp [other]⟩
    have entries := entries_of_subset .kept (names.sublist (List.filter_sublist.map _)) held
    rw [List.map_map, List.map_map] at entries
    exact entries

theorem Gesture.ofKind_finite {rest : Datum} {gesture : Gesture Float}
    (data : rest.Finite) (decoded : Gesture.ofKind? kind rest = some gesture) :
    gesture.isFinite = true := by
  unfold Gesture.ofKind? at decoded
  split at decoded
  case h_1 =>
    obtain ⟨entries, finite, decoded⟩ := entries_of_read data decoded
    split at decoded
    · simp only [Option.bind_eq_bind, Option.bind_eq_some_iff] at decoded
      obtain ⟨x, xRead, y, yRead, decoded⟩ := decoded
      cases decoded
      simp only [List.forall_mem_cons] at finite
      obtain ⟨xData, yData, -⟩ := finite
      simp [Gesture.isFinite, Float.lossless.required xData xRead,
        Float.lossless.required yData yRead]
    · cases decoded
  case h_2 =>
    obtain ⟨entries, finite, decoded⟩ := entries_of_read data decoded
    split at decoded
    · simp only [Option.bind_eq_bind, Option.bind_eq_some_iff] at decoded
      obtain ⟨x, xRead, y, yRead, movement, movementRead, decoded⟩ := decoded
      cases decoded
      simp only [List.forall_mem_cons] at finite
      obtain ⟨xData, yData, movementData, -⟩ := finite
      simp [Gesture.isFinite, Float.lossless.required xData xRead,
        Float.lossless.required yData yRead,
        Float.lossless.orElse movementData movementRead Double.zero_finite]
    · cases decoded
  case h_3 =>
    obtain ⟨entries, -, decoded⟩ := entries_of_read data decoded
    split at decoded
    · cases decoded
      rfl
    · cases decoded
  case h_4 =>
    obtain ⟨entries, finite, decoded⟩ := entries_of_read data decoded
    split at decoded
    · simp only [Option.bind_eq_bind, Option.bind_eq_some_iff] at decoded
      obtain ⟨bearing, bearingRead, tilt, tiltRead, decoded⟩ := decoded
      cases decoded
      simp only [List.forall_mem_cons] at finite
      obtain ⟨bearingData, tiltData, -⟩ := finite
      simp [Gesture.isFinite, Float.lossless.required bearingData bearingRead,
        Float.lossless.required tiltData tiltRead]
    · cases decoded
  case h_5 => cases decoded

end Gesture

theorem Gesture.lossless : Lossless (Gesture Float) Gesture.isFinite 1 where
  kept {gesture} known format byName := by
    cases gesture with
    | down x y =>
      simp only [Gesture.isFinite, Bool.and_eq_true] at known
      obtain ⟨rest, decoded, entries⟩ := @Gesture.decode_shown "down"
        [("x", encode x), ("y", encode y)] byName (by simp)
      refine (decoded format).trans ((congrArg (Option.bind · _) entries).trans ?_)
      change (do return .down (← decode .kept _) (← decode .kept _) : Option (Gesture Float)) = _
      rw [Float.lossless.kept known.1, Float.lossless.kept known.2]
      rfl
    | move x y movement =>
      simp only [Gesture.isFinite, Bool.and_eq_true] at known
      obtain ⟨rest, decoded, entries⟩ := @Gesture.decode_shown "move"
        [("x", encode x), ("y", encode y), ("movement_y", encode movement)] byName (by simp)
      refine (decoded format).trans ((congrArg (Option.bind · _) entries).trans ?_)
      change (do return .move (← decode .kept _) (← decode .kept _) (← decode .kept _) :
        Option (Gesture Float)) = _
      rw [Float.lossless.kept known.1.1, Float.lossless.kept known.1.2,
        Float.lossless.kept known.2]
      rfl
    | up =>
      obtain ⟨rest, decoded, -⟩ := @Gesture.decode_shown "up" [] byName (by simp)
      exact decoded format
    | orient bearing tilt =>
      simp only [Gesture.isFinite, Bool.and_eq_true] at known
      obtain ⟨rest, decoded, entries⟩ := @Gesture.decode_shown "orient"
        [("bearing", encode bearing), ("tilt", encode tilt)] byName (by simp)
      refine (decoded format).trans ((congrArg (Option.bind · _) entries).trans ?_)
      change (do return .orient (← decode .kept _) (← decode .kept _) : Option (Gesture Float)) = _
      rw [Float.lossless.kept known.1, Float.lossless.kept known.2]
      rfl
  given {format d gesture} data decoded := by
    change (if d.isReadable then _ else none) = some gesture at decoded
    split at decoded
    · clear *- data decoded
      cases data with
      | record all =>
        obtain ⟨kind, -, decoded⟩ := Option.bind_eq_some_iff.mp decoded
        split at decoded
        · exact Gesture.ofKind_finite (.record fun field held => all field
            (List.mem_of_mem_filter held)) decoded
        · cases decoded
      | list all =>
        rename_i items
        match items with
        | .text kind :: rest =>
          exact Gesture.ofKind_finite (.list (List.forall_mem_cons.mp all).2) decoded
        | [] => cases decoded
        | .null :: _ | .bool _ :: _ | .int _ :: _ | .float _ :: _ | .list _ :: _ | .record _ :: _
        | .unreadable :: _ => cases decoded
      | null | bool | int | float | text | unreadable => cases decoded
    · cases decoded
  fits gesture depth room := by
    cases gesture with
    | down | move | up | orient => exact ⟨by omega, by simp [FieldsFit, encode, Datum.Fits]⟩

/-- A document of its own that lists values of a type under one name. -/
theorem Lossless.listed {α β : Type} [Codec α] [Codec β] {finite : β → Bool} {levels : Nat}
    (lossless : Lossless β finite levels) (name : String) (items : α → List β)
    (ofItems : List β → α) (same : ∀ x, ofItems (items x) = x)
    (back : ∀ xs, items (ofItems xs) = xs)
    (encoded : ∀ x, encode x = .record [(name, encode (items x))])
    (decoded : ∀ format d, decode format d = (entries? format [name] d).bind fun entries =>
      match entries with
      | [entry] => (entry.orElse? format []).bind fun xs => some (ofItems xs)
      | _ => none) :
    Lossless α (fun x => (items x).all finite) (levels + 2) := by
  refine Lossless.record (fun x => [(name, encode (items x))]) encoded decoded (fun _ => rfl)
    (by simp) ?_ ?_ ?_
  · intro x known format byName
    change (decode format _).bind _ = _
    rw [lossless.list.kept known]
    exact congrArg some (same x)
  · intro format entries x finite decoded
    split at decoded
    · obtain ⟨xs, read, same⟩ := Option.bind_eq_some_iff.mp decoded
      cases same
      rw [back]
      exact lossless.list.orElse (finite _ (by simp)) read rfl
    · cases decoded
  · exact fun x depth room => ⟨lossless.list.fits _ _ room, trivial⟩

theorem Script.lossless : Lossless Script Script.isFinite 3 :=
  Gesture.lossless.listed "event" Script.gestures Script.mk (fun _ => rfl) (fun _ => rfl)
    (fun _ => rfl) fun _ _ => rfl

theorem DeviceFile.lossless : Lossless DeviceFile DeviceFile.isFinite 5 :=
  Device.lossless.listed "device" DeviceFile.devices DeviceFile.mk (fun _ => rfl) (fun _ => rfl)
    (fun _ => rfl) fun _ _ => rfl

end DeviceMap
