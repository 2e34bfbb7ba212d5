import DeviceMap.Proofs.Record.Event
import DeviceMap.Report

/-! The device lists of printed reports. A list is read back from its report
exactly if all its numbers are finite, and from the report of a replay whatever
else stands there. -/
namespace DeviceMap.Report
open Json.Reader Record Datum

/-- The devices that the report of a replay is read as. -/
def replayed? (text : String) : Option (List (Device Float)) := do
  let [.given devices] ← entries? .json ["devices"] (← Json.read text) | none
  decode .json devices

theorem listed_devices (ds : List (Device Float)) :
    ofText? (devices .json ds) = if ds.all Device.isFinite then some ds else none := by
  have reads := List.readsBack Device.readsBack
  have line : devices .json ds = Json.layout (encode ds) ++ "\n" := by
    simp [devices, ofLines]
  have text := (Json.read_layout (reads.fits ds 0 (by decide))).2
  rw [ofText?, line, text]
  exact reads.decoded .json false ds

theorem replayed_devices (gestures : List (Gesture Float)) (events : List (Event Float))
    (ds : List (Device Float)) :
    replayed? (replay .json gestures events ds) =
      if ds.all Device.isFinite then some ds else none := by
  have reads := List.readsBack Device.readsBack
  have fits : (Datum.record [("events", encode events), ("devices", encode ds)]).Fits 0 := by
    refine ⟨by decide, ⟨by decide, itemsFit_iff.mpr fun item member => ?_⟩,
      reads.fits ds 1 (by decide), trivial⟩
    obtain ⟨e, -, rfl⟩ := List.mem_map.mp member
    exact e.fits (by decide)
  have line : replay .json gestures events ds = Json.layout
      (Datum.record [("events", encode events), ("devices", encode ds)]).sorted ++ "\n" := by
    simp [replay, json, ofLines]
  have text := (Json.read_layout (fits.arranged true)).2
  have inside : [("devices", (encode ds : Datum))] ⊆
      [("events", encode events), ("devices", encode ds)] := by simp
  have entries := entries_shown .json true _ (by simp) inside
  simp only [arranged, ↓reduceIte, List.map_cons, List.map_nil] at text entries
  simp only [replayed?, line, text, entries, Option.bind_eq_bind, Option.bind_some]
  exact reads.decoded .json true ds

end DeviceMap.Report
