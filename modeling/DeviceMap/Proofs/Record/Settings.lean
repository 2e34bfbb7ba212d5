import DeviceMap.Proofs.Record.Lossless
import DeviceMap.Settings

/-! The settings as data that loses nothing. All fields have defaults when they
are read, and all of them are written. -/
namespace DeviceMap
open Record Datum

def Box.isFinite (box : Box) : Bool :=
  box.left.isFinite && box.top.isFinite && box.width.isFinite && box.height.isFinite

def Settings.isFinite (settings : Settings) : Bool := settings.box.isFinite

private theorem extent_finite : (1200 : Float).isFinite = true :=
  @Double.ofNat_finite 1200 (by omega)

theorem OutputFormat.lossless : Lossless OutputFormat (fun _ => true) 0 where
  kept {output} known format byName := by cases output <;> cases byName <;> rfl
  given data decoded := rfl
  fits output depth room := by cases output <;> trivial

theorem Box.lossless : Lossless Box Box.isFinite 1 := by
  refine Lossless.record (fun box => [("left", encode box.left), ("top", encode box.top),
    ("width", encode box.width), ("height", encode box.height)])
    (fun _ => rfl) (fun _ _ => rfl) (fun _ => rfl) (by simp) ?_ ?_ ?_
  · intro box known format byName
    simp only [Box.isFinite, Bool.and_eq_true] at known
    obtain ⟨⟨⟨left, top⟩, width⟩, height⟩ := known
    change (do return ⟨← decode format _, ← decode format _, ← decode format _,
      ← decode format _⟩ : Option Box) = _
    rw [Float.lossless.kept left, Float.lossless.kept top, Float.lossless.kept width,
      Float.lossless.kept height]
    rfl
  · intro format entries box finite decoded
    split at decoded
    · simp only [Option.bind_eq_bind, Option.bind_eq_some_iff] at decoded
      obtain ⟨left, leftRead, top, topRead, width, widthRead, height, heightRead,
        decoded⟩ := decoded
      cases decoded
      simp only [List.forall_mem_cons] at finite
      obtain ⟨leftData, topData, widthData, heightData, -⟩ := finite
      simp [Box.isFinite, Float.lossless.orElse leftData leftRead Double.zero_finite,
        Float.lossless.orElse topData topRead Double.zero_finite,
        Float.lossless.orElse widthData widthRead extent_finite,
        Float.lossless.orElse heightData heightRead extent_finite]
    · cases decoded
  · exact fun box depth room => ⟨trivial, trivial, trivial, trivial, trivial⟩

theorem OutputSection.lossless : Lossless OutputSection (fun _ => true) 1 := by
  refine Lossless.record (fun part => [("format", encode part.format)])
    (fun _ => rfl) (fun _ _ => rfl) (fun _ => rfl) (by simp) ?_ (fun _ _ _ _ _ => rfl) ?_
  · intro part known format byName
    change (do return ⟨← decode format _⟩ : Option OutputSection) = _
    rw [OutputFormat.lossless.kept rfl]
    rfl
  · exact fun part depth room => ⟨OutputFormat.lossless.fits _ _ (by omega), trivial⟩

theorem Settings.default_finite : Settings.default.isFinite = true := by
  simp [Settings.isFinite, Settings.default, Box.isFinite, Double.zero_finite, extent_finite]

theorem Settings.lossless : Lossless Settings Settings.isFinite 2 := by
  refine Lossless.record (fun settings => [("output", encode (OutputSection.mk settings.format)),
    ("viewport", encode settings.box)])
    (fun _ => rfl) (fun _ _ => rfl) (fun _ => rfl) (by simp) ?_ ?_ ?_
  · intro settings known format byName
    change (do
      let output : OutputSection ← decode format _
      return ⟨output.format, ← decode format _⟩ : Option Settings) = _
    rw [OutputSection.lossless.kept rfl, Box.lossless.kept known]
    rfl
  · intro format entries settings finite decoded
    split at decoded
    · simp only [Option.bind_eq_bind, Option.bind_eq_some_iff] at decoded
      obtain ⟨output, -, box, boxRead, decoded⟩ := decoded
      cases decoded
      exact Box.lossless.orElse (finite _ (by simp)) boxRead Settings.default_finite
    · cases decoded
  · exact fun settings depth room => ⟨OutputSection.lossless.fits _ _ room,
      Box.lossless.fits _ _ room, trivial⟩

end DeviceMap
