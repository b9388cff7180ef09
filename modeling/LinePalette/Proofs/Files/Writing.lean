import LinePalette.Files.Disk
import LinePalette.Proofs.Text.Encoding

/-!
# Writing files

A file that has been written holds what was written and is found at the same
path.  Nothing else on the disk is different.  A text is copied to the clipboard
without any file being touched.
-/

namespace LinePalette
namespace Disk

variable {disk written : Disk} {path : Text} {location : Location} {content : Bytes}

/-!
# Entries
-/

theorem get?_put_of_ne {other : Location} (hother : other ≠ location) (entry : Entry) :
    (disk.put location entry).get? other = disk.get? other := by
  rw [get?_put]
  by_cases hhere : other.isPrefixOf disk.here = true
  · rw [if_pos hhere]
    unfold get?
    rw [if_pos hhere]
  · rw [if_neg hhere, if_neg hother]

theorem get?_put_self (h : disk.isFolder location = false) (entry : Entry) :
    (disk.put location entry).get? location = some entry := by
  have hhere : ¬location.isPrefixOf disk.here = true := by
    intro hprefix
    unfold isFolder get? at h
    rw [if_pos hprefix] at h
    cases h
  rw [get?_put, if_neg hhere, if_pos rfl]

/-!
# Folders

A file put where there is no folder takes no folder away, so every path leads to
where it led before.
-/

theorem isFolder_put_file (h : disk.isFolder location = false) (other : Location) :
    (disk.put location (.file content)).isFolder other = disk.isFolder other := by
  by_cases hsame : other = location
  · rw [hsame, h]
    unfold isFolder
    rw [get?_put_self h]
    rfl
  · unfold isFolder
    rw [get?_put_of_ne hsame]

theorem step?_put_file (h : disk.isFolder location = false) :
    (disk.put location (.file content)).step? = disk.step? := by
  funext start name
  unfold step?
  rw [isFolder_put_file h]

theorem locate?_put_file (h : disk.isFolder location = false) (other : Text) :
    (disk.put location (.file content)).locate? other = disk.locate? other := by
  unfold locate?
  rw [step?_put_file h]
  rfl

/-!
# The written file
-/

theorem put_of_writeFile? (h : disk.writeFile? path content = some written) :
    ∃ location,
      disk.locate? path = some location ∧ disk.isFolder location = false ∧
      written = disk.put location (.file content) := by
  unfold writeFile? at h
  rcases Option.map_eq_some_iff.mp h with ⟨location, hlocation, rfl⟩
  unfold fileLocation? at hlocation
  split at hlocation
  · cases hlocation
  · split at hlocation
    · rcases Option.filter_eq_some_iff.mp hlocation with ⟨hlocate, hfolder⟩
      refine ⟨location, hlocate, ?_, rfl⟩
      simpa using hfolder
    · cases hlocation

theorem readFile?_of_writeFile? (h : disk.writeFile? path content = some written) :
    written.readFile? path = some content := by
  rcases put_of_writeFile? h with ⟨location, hlocate, hfolder, rfl⟩
  have hentry : (disk.put location (.file content)).entryAt? path = some (.file content) := by
    unfold entryAt?
    rw [locate?_put_file hfolder, hlocate]
    exact get?_put_self hfolder (.file content)
  unfold readFile?
  rw [hentry]

theorem pathExists_of_readFile? (h : disk.readFile? path = some content) :
    disk.pathExists path = true := by
  unfold readFile? at h
  split at h
  · next hentry =>
      unfold pathExists
      rw [hentry]
      rfl
  · cases h

theorem readText?_of_readFile? {text : Text}
    (h : disk.readFile? path = some (Utf8.encode text)) : disk.readText? path = some text := by
  unfold readText?
  rw [h]
  exact Utf8.decode?_encode text

theorem get?_of_writeFile? (h : disk.writeFile? path content = some written) :
    ∃ location,
      disk.locate? path = some location ∧
      ∀ other, other ≠ location -> written.get? other = disk.get? other := by
  rcases put_of_writeFile? h with ⟨location, hlocate, _, rfl⟩
  refine ⟨location, hlocate, ?_⟩
  intro other hother
  exact get?_put_of_ne hother (.file content)

theorem clipboard_of_writeFile? (h : disk.writeFile? path content = some written) :
    written.clipboard = disk.clipboard := by
  rcases put_of_writeFile? h with ⟨location, _, _, rfl⟩
  rfl

/-!
# The clipboard
-/

theorem eq_of_copy? {text : Text} (h : disk.copy? text = some written) :
    written = { disk with clipboard := { disk.clipboard with contents := some text } } := by
  unfold copy? at h
  split at h
  · exact (Option.some.inj h).symm
  · cases h

theorem get?_of_copy? {text : Text} (h : disk.copy? text = some written) (location : Location) :
    written.get? location = disk.get? location := by
  rw [eq_of_copy? h]
  rfl

theorem contents_of_copy? {text : Text} (h : disk.copy? text = some written) :
    written.clipboard.contents = some text := by
  rw [eq_of_copy? h]

/-!
# The same content again
-/

theorem get?_of_readFile? (h : disk.readFile? path = some content) :
    ∃ location,
      disk.locate? path = some location ∧ disk.get? location = some (.file content) := by
  unfold readFile? at h
  split at h
  · next found hentry =>
      cases h
      unfold entryAt? at hentry
      exact Option.bind_eq_some_iff.mp hentry
  · cases h

theorem get?_of_writeFile?_same (hread : disk.readFile? path = some content)
    (hwrite : disk.writeFile? path content = some written) (other : Location) :
    written.get? other = disk.get? other := by
  rcases put_of_writeFile? hwrite with ⟨location, hlocate, hfolder, rfl⟩
  rcases get?_of_readFile? hread with ⟨known, hknown, hcontent⟩
  rw [hlocate] at hknown
  cases hknown
  by_cases hsame : other = location
  · rw [hsame, get?_put_self hfolder, hcontent]
  · exact get?_put_of_ne hsame (.file content)

end Disk
end LinePalette
