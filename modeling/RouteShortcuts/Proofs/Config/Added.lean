/-
  RouteShortcuts.Proofs.Config.Added — a configuration that is written where a project had none.

  Where a search found nothing, something ended it or it came to the top; either stays so. So once
  files are added it finds nothing still, or one of them (`search_added`), in the directory itself
  or, by a link that led nowhere, above it. If all of them are written from one configuration, that
  one holds or the default does (`load_added`); and it holds for the directory that the file is in,
  unless the path of the file is longer than the system takes (`load_here`).
-/

import RouteShortcuts.Proofs.Config.Nearest
import RouteShortcuts.Proofs.Config.RoundTrip
import RouteShortcuts.Proofs.Files.Added

namespace RouteShortcuts

open RouteShortcuts.Files

def Config.content (c : Config) : ByteArray := (c.text ++ "\n").toUTF8

namespace Settings

/-- Only files written from a configuration are new, by the name of one. -/
def WrittenFrom (c : Config) (name : String) (e : Entry) : Prop := name = fileName ∧ e = .file c.content

theorem filesOnly_writtenFrom (c : Config) : FilesOnly (WrittenFrom c) := fun _ _ h => ⟨_, h.2⟩

section

variable {New : String → Entry → Prop} {d d' : Disk} {directory path : String} {c : Config}

/-- What a search finds that found nothing was not there. -/
theorem search_added (h : Grows New d d') {directories : List String}
    (hnone : search d directories = none) (hfound : search d' directories = some path) :
    d.exists? path = false := by
  induction directories with
  | nil => cases hfound
  | cons directory above ih =>
    rw [search] at hnone hfound
    split at hnone
    · cases hnone
    · rename_i hconfig
      rw [Bool.not_eq_true] at hconfig
      split at hfound
      · cases hfound
        exact hconfig
      · split at hfound
        · cases hfound
        · rename_i hgit'
          split at hnone
          · rename_i hgit
            exact absurd (h.exists? hgit) hgit'
          · exact ih hnone hfound

theorem readText_content {place : Location} (hl : d.lookup true path = .ok (place, .file c.content)) :
    d.readText path = .ok (c.text ++ "\n") := by
  have htext : String.fromUTF8? (c.text ++ "\n").toUTF8 = some (c.text ++ "\n") :=
    dif_pos (c.text ++ "\n").isValidUTF8
  simp only [Disk.readText, Disk.read, hl, Config.content, bind, Except.bind, htext]
  rfl

/-- The configuration of a file that is new. -/
theorem load_written (h : Grows (WrittenFrom c) d d')
    (hworking : (d.top.at? d.working).isSome = true) {pattern : SearchPattern}
    (hpattern : c.exportPattern = .ok pattern) (hfound : find? d' directory = some path)
    (hnew : d.exists? path = false) : load d' directory = .ok ⟨c, true⟩ := by
  obtain ⟨place, e, hl⟩ := Disk.exists?_lookup.mp (exists_of_search hfound)
  have hnone : d.top.at? place = none := by
    refine (h.lookup_files (filesOnly_writtenFrom c) hworking hl).resolve_left ?_
    rintro ⟨old, hold⟩
    rw [Disk.exists?_lookup.mpr ⟨place, old, hold⟩] at hnew
    cases hnew
  obtain ⟨_, _, -, -, hbare⟩ := h.fresh (Disk.lookup_at? hl) hnone
  obtain rfl := bare_file.mp hbare
  unfold load
  rw [hfound]
  simp only [readText_content hl, Config.read_line, hpattern]

/-- Where there was no configuration, there is the default or the one that was written. -/
theorem load_added (h : Grows (WrittenFrom c) d d') (hworking : (d.top.at? d.working).isSome = true)
    {pattern : SearchPattern} (hpattern : c.exportPattern = .ok pattern)
    (hroot : d.exists? directory = true) (hnone : find? d directory = none) :
    load d' directory = .ok ⟨{}, false⟩ ∨ load d' directory = .ok ⟨c, true⟩ := by
  cases hfound : find? d' directory with
  | none =>
    refine Or.inl ?_
    unfold load
    rw [hfound]
  | some path =>
    refine Or.inr (load_written h hworking hpattern hfound ?_)
    unfold find? at hnone hfound
    rw [h.canonical hroot] at hfound
    exact search_added h hnone hfound

/-- In the directory of the file it holds, unless the path of the file is too long. -/
theorem load_here (h : Grows (WrittenFrom c) d d') (hworking : (d.top.at? d.working).isSome = true)
    {pattern : SearchPattern} (hpattern : c.exportPattern = .ok pattern) (hs : d.top.sound = true)
    {place : Location} {e : Entry} (hstart : d.lookup true directory = .ok (place, e))
    (hnone : d.top.at? (place ++ [fileName]) = none)
    {content : ByteArray} (hfile : d'.top.at? (place ++ [fileName]) = some (.file content))
    (hshort : (Location.path (place ++ [fileName])).utf8ByteSize ≤ pathLimit) :
    find? d' directory = some (Location.path (place ++ [fileName])) ∧
      load d' directory = .ok ⟨c, true⟩ := by
  have hs' : d'.top.sound = true := h.sound hs
  obtain ⟨e', hstart', -⟩ := h.lookup hstart
  have hat' := Disk.lookup_at? hstart'
  have hholds : Holds d' place fileName := by
    refine Disk.exists?_lookup.mpr ⟨place ++ [fileName], .file content, ?_⟩
    exact (Disk.lookup_name_some hs' hat' (Disk.lookup_not_link hstart') (by decide) hfile
      (by simp)).mpr ⟨hshort, rfl, rfl⟩
  have hfound : find? d' directory = some (Location.path (place ++ [fileName])) := by
    rw [find?_eq hs' hstart', search_iff (at?_names hs' hat') (Nat.le_succ _)]
    exact ⟨place, reaches_refl d' place, hholds, rfl⟩
  refine ⟨hfound, load_written h hworking hpattern hfound ?_⟩
  exact Disk.lookup_name_none hs (Disk.lookup_at? hstart)
    (Disk.lookup_not_link hstart) (by decide) hnone

end

end Settings
end RouteShortcuts
