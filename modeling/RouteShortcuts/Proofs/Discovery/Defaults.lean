/-
  RouteShortcuts.Proofs.Discovery.Defaults — the default patterns and a configuration file that is
  added.

  The default glob ends with a choice of extensions, none of which ends the name of the
  configuration file (`not_default_match`). So where such a file is added, be it below the base of
  the glob over whatever links, it is not listed, and the default patterns list what they listed
  (`files_default`).
-/

import RouteShortcuts.Proofs.Discovery.Order
import RouteShortcuts.Proofs.Files.Added
import RouteShortcuts.Proofs.Glob.Ending
import RouteShortcuts.Config
import RouteShortcuts.Settings

namespace RouteShortcuts

open RouteShortcuts.Files RouteShortcuts.Glob

/-- The default glob, as it is read. -/
def defaultGlob : Glob where
  pattern := "src/routes/**/*.\x7bjs,jsx,ts,tsx\x7d"
  parts := "src/routes".toList.map .literal ++ [.anyMiddle, .star, .literal '.'] ++
    [choice ["js", "jsx", "ts", "tsx"]]

theorem compile_default : Discovery.compile defaultGlob.pattern = .ok defaultGlob := by rfl

/-- The default glob matches no path that ends like the configuration file. -/
theorem not_default_match (front : String) :
    defaultGlob.isMatch (front ++ Settings.fileName) = false := by
  refine Bool.eq_false_iff.mpr fun hm => ?_
  obtain ⟨text, hmem, hends⟩ := ending_of_match rfl rfl hm
  have hall : ∀ text ∈ ["js", "jsx", "ts", "tsx"],
      (octetsOf text).length ≤ (octetsOf Settings.fileName).length ∧
        ¬ octetsOf text <:+ octetsOf Settings.fileName := by
    decide +kernel
  obtain ⟨hshort, hno⟩ := hall text hmem
  rw [octetsOf_append] at hends
  exact hno (List.suffix_of_suffix_length_le hends (List.suffix_append _ _) hshort)

namespace Discovery

/-- Only configuration files are new. -/
def ConfigsOnly (name : String) (e : Entry) : Prop :=
  name = Settings.fileName ∧ ∃ content, e = .file content

theorem filesOnly_configs : FilesOnly ConfigsOnly := fun _ _ h => h.2

theorem default_relative : isAbsolute defaultGlob.pattern = false := by decide

theorem names_default {place : Location} (hp : ∀ s ∈ place, IsName s) :
    ∀ s ∈ place ++ ["src", "routes"], IsName s := by
  have hall : ∀ s ∈ ["src", "routes"], isEntryName s = true := by decide
  intro s hs
  rcases List.mem_append.mp hs with hs | hs
  · exact hp s hs
  · exact isName_of_isEntryName (hall s hs)

theorem basePath_default {place : Location} (hp : ∀ s ∈ place, IsName s) :
    basePath place.path defaultGlob.pattern = Location.path (place ++ ["src", "routes"]) := by
  have hnames : ∀ s ∈ pieces defaultGlob.pattern, isEntryName s = true := by decide +kernel
  have hbase : baseNames defaultGlob.pattern = ["src", "routes"] := by decide +kernel
  rw [basePath_eq (fun s hs => isName_of_isEntryName (hnames s hs)) hp, hbase]
  rfl

section

variable {d d' : Disk} {place : Location}

/-- What the default glob lists is no new configuration file. -/
theorem not_new_of_default (h : Grows ConfigsOnly d d') (hs' : d'.top.sound = true)
    (hp : ∀ s ∈ place, IsName s) {x : String} (hx : x ∈ filesOfGlob d' place.path defaultGlob) :
    ¬ LeadsToNew d d' x := by
  rintro ⟨at_, content, hleads, hnone⟩
  have hfound : x ∈ [defaultGlob].flatMap (filesOfGlob d' place.path) := by rwa [List.flatMap_singleton]
  obtain ⟨g, hg, start, names, hf, rfl⟩ := (mem_found hs').mp hfound
  obtain rfl := List.mem_singleton.mp hg
  obtain ⟨content', hfile⟩ := hf.file
  have hat : start ++ names = at_ :=
    (hf.starts.leadsTo hs' (isAbsolute_join (isAbsolute_path place) _) hfile).same_place
      hleads (samePath_refl _)
  obtain ⟨dir, name, hplace, rfl, -⟩ := h.fresh (Disk.walk_at? hleads.walk) hnone
  rw [hplace] at hat
  have hm := hf.matched
  cases names using List.reverseRecOn with
  | nil =>
    -- the path is that of the base
    have hbase : spelled place.path defaultGlob [] = Location.path (place ++ ["src", "routes"]) :=
      basePath_default hp
    have hcandidate : candidate place.path defaultGlob.pattern (spelled place.path defaultGlob []) =
        "src/routes" := by
      rw [hbase, candidate, default_relative, if_neg Bool.false_ne_true,
        stripPrefix?_path (names_default hp), Option.getD_some]
      decide
    have hno : defaultGlob.isMatch "src/routes" = false := by decide +kernel
    rw [hcandidate, hno] at hm
    cases hm
  | append_singleton names last =>
    rw [← List.append_assoc] at hat
    obtain ⟨-, hlast⟩ := List.append_inj' hat rfl
    obtain rfl := List.singleton_inj.mp hlast
    have hn : ∀ s ∈ names ++ [Settings.fileName], IsName s := fun s hs =>
      hf.isName hs' s (List.mem_append_right start hs)
    obtain ⟨rest, hrest, -, hends⟩ := stripPrefix?_spelled default_relative hp hn
    obtain ⟨front, rfl⟩ := hends names _ rfl
    rw [candidate, default_relative, if_neg Bool.false_ne_true, hrest, Option.getD_some,
      not_default_match] at hm
    cases hm

/-- The default patterns list what they listed, and each listed path leads to a file. -/
theorem files_default (h : Grows ConfigsOnly d d') (hs : d.top.sound = true) {root : String}
    (hroot : d.exists? root = true) :
    files d' root ({} : Config).routeFiles = files d root ({} : Config).routeFiles ∧
      ∀ listed, files d root ({} : Config).routeFiles = .ok listed → ∀ path ∈ listed,
        LeadsToFile d path := by
  obtain ⟨place, e, hl⟩ := Disk.exists?_lookup.mp hroot
  have hcanonical : d.canonical root = .ok place.path := Disk.canonical_ok.mpr ⟨place, e, hl, rfl⟩
  have hcanonical' : d'.canonical root = .ok place.path := by rw [h.canonical hroot, hcanonical]
  have hp : ∀ s ∈ place, IsName s := at?_names hs (Disk.lookup_at? hl)
  have hup : ".." ∉ pieces (basePath place.path defaultGlob.pattern) := by
    rw [basePath_default hp, pieces_path (fun s hmem => (names_default hp s hmem).noSlash) (by simp)]
    intro hmem
    rcases List.mem_cons.mp hmem with hmem | hmem
    · exact absurd hmem (by decide)
    · exact (names_default hp _ hmem).notUp rfl
  have hsame : filesOfGlob d' place.path defaultGlob = filesOfGlob d place.path defaultGlob :=
    (filesOfGlob_drops h hs filesOnly_configs.linkFree (linksStay_files h filesOnly_configs)
      (isAbsolute_path place) hup).eq_of_none
      fun x hx => not_new_of_default h (h.sound hs) hp hx
  have hdefault : ({} : Config).routeFiles = [defaultGlob.pattern] := rfl
  rw [hdefault, files_one (h.sound hs) hcanonical' compile_default,
    files_one hs hcanonical compile_default, hsame]
  refine ⟨rfl, fun listed hlisted path hpath => ?_⟩
  cases hlisted
  exact leadsToFile_of_mem hs (isAbsolute_path place) hpath

end

end Discovery
end RouteShortcuts
