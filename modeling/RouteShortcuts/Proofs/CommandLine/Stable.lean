/-
  RouteShortcuts.Proofs.CommandLine.Stable — a manifest that is written again.

  A run that writes its manifest to a file adds the file and the directories it needs
  (`writeManifest_grows`). The next run scans what is there then. It finds the configuration that
  the first one found (`load_kept`) and the files that it listed, and it may find the manifest among
  them, by whatever name; but a manifest declares nothing (`found_new`), so the shortcuts are the
  same, and in the same order (`project_kept`, `payload_kept`).

  Proved: `generate_is_stable`, for a run that creates its file (`Creates`), if the file is not
  there once its directories are made (`Unused`) and links lead where they led or to what is new
  (`LinksStay`). Neither follows from the file's absence
  (`a_new_directory_changes_the_next_manifest`): `gen/../src/a.ts` names nothing as long as there is
  no `gen`, and then an old file, over which the manifest is written; a link that led nowhere may
  lead over the new directory to old files; and if it is a `.git` that leads to the new directory
  itself, the settings above are not found again.
-/

import RouteShortcuts.Proofs.CommandLine.Payload
import RouteShortcuts.Proofs.Config.Kept
import RouteShortcuts.Proofs.Discovery.Additions
import RouteShortcuts.Proofs.Manifest.Silent
import RouteShortcuts.Proofs.Scan.Accounts

namespace RouteShortcuts

open RouteShortcuts.Files

/-! ## What is found -/

namespace Scan

section

variable {New : String → Entry → Prop} {d d' : Disk} {options : Options} {path : String}

/-- Whatever cannot be read gives nothing. -/
theorem found_unread (h : ∀ text, d.readText path ≠ .ok text) : found d options path = [] := by
  unfold found file
  cases hread : d.readText path with
  | error refusal => rfl
  | ok text => exact absurd hread (h text)

/-- An old file gives what it gave. -/
theorem found_old (h : Grows New d d') (hpath : Discovery.LeadsToFile d path) :
    found d' options path = found d options path := by
  unfold found file
  rw [Discovery.readText_old h hpath]

/-- A new file gives nothing if all that is new is silent. -/
theorem found_new (h : Grows New d d')
    (hNew : ∀ name content, New name (.file content) → Silent content)
    (hpath : Discovery.LeadsToNew d d' path) : found d' options path = [] := by
  obtain ⟨place, content, hleads, hnone⟩ := hpath
  by_cases hread : ∃ text, d'.readText path = .ok text
  · obtain ⟨text, hread⟩ := hread
    obtain ⟨place', content', hl, htext⟩ := Disk.readText_ok hread
    rw [Disk.lookup_iff, Disk.start, hleads.absolute, if_pos rfl, hleads.walk] at hl
    cases hl.2
    obtain ⟨dir, name, -, hnew⟩ := h.fresh (Disk.walk_at? hleads.walk) hnone
    unfold found file
    rw [hread]
    simp only [hNew name content hnew text htext]
  · exact found_unread fun text hread' => hread ⟨text, hread'⟩

/-- A scan of a project that grows finds the shortcuts that it found. -/
theorem project_kept {signs : List String} (h : Grows New d d') (hs : d.top.sound = true)
    (hlinkFree : LinkFree New) (hlinks : LinksStay signs d d')
    (hNew : ∀ name content, New name (.file content) → Silent content) {root : String}
    (hroot : d.exists? root = true) (hup : ∀ pattern ∈ options.routeFiles, ".." ∉ pieces pattern) :
    (project d' options root).map (·.shortcuts) = (project d options root).map (·.shortcuts) := by
  have hextends := Discovery.files_extends h hs hlinkFree hlinks hroot hup
  unfold project
  generalize Discovery.files d' root options.routeFiles = listed',
    Discovery.files d root options.routeFiles = listed at hextends ⊢
  cases hextends with
  | fault f => rfl
  | @listed all' all hdrops hold =>
    have hfound : all'.flatMap (found d' options) = all.flatMap (found d options) := calc
      all'.flatMap (found d' options) = all.flatMap (found d' options) :=
        hdrops.flatMap_eq fun _ hpath => found_new h hNew hpath
      _ = all.flatMap (found d options) := List.flatMap_congr fun path hpath =>
        found_old h (hold path hpath)
    simp only [Except.map, files_eq, hfound]

end

end Scan

namespace CommandLine

/-! ## What a run adds -/

/-- Once the directories of a file are made nothing stands where it is to be written, not even a
link. -/
def Unused (d : Disk) (path : String) : Prop :=
  ∀ room, makeRoom d path = .ok room → ∀ found, room.lookup false path ≠ .ok found

theorem unused_iff {d : Disk} {path : String} : Unused d path ↔
    ((makeRoom d path).toOption.bind fun room => (room.lookup false path).toOption).isNone = true := by
  unfold Unused
  cases makeRoom d path with
  | error message => simp [Except.toOption]
  | ok room =>
    cases hl : room.lookup false path with
    | error r => simp [Except.toOption, hl]
    | ok found => simpa [Except.toOption, hl] using ⟨found.1, found.2, rfl⟩

instance (d : Disk) (path : String) : Decidable (Unused d path) := decidable_of_iff _ unused_iff.symm

/-- The entries that are made for a file: its directories and the file, each by a piece of the path. -/
def Made (path : String) (content : ByteArray) (name : String) (e : Entry) : Prop :=
  name ∈ pieces path ∧ (e = Entry.empty ∨ e = .file content)

section

variable {d d' room : Disk} {path text : String} {content : ByteArray} {format : ManifestFormat}

theorem linkFree_made : LinkFree (Made path content) := by
  rintro name target ⟨-, h | h⟩ <;> cases h

theorem makeRoom_grows (h : makeRoom d path = .ok room) : Grows (Made path content) d room := by
  have hnew : ∀ name ∈ pieces path, Made path content name Entry.empty := fun name hname =>
    ⟨hname, Or.inl rfl⟩
  unfold makeRoom at h
  split at h
  · cases h
    exact .refl _ d
  · rename_i above habove
    split at h
    · cases h
      exact .refl _ d
    · split at h
      · rename_i hmade
        cases h
        exact Disk.grows_makeDirectories hnew (ascends_parent habove fun p hp => Or.inr hp) hmade
      · cases h

/-- A file that is not there, be it in its new directories, is added with them. -/
theorem writeManifest_grows (hunused : Unused d path) (h : writeManifest d path text = (d', .ok ())) :
    Grows (Made path (text ++ "\n").toUTF8) d d' := by
  unfold writeManifest at h
  split at h
  · cases h
  · rename_i room hroom
    split at h
    · rename_i hwrite
      cases h
      exact (makeRoom_grows hroom).trans
        (Disk.grows_write (hunused room hroom) (fun name hname => ⟨hname, Or.inr rfl⟩) hwrite)
    · cases h

theorem silent_made {entries : List ManifestEntry} {name : String}
    (h : Made path (Manifest.render format entries ++ "\n").toUTF8 name (.file content)) :
    Scan.Silent content := by
  obtain ⟨-, h | h⟩ := h
  · cases h
  · cases h
    exact Scan.silent_manifest format entries

end

/-! ## Runs -/

section

variable {New : String → Entry → Prop} {d d' : Disk} {a : ScanArguments} {format : ManifestFormat}
    {options : Options}

theorem entriesOf_congr {scanned scanned' : Except DiscoveryFault Outcome}
    (h : scanned'.map (·.shortcuts) = scanned.map (·.shortcuts)) :
    entriesOf options scanned' = entriesOf options scanned := by
  cases scanned <;> cases scanned' <;> simp_all [Except.map, entriesOf]

/-- A run that is no error has written its payload, and what it leaves is what writing left. -/
theorem generate_writes {path : String} (hr : (generate d a format (some path)).status ≠ .error) :
    ∃ options, (a.options d).2 = .ok options ∧
      writeManifest d path
        (Manifest.render format (entriesOf options (Scan.project d options a.rootPath))) =
        ((generate d a format (some path)).disk, .ok ()) := by
  unfold generate at hr ⊢
  split at hr
  · exact absurd rfl hr
  · rename_i notes options ho
    rw [ho]
    simp only [entriesOf_eq] at hr ⊢
    refine ⟨options, rfl, ?_⟩
    split at hr
    · exact absurd rfl hr
    · rename_i hwrite
      rw [hwrite]

/-- The options of a project and its payload stay while files are added that declare nothing. -/
theorem payload_kept (h : Grows New d d') (hs : d.top.sound = true) (hlinkFree : LinkFree New)
    (hlinks : LinksStay Settings.signs d d') (hsigns : ∀ name ∈ Settings.signs, ∀ e, ¬ New name e)
    (hNew : ∀ name content, New name (.file content) → Scan.Silent content)
    (hroot : d.exists? a.rootPath = true) (hup : ∀ options, (a.options d).2 = .ok options →
      ∀ pattern ∈ options.routeFiles, ".." ∉ pieces pattern) :
    (a.options d').2 = (a.options d).2 ∧
      ∀ options, (a.options d).2 = .ok options →
        payload d' a format options = payload d a format options := by
  refine ⟨?_, fun options ho => ?_⟩
  · unfold ScanArguments.options
    rw [Settings.load_kept h hs hlinkFree hlinks hsigns hroot]
  · unfold payload
    rw [entriesOf_congr (Scan.project_kept h hs hlinkFree hlinks hNew hroot (hup options ho))]

end

/-- A run that writes a manifest to where nothing is, of a project whose patterns have no steps up. -/
structure Creates (d : Disk) (e : Environment) (args : List String) (a : ScanArguments)
    (format : ManifestFormat) (path : String) : Prop where
  asked : Invocation.ofArguments args = .ok (.generate a format (some path))
  sound : d.top.sound = true
  root : d.exists? a.rootPath = true
  patterns : ∀ options, (a.options d).2 = .ok options → ∀ pattern ∈ options.routeFiles,
    ".." ∉ pieces pattern
  absent : d.exists? path = false
  names : ∀ name ∈ pieces path, name ∉ Settings.signs
  succeeds : (run d e args).status ≠ .error

/-- After a run and after the next one the path has the same content. -/
def Settles (d : Disk) (e e' : Environment) (args : List String) (path : String) : Prop :=
  ∃ content, (run d e args).disk.read path = .ok content ∧
    (run (run d e args).disk e' args).disk.read path = .ok content

/-- A manifest that is written to an unused path is written with the same content by the next run,
even if that run searches it. -/
theorem generate_is_stable {d : Disk} {e : Environment} {args : List String} {a : ScanArguments}
    {format : ManifestFormat} {path : String} (h : Creates d e args a format path)
    (hunused : Unused d path) (hlinks : LinksStay Settings.signs d (run d e args).disk)
    {e' : Environment} (hagain : (run (run d e args).disk e' args).status ≠ .error) :
    Settles d e e' args path := by
  unfold Settles
  have hfirst := h.succeeds
  rw [finish_generate h.asked] at hfirst hagain hlinks ⊢
  rw [finish_generate h.asked] at hagain ⊢
  simp only [finish_status, finish_disk] at hfirst hagain hlinks ⊢
  obtain ⟨options, ho, hwrite⟩ := generate_writes hfirst
  obtain ⟨options', ho', hwrite'⟩ := generate_writes hagain
  obtain ⟨hoptions, hpayload⟩ :=
    payload_kept (writeManifest_grows hunused hwrite) h.sound linkFree_made hlinks
    (fun name hsign e hmade => h.names name hmade.1 hsign)
      (fun name content => silent_made) h.root h.patterns
  rw [hoptions, ho] at ho'
  cases ho'
  refine ⟨(payload d a format options).toUTF8, writeManifest_read hwrite, ?_⟩
  rw [← hpayload options ho]
  exact writeManifest_read hwrite'

/-! ### Projects with one route -/

def settingsText : String :=
  "\x7b\"routeFiles\": \"src/**/*.ts\", \"routeExportPattern\": \"a\", \"iconSizes\": []\x7d"

def routeText : String := "export const a = f(\"/\", \x7bname: \"A\"\x7d)"

def routeDisk : Disk :=
  { top := .directory [(Settings.fileName, .file settingsText.toUTF8),
    ("src", .directory [("a.ts", .file routeText.toUTF8)])] }

/-- The routes behind a link, which leads nowhere as long as there is no `gen`. -/
def linkedDisk : Disk :=
  { top := .directory [(Settings.fileName, .file settingsText.toUTF8),
    ("app", .directory [("a.ts", .file routeText.toUTF8)]),
      ("src", .link "gen/../app")] }

/-- A project below its settings. Once there is a `gen` its link bounds the search for them. -/
def boundedDisk : Disk :=
  { top := .directory [(Settings.fileName, .file settingsText.toUTF8),
      ("app",
        .directory [(".git", .link "gen"), ("src", .directory [("a.ts", .file routeText.toUTF8)])])]
    working := ["app"] }

def routeScan : ScanArguments := { functionName := some "f" }

def routesInto (output : String) : List String :=
  ["generate", "--function-name", "f", "--output", output]

theorem creates_routesInto {d : Disk} {output : String} (hsound : d.top.sound = true)
    (hroot : d.exists? "." = true) (hasked : Invocation.ofArguments (routesInto output) =
      .ok (.generate routeScan .json (some output)))
    (hpatterns : (routeScan.options d).2.toOption.map (·.routeFiles) = some ["src/**/*.ts"])
    (habsent : d.exists? output = false) (hnames : ∀ name ∈ pieces output, name ∉ Settings.signs)
    (hsucceeds : (run d {} (routesInto output)).status ≠ .error) :
    Creates d {} (routesInto output) routeScan .json output := by
  refine ⟨hasked, hsound, hroot, fun options ho => ?_, habsent, hnames, hsucceeds⟩
  rw [ho] at hpatterns
  have hsame : options.routeFiles = ["src/**/*.ts"] := Option.some.inj hpatterns
  rw [hsame]
  decide +kernel

/-- The manifest lies among the routes, with a name as one of them. -/
theorem a_manifest_among_routes_stays :
    Settles routeDisk {} {} (routesInto "src/gen/m.ts") "src/gen/m.ts" :=
  generate_is_stable (creates_routesInto (by decide +kernel) (by decide +kernel) (by decide +kernel)
    (by decide +kernel)
    (by decide +kernel) (by decide +kernel) (by decide +kernel)) (by decide +kernel)
      (linksStay_of_linkFree (by decide +kernel))
    (by decide +kernel)

/-- A run creates its file, and the next one succeeds as well but leaves another content. -/
def Unstable (d : Disk) (output : String) : Prop :=
  Creates d {} (routesInto output) routeScan .json output ∧
    (run (run d {} (routesInto output)).disk {} (routesInto output)).status ≠ .error ∧
      ¬ Settles d {} {} (routesInto output) output

theorem not_settles {d : Disk} {e e' : Environment} {args : List String} {path : String}
    (h : ((run d e args).disk.readText path).toOption ≠
      ((run (run d e args).disk e' args).disk.readText path).toOption) :
    ¬ Settles d e e' args path := by
  rintro ⟨content, hread, hread'⟩
  refine h ?_
  unfold Disk.readText
  rw [hread, hread']

/-- A new directory may change what the next run scans, though the file was not there: the path of
the file leads over it to a route, a link leads over it to the routes, or a link to it ends the
search for the settings. -/
theorem a_new_directory_changes_the_next_manifest :
    Unstable routeDisk "gen/../src/a.ts" ∧ Unstable linkedDisk "gen/m.json" ∧
    Unstable boundedDisk "gen/m.json" := by
  refine ⟨⟨creates_routesInto ?_ ?_ ?_ ?_ ?_ ?_ ?_, ?_, not_settles ?_⟩,
    ⟨creates_routesInto ?_ ?_ ?_ ?_ ?_ ?_ ?_, ?_, not_settles ?_⟩,
    ⟨creates_routesInto ?_ ?_ ?_ ?_ ?_ ?_ ?_, ?_, not_settles ?_⟩⟩
  all_goals decide +kernel

end CommandLine

end RouteShortcuts
