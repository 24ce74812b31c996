/-
  RouteShortcuts.Proofs.CommandLine.Init — `init` does not change what the other commands say.

  What a command says follows from its options, from the scan it makes, and from how the root is
  shown (`ReadsSame`, `scan_same`, `generate_same`). `init` puts one file where nothing had its
  name, and so where no configuration was found there is the default still, now from that file or as
  before (`load_added`). The default patterns do not list a file of that name, so the same files are
  scanned, and all of them read as they did (`project_default`).

  Proved: `init_keeps_reports`. Whether there is a configuration already is asked of what the name
  leads to, as the search asks it: so `init` follows a link of that name that leads nowhere, and
  writes where it points; and a configuration whose path is too long is written and not found again
  (`init_goes_by_what_is_found`).
-/

import RouteShortcuts.Proofs.CommandLine.Agreement
import RouteShortcuts.Proofs.CommandLine.Priority
import RouteShortcuts.Proofs.Config.Added
import RouteShortcuts.Proofs.Discovery.Defaults
import RouteShortcuts.Proofs.Pattern.Defaults

namespace RouteShortcuts

open RouteShortcuts.Files RouteShortcuts.Styled

namespace Scan

/-- A scan by the default patterns finds what it found. -/
theorem project_default {d d' : Disk} (h : Grows Discovery.ConfigsOnly d d')
    (hs : d.top.sound = true) {root : String} (hroot : d.exists? root = true) {options : Options}
    (ho : options.routeFiles = ({} : Config).routeFiles) :
    project d' options root = project d options root := by
  obtain ⟨hsame, hleads⟩ := Discovery.files_default h hs hroot
  unfold project
  rw [ho, hsame]
  cases hlisted : Discovery.files d root ({} : Config).routeFiles with
  | error fault => rfl
  | ok listed =>
    have hfiles : files d' options listed = files d options listed := by
      refine List.foldl_ext _ _ _ fun o path hpath => ?_
      unfold addFile file
      rw [Discovery.readText_old h (hleads listed hlisted path hpath)]
    rw [Except.map, Except.map, hfiles]

end Scan

namespace CommandLine

/-! ## What a command reads -/

/-- In two file systems a command with these arguments has the same to go by. -/
structure ReadsSame (d d' : Disk) (a : ScanArguments) : Prop where
  options : a.options d' = a.options d
  scanned : ∀ options, (a.options d).2 = .ok options →
    Scan.project d' options a.rootPath = Scan.project d options a.rootPath
  noted : ∀ options, a.searchNotes (a.search d' options) = a.searchNotes (a.search d options)
  root : d'.canonical a.rootPath = d.canonical a.rootPath

section

variable {d d' : Disk} {a : ScanArguments}

theorem scan_same (h : ReadsSame d d' a) : scan d' a = { scan d a with disk := d' } := by
  unfold scan
  rw [h.options, h.root]
  split
  · rfl
  · rename_i notes options ho
    rw [h.scanned options (by rw [ho]), h.noted]
    split <;> rfl

theorem generate_same (h : ReadsSame d d' a) (format : ManifestFormat) :
    generate d' a format none = { generate d a format none with disk := d' } := by
  unfold generate
  rw [h.options]
  split
  · rfl
  · rename_i notes options ho
    rw [h.scanned options (by rw [ho]), h.noted]

/-- The options follow from the configuration, and from whether a file says it only if that is to be
noted. -/
theorem options_same (hv : a.verbose = false) {config : Config} {fromFile fromFile' : Bool}
    (h : Settings.load d a.rootPath = .ok ⟨config, fromFile⟩)
    (h' : Settings.load d' a.rootPath = .ok ⟨config, fromFile'⟩) :
    a.options d' = a.options d := by
  unfold ScanArguments.options ScanArguments.configNote
  rw [h, h']
  simp only [hv, Bool.false_eq_true, false_and, if_false]

/-- Patterns that are not given are those of the configuration. -/
theorem routeFiles_of_options {loaded : Loaded} (h : Settings.load d a.rootPath = .ok loaded)
    (hfiles : a.routeFiles = []) {options : Options} (ho : (a.options d).2 = .ok options) :
    options.routeFiles = loaded.config.routeFiles := by
  obtain ⟨o, hresolve⟩ := History.resolves_of_load h
  have hpattern : (a.override loaded.config).exportPattern = .ok o.routeExportPattern := by
    rw [Config.exportPattern, ScanArguments.override, (resolve_ok hresolve).1]
  rw [options_of_load h (resolve_of_pattern hpattern)] at ho
  cases ho
  simp [ScanArguments.override, hfiles]

end

/-! ## The file that is written -/

/-- The directory worked in is where a search starts. -/
theorem lookup_working {d : Disk} {entries : List (String × Entry)}
    (hd : d.top.at? d.working = some (.directory entries)) :
    d.lookup true "." = .ok (d.working, .directory entries) := by
  have hway : Disk.Way d.top true 0 d.working ["."] d.working :=
    .on hd (.blank (Or.inr rfl)) (.here (by rw [hd]; rfl))
  exact Disk.lookup_iff.mpr ⟨⟨by decide, by decide, by decide⟩,
    Disk.walk_of_way hway hd (Nat.zero_le _)⟩

/-- A project that nothing configures, and that has a directory to work in where nothing is named as a
configuration is. -/
structure Unconfigured (d : Disk) : Prop where
  sound : d.top.sound = true
  directory : ∃ entries, d.top.at? d.working = some (.directory entries)
  unnamed : d.top.at? (d.working ++ [Settings.fileName]) = none
  unfound : Settings.find? d "." = none

/-- The project with the default configuration in that directory. -/
def configured (d : Disk) : Disk :=
  d.change d.working (put Settings.fileName (.file ({} : Config).content))

namespace Unconfigured

variable {d : Disk} (h : Unconfigured d)

include h

theorem vacant : Vacant d.top d.working Settings.fileName := by
  obtain ⟨entries, hd⟩ := h.directory
  exact ⟨entries, hd, by rw [← at?_name hd, h.unnamed]⟩

theorem grows : Grows (Settings.WrittenFrom {}) d (configured d) :=
  grows_put h.vacant (by decide) (fun _ _ => rfl) rfl ⟨rfl, rfl⟩

theorem isSome_working : (d.top.at? d.working).isSome = true := by
  obtain ⟨entries, hd⟩ := h.directory
  rw [hd]
  rfl

theorem lookup_here : ∃ entries, d.lookup true "." = .ok (d.working, .directory entries) := by
  obtain ⟨entries, hd⟩ := h.directory
  exact ⟨entries, lookup_working hd⟩

theorem exists_here : d.exists? "." = true := by
  obtain ⟨entries, hl⟩ := h.lookup_here
  exact Disk.exists?_lookup.mpr ⟨_, _, hl⟩

/-- The name of a configuration leads to where there is none yet. -/
theorem walkNames_fileName (follow : Bool) (jump : Location → List String → Except Refusal Target) :
    Disk.walkNames d.top follow jump d.working [Settings.fileName] =
      .ok (.absent d.working Settings.fileName) := by
  obtain ⟨entries, hd, hf⟩ := h.vacant
  have hname : Disk.Nameable Settings.fileName := ⟨by decide, by decide, by decide⟩
  exact Disk.walkNames_cons_iff.mpr ⟨entries, _, hd, .free hname hf, rfl, rfl⟩

theorem not_exists_fileName : d.exists? Settings.fileName = false := by
  have htarget : d.target true Settings.fileName = .ok (.absent d.working Settings.fileName) :=
    Disk.along_ok.mpr ⟨⟨by decide, by decide, by decide⟩, h.walkNames_fileName _ _⟩
  simp only [Disk.exists?, Disk.lookup, htarget]

theorem write_fileName (content : ByteArray) :
    d.write Settings.fileName content =
      .ok (d.change d.working (put Settings.fileName (.file content))) := by
  have htarget : d.along Settings.fileName (Disk.walkToWrite d.top linkLimit) =
      .ok (.absent d.working Settings.fileName) := by
    refine Disk.along_ok.mpr ⟨⟨by decide, by decide, by decide⟩, ?_⟩
    exact h.walkNames_fileName _ _
  unfold Disk.write
  rw [htarget]
  rfl

theorem init_eq :
    init d = { disk := configured d, out := successLine ("Created " ++ Settings.fileName) } := by
  unfold init
  rw [h.not_exists_fileName, if_neg Bool.false_ne_true, h.write_fileName]
  rfl

/-- The default holds, as before. -/
theorem load_configured : ∃ fromFile, Settings.load (configured d) "." = .ok ⟨{}, fromFile⟩ := by
  obtain ⟨pattern, hpattern, -⟩ := default_pattern
  rcases Settings.load_added h.grows h.isSome_working hpattern h.exists_here h.unfound with hl | hl
  · exact ⟨false, hl⟩
  · exact ⟨true, hl⟩

/-- By the patterns of the configuration, and with nothing to be noted, a command goes by what it
went by. -/
theorem readsSame {a : ScanArguments} (hroot : a.root = none) (hfiles : a.routeFiles = [])
    (hv : a.verbose = false) : ReadsSame d (configured d) a := by
  have hhere : a.rootPath = "." := by rw [ScanArguments.rootPath, hroot, Option.getD_none]
  have hload : Settings.load d "." = .ok ⟨{}, false⟩ := by
    unfold Settings.load
    rw [h.unfound]
  obtain ⟨fromFile, hload'⟩ := h.load_configured
  have hconfigs : Grows Discovery.ConfigsOnly d (configured d) := h.grows.mono fun _ _ hnew =>
    ⟨hnew.1, _, hnew.2⟩
  rw [← hhere] at hload hload'
  refine ⟨options_same hv hload hload', fun options ho => ?_, fun options => ?_, ?_⟩
  · rw [hhere]
    exact Scan.project_default hconfigs h.sound h.exists_here (routeFiles_of_options hload hfiles ho)
  · rw [searchNotes_quiet hv, searchNotes_quiet hv]
  · rw [hhere]
    exact h.grows.canonical h.exists_here

end Unconfigured

/-! ## Runs -/

/-- What is asked for, if anything is, is a scan of the project worked in or its manifest on the
output, by the patterns of the configuration and with nothing noted. -/
def Plain (args : List String) : Prop :=
  ∀ i, Invocation.ofArguments args = .ok i → ∃ a : ScanArguments, a.root = none ∧
    a.routeFiles = [] ∧ a.verbose = false ∧
    (i = .scan a ∨ ∃ format, i = .generate a format none)

/-- Two runs say the same and end in the same way. -/
structure SameReport (r r' : Finish) : Prop where
  out : r'.out = r.out
  err : r'.err = r.err
  status : r'.status = r.status

theorem sameReport_finish (colours : Bool) (r : Result) (d' : Disk) :
    SameReport (r.finish colours) (({ r with disk := d' } : Result).finish colours) := ⟨rfl, rfl, rfl⟩

theorem stopped_same (d d' : Disk) (stop : Stop) :
    stopped d' stop = { stopped d stop with disk := d' } := by
  cases stop <;> rfl

/-- A run with plain arguments. -/
theorem Unconfigured.run_same {d : Disk} (h : Unconfigured d) (e : Environment) {args : List String}
    (hargs : Plain args) : SameReport (run d e args) (run (configured d) e args) := by
  cases hi : Invocation.ofArguments args with
  | error stop =>
    have hrun (d : Disk) : run d e args = (stopped d stop).finish e.usageColours := by rw [run, hi]
    rw [hrun, hrun, stopped_same d (configured d)]
    exact sameReport_finish _ _ _
  | ok i =>
    obtain ⟨a, hroot, hfiles, hv, rfl | ⟨format, rfl⟩⟩ := hargs i hi
    · rw [finish_scan hi, finish_scan hi, scan_same (h.readsSame hroot hfiles hv)]
      exact sameReport_finish _ _ _
    · rw [finish_generate hi, finish_generate hi, generate_same (h.readsSame hroot hfiles hv)]
      exact sameReport_finish _ _ _

/-- What `init` leaves: everything as it was, but for one file, and the configuration that held
before. The configuration is found in the file unless the path of the file is longer than the system
takes. -/
structure Initialized (d d' : Disk) : Prop where
  working : d'.working = d.working
  placed : Placed d.top d'.top (d.working ++ [Settings.fileName]) ({} : Config).content
  loaded : ∃ fromFile, Settings.load d' "." = .ok ⟨{}, fromFile⟩
  found : (Location.path (d.working ++ [Settings.fileName])).utf8ByteSize ≤ pathLimit →
    Settings.find? d' "." = some (Location.path (d.working ++ [Settings.fileName])) ∧
      Settings.load d' "." = .ok ⟨{}, true⟩

theorem run_init (d : Disk) (e : Environment) : run d e ["init"] = (init d).finish e.reportColours := by
  have hi : Invocation.ofArguments ["init"] = .ok .init := rfl
  rw [run, hi]
  simp only [Invocation.isUsage, Bool.false_eq_true, if_false, perform]

theorem Unconfigured.initialized {d : Disk} (h : Unconfigured d) : Initialized d (configured d) := by
  have hplaced : Placed d.top (configured d).top (d.working ++ [Settings.fileName])
      ({} : Config).content :=
    h.vacant.room.placed _
  refine ⟨rfl, hplaced, h.load_configured, fun hshort => ?_⟩
  obtain ⟨pattern, hpattern, -⟩ := default_pattern
  obtain ⟨entries, hl⟩ := h.lookup_here
  exact Settings.load_here h.grows h.isSome_working hpattern h.sound hl h.unnamed hplaced.file hshort

/-- Without links nothing but the directory itself leads to the file, and it does not if the path is
too long. -/
theorem Unconfigured.load_too_long {d : Disk} (h : Unconfigured d) (hlinks : d.top.linkFree = true)
    (hlong : pathLimit < (Location.path (d.working ++ [Settings.fileName])).utf8ByteSize) :
    Settings.load (configured d) "." = .ok ⟨{}, false⟩ := by
  have hplaced := h.initialized.placed
  have hs' : (configured d).top.sound = true := h.grows.sound h.sound
  obtain ⟨entries, hl⟩ := h.lookup_here
  obtain ⟨e', hl', -⟩ := h.grows.lookup hl
  have hsame : ∀ m, m <+: d.working → ∀ sign ∈ Settings.signs,
      (configured d).exists? (Location.path (m ++ [sign])) =
          d.exists? (Location.path (m ++ [sign])) := by
    intro m hm sign hsign
    have hname := Settings.isEntryName_sign sign hsign
    obtain ⟨x, hx, hlink⟩ := Settings.at?_above hl hm
    obtain ⟨x', hx', hlink'⟩ := Settings.at?_above hl' hm
    by_cases hplace : m ++ [sign] = d.working ++ [Settings.fileName]
    · -- the file itself is not found, and was not there
      rw [Disk.lookup_name_none h.sound hx hlink hname (by rw [hplace, h.unnamed]), Bool.eq_false_iff]
      intro hexists
      obtain ⟨place, e, hlook⟩ := Disk.exists?_lookup.mp hexists
      have hshort := ((Disk.lookup_name_some hs' hx' hlink' hname (by rw [hplace, hplaced.file])
        (by simp)).mp hlook).1
      rw [hplace] at hshort
      omega
    · have hagree : Settings.Agree d (configured d) (m ++ [sign]) :=
        ⟨hplaced.other _ hplace, Iff.rfl, fun target ht =>
          absurd (at?_linkFree hlinks ht) (by simp [Entry.linkFree])⟩
      rw [← Settings.seen_isSome, hagree.seen h.sound hs' hx hlink hx' hlink' hname,
        Settings.seen_isSome]
  have hnames := at?_names h.sound (Disk.lookup_at? hl)
  have hfind : Settings.find? (configured d) "." = none := by
    rw [Settings.find?_eq hs' hl', Settings.search_agree hnames (Nat.le_succ _)
      fun m hm => hsame m hm.above, ← Settings.find?_eq h.sound hl, h.unfound]
  unfold Settings.load
  rw [hfind]

/-- Where nothing configures the project, `init` succeeds, makes the one file and leaves the default
configuration, so that all plain runs report what they reported. Where the name of a configuration
leads to something already, `init` fails and nothing changes. -/
theorem init_keeps_reports :
    (∀ d, Unconfigured d → ∀ e, ∃ d',
      run d e ["init"] =
        { disk := d', out := (successLine ("Created " ++ Settings.fileName)).render e.reportColours } ∧
      Initialized d d' ∧ ∀ (e' : Environment) (args : List String), Plain args →
        SameReport (run d e' args) (run d' e' args)) ∧
    ∀ d, d.exists? Settings.fileName = true → ∀ e,
      run d e ["init"] =
        { disk := d
          err := "Error: " ++ (Settings.fileName ++ " already exists") ++ "\n"
          status := .error } := by
  constructor
  · intro d h e
    refine ⟨configured d, ?_, h.initialized, fun e' args hargs => h.run_same e' hargs⟩
    rw [run_init, h.init_eq]
    rfl
  · intro d hexists e
    rw [run_init, init, if_pos hexists]
    have herr := render_errorLine e.reportColours (Settings.fileName ++ " already exists")
    simp only [failed, List.nil_append, Result.finish, herr]
    rfl

/-- A directory to work in, in a repository. -/
def workDisk (entries : List (String × Entry)) : Disk :=
  { top := .directory [(".git", .directory []), ("p", .directory entries)], working := ["p"] }

def cartText : String :=
  "export const cartRoute = createShortcutRoute(\"/cart\", \x7bname: \"Cart\"\x7d)"

def cartDisk : Disk :=
  workDisk [("src", .directory [("routes", .directory [("cart.ts", .file cartText.toUTF8)])])]

theorem a_project_is_initialized_once :
    (∃ d', (run cartDisk {} ["init"]).disk = d' ∧ Settings.load d' "." = .ok ⟨{}, true⟩ ∧
      SameReport (run cartDisk {} ["scan"]) (run d' {} ["scan"])) ∧
    (run (workDisk [(Settings.fileName, .file .empty)]) {} ["init"]).status = .error := by
  have h : Unconfigured cartDisk := ⟨by decide +kernel, ⟨_, rfl⟩, rfl, by decide +kernel⟩
  have hplain : Plain ["scan"] := by
    intro i hi
    have hscan : Invocation.ofArguments ["scan"] = .ok (.scan {}) := rfl
    rw [hscan] at hi
    cases hi
    exact ⟨{}, rfl, rfl, rfl, Or.inl rfl⟩
  obtain ⟨d', hrun, hinit, hsame⟩ := init_keeps_reports.1 cartDisk h {}
  have hshort : (Location.path (["p"] ++ [Settings.fileName])).utf8ByteSize ≤ pathLimit := by
    decide +kernel
  refine ⟨⟨d', by rw [hrun], (hinit.found hshort).2, hsame {} ["scan"] hplain⟩, ?_⟩
  rw [init_keeps_reports.2 _ (by decide +kernel) {}]

/-- A name of 254 letters, and directories of that name, one in the other. -/
def deepName : String := String.ofList (List.replicate 254 'a')

def nested : Nat → Entry
  | 0 => .directory []
  | n + 1 => .directory [(deepName, nested n)]

/-- The path of the innermost directory is taken, but not that of a configuration in it. -/
def deepDisk : Disk := { top := nested 16, working := List.replicate 16 deepName }

theorem nested_inner : ∀ n, (nested n).at? (List.replicate n deepName) = some (.directory []) := by
  intro n
  induction n with
  | zero => rfl
  | succ n ih => simpa [nested, List.replicate_succ, Entry.at?, find?] using ih

theorem nested_unnamed {name : String} (hname : name ≠ deepName) :
    ∀ n k, (nested n).at? (List.replicate k deepName ++ [name]) = none := by
  intro n
  induction n with
  | zero => intro k; cases k <;> simp [nested, List.replicate_succ, Entry.at?, find?]
  | succ n ih =>
    intro k
    cases k with
    | zero => simp [nested, Entry.at?, find?, hname.symm]
    | succ k => simpa [nested, List.replicate_succ, Entry.at?, find?] using ih k

theorem unconfigured_deepDisk : Unconfigured deepDisk := by
  have hs : deepDisk.top.sound = true := by decide +kernel
  have hname : Settings.fileName ≠ deepName := by decide +kernel
  refine ⟨hs, ⟨[], nested_inner 16⟩, nested_unnamed hname 16 16, ?_⟩
  have hl := lookup_working (d := deepDisk) (nested_inner 16)
  have hnames := at?_names hs (Disk.lookup_at? hl)
  refine Option.eq_none_iff_forall_ne_some.mpr fun path hfound => ?_
  rw [Settings.find?_eq hs hl, Settings.search_iff hnames (Nat.le_succ _)] at hfound
  obtain ⟨m, hreach, hholds, -⟩ := hfound
  obtain ⟨x, hx, hlink⟩ := Settings.at?_above hl hreach.above
  have hm : m = List.replicate m.length deepName := (List.prefix_replicate_iff.mp hreach.above).2
  have hnone : deepDisk.top.at? (m ++ [Settings.fileName]) = none := by
    rw [hm]
    exact nested_unnamed hname 16 _
  rw [Settings.Holds, Disk.lookup_name_none hs hx hlink (by decide) hnone] at hholds
  cases hholds

/-- A link of the name that leads nowhere does not keep `init` from writing, and the file is made
where the link points. And in a directory with a long path the configuration is written, but does
not hold. -/
theorem init_goes_by_what_is_found :
    ((workDisk [(Settings.fileName, .link "target.json")]).top.at?
      ["p", Settings.fileName]).isSome = true ∧
    (run (workDisk [(Settings.fileName, .link "target.json")]) {} ["init"]).status = .success ∧
    ((workDisk [(Settings.fileName, .link "target.json")]).top.at? ["p", "target.json"]).isSome =
      false ∧
    ((run (workDisk [(Settings.fileName, .link "target.json")]) {} ["init"]).disk.top.at?
      ["p", "target.json"]).isSome = true ∧
    Unconfigured deepDisk ∧ (run deepDisk {} ["init"]).status = .success ∧
    Settings.load (run deepDisk {} ["init"]).disk "." = .ok ⟨{}, false⟩ := by
  have hdeep := unconfigured_deepDisk
  have hrun : run deepDisk {} ["init"] = (init deepDisk).finish false := run_init deepDisk {}
  rw [hrun, hdeep.init_eq]
  refine ⟨rfl, by decide +kernel, rfl, by decide +kernel, hdeep, rfl, ?_⟩
  exact hdeep.load_too_long (by decide +kernel) (by decide +kernel)

end CommandLine
end RouteShortcuts
