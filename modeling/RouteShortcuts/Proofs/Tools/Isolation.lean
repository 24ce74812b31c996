/-
  RouteShortcuts.Proofs.Tools.Isolation — the projects of one server do not touch each other.

  A server holds the sessions of all its projects in one workspace. What it holds for a key is all
  that a scan with that key goes by (`detect_congr`), and a scan changes it for its own key alone.
  So the events that matter to a key (`kept`) are the changes of the disk and the scans whose root
  leads to that key on the disk as it is at the time; every other call may be left out, whether of a
  project above or below this one, or of a tool that only reads.

  Proved of every run of events (`projects_are_isolated`): a run of the events that matter to a key
  has the same scans with that key, with the same answers, and every question for the manifest is
  answered by the scans with its key before it.
-/

import RouteShortcuts.Proofs.Tools.Fresh

namespace RouteShortcuts.History

open RouteShortcuts.Files
open RouteShortcuts.Json (Value)

/-- The events that matter to a project: the changes of the disk, and the scans with its key. -/
def kept (key : String) : Disk → List Ev → List Ev
  | _, [] => []
  | _, .disk d :: es => .disk d :: kept key d es
  | d, .call tool root :: es =>
    if tool = .detectShortcuts ∧ samePath (Workspace.rootOf d root) key then
      .call tool root :: kept key d es
    else kept key d es

/-- The scans of a project, newest first, with their answers. -/
def World.scans (w : World) (key : String) : List Call :=
  w.calls.filter fun c => c.tool = .detectShortcuts ∧ samePath c.key key

/-- What a tool answers now. -/
def World.answer (w : World) (tool : Tool) (root : String) : Except ToolFault Value :=
  (w.workspace.call w.disk tool root).1

/-- Two servers that are alike as far as a project is concerned. -/
structure Alike (key : String) (w v : World) : Prop where
  disk : v.disk = w.disk
  held : v.workspace.find? key = w.workspace.find? key
  scans : v.scans key = w.scans key

theorem Alike.refl (key : String) (w : World) : Alike key w w := ⟨rfl, rfl, rfl⟩

/-! ## One scan -/

theorem find?_congr {a b : String} (h : samePath a b = true) (w : Workspace) :
    w.find? a = w.find? b := by
  unfold Workspace.find?
  congr 1
  funext p
  exact samePath_congr h p.root

section
variable {d : Disk} {v w : Workspace} {root : String}

theorem sessionFor_congr (h : v.find? root = w.find? root) (config : Config) :
    v.sessionFor root config = w.sessionFor root config := by
  have hg : v.generation root = w.generation root := by
    unfold Workspace.generation
    rw [h]
  unfold Workspace.sessionFor Workspace.sessionFor.fresh
  rw [h, hg]

/-- A scan goes by what is held for its key: the answer is the same, and so is what is put there. -/
theorem detect_congr (h : v.find? (Workspace.rootOf d root) = w.find? (Workspace.rootOf d root)) :
    ∃ answer, (v.detectShortcuts d root = (answer, v) ∧ w.detectShortcuts d root = (answer, w)) ∨
      ∃ p : Project, p.root = Workspace.rootOf d root ∧
        v.detectShortcuts d root = (answer, v.put p) ∧
          w.detectShortcuts d root = (answer, w.put p) := by
  unfold Workspace.detectShortcuts
  cases hl : Settings.load d (Workspace.rootOf d root) with
  | error fault => exact ⟨.error (.settings fault), Or.inl (by simp only [hl, and_self])⟩
  | ok loaded =>
    cases hs : w.sessionFor (Workspace.rootOf d root) loaded.config with
    | error fault =>
      exact ⟨.error (.config fault), Or.inl (by simp only [hl, sessionFor_congr h, hs, and_self])⟩
    | ok session =>
      rcases hr : session.rescan d with ⟨result, after⟩
      cases result with
      | error fault =>
        refine ⟨.error (.scan fault), Or.inr ⟨⟨Workspace.rootOf d root, loaded.config, after⟩, rfl, ?_⟩⟩
        simp only [hl, sessionFor_congr h, hs, hr, and_self]
      | ok snapshot =>
        refine ⟨.ok snapshot, Or.inr ⟨⟨Workspace.rootOf d root, loaded.config, after⟩, rfl, ?_⟩⟩
        simp only [hl, sessionFor_congr h, hs, hr, and_self]

end

/-! ## Events -/

section
variable {key root : String} {tool : Tool} {v w : World}

theorem scans_record (w : World) (workspace : Workspace) (c : Call) :
    (w.record workspace c).scans key =
      if c.tool = .detectShortcuts ∧ samePath c.key key then c :: w.scans key else w.scans key := by
  simp only [World.scans, World.record, List.filter_cons, decide_eq_true_eq]

theorem step_call_disk : (step w (.call tool root)).disk = w.disk := rfl

/-- A call with another key, and one that is no scan, leave a project as it was. -/
theorem alike_skip (h : Alike key w v)
    (hother : ¬ (tool = .detectShortcuts ∧ samePath (Workspace.rootOf w.disk root) key = true)) :
    Alike key (step w (.call tool root)) v := by
  have hscans : v.scans key = (step w (.call tool root)).scans key := by
    simp only [step]
    rw [scans_record, if_neg hother, h.scans]
  refine ⟨h.disk, ?_, hscans⟩
  rw [h.held]
  cases tool with
  | getConfig => rfl
  | getManifest => rfl
  | detectShortcuts =>
    have hk : samePath (Workspace.rootOf w.disk root) key = false := by simpa using hother
    simp only [step, Workspace.call, World.record]
    have hsame : w.workspace.find? (Workspace.rootOf w.disk root) =
      w.workspace.find? (Workspace.rootOf w.disk root) := rfl
    obtain ⟨answer, ⟨-, hd⟩ | ⟨p, hp, -, hd⟩⟩ := detect_congr hsame
    · rw [hd]
    · rw [hd, find?_put_other w.workspace p (by rw [hp]; exact hk)]

/-- A scan of the project does the same to servers that are alike. -/
theorem alike_scan (h : Alike key w v) (hk : samePath (Workspace.rootOf w.disk root) key = true) :
    Alike key (step w (.call .detectShortcuts root)) (step v (.call .detectShortcuts root)) := by
  have hheld : v.workspace.find? (Workspace.rootOf w.disk root) =
      w.workspace.find? (Workspace.rootOf w.disk root) := by
    rw [find?_congr hk, find?_congr hk, h.held]
  simp only [step, Workspace.call, h.disk]
  obtain ⟨answer, ⟨hv, hw⟩ | ⟨p, hp, hv, hw⟩⟩ := detect_congr hheld
  · rw [hv, hw]
    refine ⟨h.disk, h.held, ?_⟩
    rw [scans_record, scans_record, h.scans]
  · rw [hv, hw]
    refine ⟨h.disk, ?_, ?_⟩
    · show (v.workspace.put p).find? key = (w.workspace.put p).find? key
      rw [find?_put_same _ p (by rw [hp]; exact hk), find?_put_same _ p (by rw [hp]; exact hk)]
    · rw [scans_record, scans_record, h.scans]

/-- Servers that are alike stay so if one of them sees only the events that matter. -/
theorem alike_run (es : List Ev) : ∀ w v : World, Alike key w v →
    Alike key (es.foldl step w) ((kept key w.disk es).foldl step v) := by
  induction es with
  | nil =>
    intro w v h
    exact h
  | cons e es ih =>
    intro w v h
    cases e with
    | disk d => exact ih (step w (.disk d)) (step v (.disk d)) ⟨rfl, h.held, h.scans⟩
    | call tool root =>
      simp only [kept, List.foldl_cons]
      split
      · rename_i hkept
        obtain ⟨rfl, hk⟩ := hkept
        have hrun := ih _ _ (alike_scan h hk)
        rw [step_call_disk] at hrun
        rw [List.foldl_cons]
        exact hrun
      · rename_i hother
        have hrun := ih _ _ (alike_skip h hother)
        rw [step_call_disk] at hrun
        exact hrun

theorem Alike.manifest (h : Alike key w v) (hk : samePath (Workspace.rootOf w.disk root) key = true) :
    v.answer .getManifest root = w.answer .getManifest root := by
  simp only [World.answer, Workspace.call, Workspace.getManifest, h.disk, find?_congr hk, h.held]

end

/-! ## Runs -/

/-- The events that matter to a project tell all the answers that it gets: those of its scans, and those
to the questions for its manifest, each by the events before it. -/
theorem projects_are_isolated (d : Disk) (es : List Ev) (key : String) :
    (run d (kept key d es)).scans key = (run d es).scans key ∧
      ∀ before root after, es = before ++ .call .getManifest root :: after →
        samePath (Workspace.rootOf (run d before).disk root) key = true →
          (run d (kept key d before)).answer .getManifest root =
            (run d before).answer .getManifest root := by
  have alike (es : List Ev) : Alike key (run d es) (run d (kept key d es)) :=
    alike_run es _ _ (Alike.refl key _)
  refine ⟨(alike es).scans, ?_⟩
  intro before root after _ hk
  exact (alike before).manifest hk

/-- A project in another one, which have no configuration and no files of their own. -/
def nestedDisk : Disk := projectDisk [("inner", .directory [])]

/-- Scans of both, a scan of the inner one that fails, and questions for both manifests. -/
def bothProjects : List Ev :=
  [.call .detectShortcuts "/p", .call .detectShortcuts "/p/inner", .call .getConfig "/p",
    .disk (projectDisk [("inner", .directory [brokenSettings])]), .call .detectShortcuts "/p/inner",
    .call .detectShortcuts "/p/inner/..", .call .getManifest "/p"]

/-- The outer project's scans have the numbers 1 and 2, and so has its manifest, without the inner
one. -/
theorem the_inner_project_is_not_seen :
    let alone := kept "/p" nestedDisk bothProjects
    alone.length = 3 ∧
      ((run nestedDisk alone).scans "/p").map (fun c => c.answer.toOption.map number) =
        [some 2, some 1] ∧
      (run nestedDisk bothProjects).scans "/p" = (run nestedDisk alone).scans "/p" ∧
      ((run nestedDisk (bothProjects.take 6)).answer .getManifest "/p").toOption.map number =
          some 2 := by
  intro alone
  obtain ⟨hscans, hmanifest⟩ := projects_are_isolated nestedDisk bothProjects "/p"
  refine ⟨by decide +kernel, by decide +kernel, hscans.symm, ?_⟩
  rw [← hmanifest (bothProjects.take 6) "/p" [] rfl (by decide +kernel)]
  decide +kernel

end RouteShortcuts.History
