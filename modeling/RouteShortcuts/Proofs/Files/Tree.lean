/-
  RouteShortcuts.Proofs.Files.Tree — trees as a system keeps them.

  A tree is sound if the entries of each directory have names that a system gives, no two of them the
  same (`Entry.sound`). What stands below a sound tree is sound, and has names on the way (`at?_sound`);
  what is to be shown of every sound tree is shown of a directory from its entries (`sound_induct`).
-/

import RouteShortcuts.Files.Disk
import RouteShortcuts.Proofs.Files.Path

namespace RouteShortcuts.Files

/-- May an entry of a directory have this name? -/
def isEntryName (s : String) : Bool :=
  s != "" && s != "." && s != ".." && !s.toList.contains '/' && !s.toList.contains '\x00' &&
    decide (s.utf8ByteSize ≤ nameLimit)

mutual

def Entry.sound : Entry → Bool
  | .directory entries => Entry.soundAll entries
  | _ => true

def Entry.soundAll : List (String × Entry) → Bool
  | [] => true
  | (name, e) :: rest => isEntryName name && (find? name rest).isNone && e.sound && soundAll rest

end

mutual

/-- Is there no link in a tree? -/
def Entry.linkFree : Entry → Bool
  | .file _ => true
  | .link _ => false
  | .directory entries => Entry.linkFreeAll entries

def Entry.linkFreeAll : List (String × Entry) → Bool
  | [] => true
  | (_, e) :: rest => e.linkFree && linkFreeAll rest

end

/-! ## Names of entries -/

theorem isName_of_isEntryName {s : String} (h : isEntryName s = true) : IsName s := by
  simp only [isEntryName, Bool.and_eq_true, bne_iff_ne] at h
  obtain ⟨⟨⟨⟨⟨h1, h2⟩, h3⟩, h4⟩, -⟩, -⟩ := h
  exact ⟨h1, h2, h3, by simpa using h4⟩

theorem isEntryName_noNul {s : String} (h : isEntryName s = true) : '\x00' ∉ s.toList := by
  simp only [isEntryName, Bool.and_eq_true] at h
  simpa using h.1.2

theorem isEntryName_size {s : String} (h : isEntryName s = true) : s.utf8ByteSize ≤ nameLimit := by
  simp only [isEntryName, Bool.and_eq_true] at h
  simpa using h.2

/-! ## Going down -/

theorem find?_sound {name : String} {e : Entry} :
    ∀ {entries : List (String × Entry)}, Entry.soundAll entries = true →
    find? name entries = some e → isEntryName name = true ∧ e.sound = true := by
  intro entries
  induction entries with
  | nil => intro _ h; cases h
  | cons p rest ih =>
    obtain ⟨n, e'⟩ := p
    intro hs h
    simp only [Entry.soundAll, Bool.and_eq_true] at hs
    simp only [find?] at h
    split at h
    · rename_i hn
      cases h
      exact ⟨hn ▸ hs.1.1.1, hs.1.2⟩
    · exact ih hs.2 h

mutual

/-- Induction over sound trees: what holds of everything that a directory gives by name holds of it. -/
@[elab_as_elim]
theorem Entry.sound_induct {motive : Entry → Prop} (file : ∀ content, motive (.file content))
    (link : ∀ target, motive (.link target))
    (directory : ∀ entries, Entry.soundAll entries = true →
      (∀ name e, find? name entries = some e → motive e) → motive (.directory entries)) :
    ∀ {e : Entry}, e.sound = true → motive e
  | .file content, _ => file content
  | .link target, _ => link target
  | .directory entries, hs =>
    directory entries hs fun _ _ he => sound_induct_find file link directory hs he

theorem Entry.sound_induct_find {motive : Entry → Prop} (file : ∀ content, motive (.file content))
    (link : ∀ target, motive (.link target))
    (directory : ∀ entries, Entry.soundAll entries = true →
      (∀ name e, find? name entries = some e → motive e) → motive (.directory entries)) :
    ∀ {entries : List (String × Entry)} {name : String} {e : Entry}, Entry.soundAll entries = true →
      find? name entries = some e → motive e
  | [], _, _, _, he => by cases he
  | (n, e₀) :: rest, name, e, hs, he => by
    simp only [Entry.soundAll, Bool.and_eq_true] at hs
    rw [find?] at he
    split at he
    · cases he
      exact sound_induct file link directory hs.1.2
    · exact sound_induct_find file link directory hs.2 he

end

theorem find?_linkFree {name : String} {e : Entry} : ∀ {entries : List (String × Entry)},
    Entry.linkFreeAll entries = true → find? name entries = some e → e.linkFree = true := by
  intro entries
  induction entries with
  | nil => intro _ h; cases h
  | cons p rest ih =>
    obtain ⟨n, e'⟩ := p
    intro hs h
    simp only [Entry.linkFreeAll, Bool.and_eq_true] at hs
    simp only [find?] at h
    split at h
    · cases h; exact hs.1
    · exact ih hs.2 h

theorem at?_cons {e e' : Entry} {name : String} {rest : Location} :
    e.at? (name :: rest) = some e' ↔
      ∃ entries below, e = .directory entries ∧ find? name entries = some below ∧
        below.at? rest = some e' := by
  cases e <;> simp [Entry.at?, Option.bind_eq_some_iff]

theorem at?_append (e : Entry) (a b : Location) : e.at? (a ++ b) = (e.at? a).bind (·.at? b) := by
  induction a generalizing e with
  | nil => rfl
  | cons name a ih =>
    cases e with
    | directory entries =>
      simp only [List.cons_append, Entry.at?, Option.bind_assoc]
      congr 1
      funext below
      exact ih below
    | file | link => rfl

/-- What stands below in a sound tree is sound, and has names on the way. -/
theorem at?_sound {place : Location} : ∀ {e e' : Entry}, e.sound = true → e.at? place = some e' →
    (∀ s ∈ place, isEntryName s = true) ∧ e'.sound = true := by
  induction place with
  | nil =>
    intro e e' hs h
    cases h
    exact ⟨by simp, hs⟩
  | cons name rest ih =>
    intro e e' hs h
    obtain ⟨entries, below, rfl, hf, hb⟩ := at?_cons.mp h
    obtain ⟨hn, hsb⟩ := find?_sound hs hf
    obtain ⟨hr, he⟩ := ih hsb hb
    exact ⟨by simpa [hn] using hr, he⟩

theorem at?_names {place : Location} {e e' : Entry} (hs : e.sound = true) (h : e.at? place = some e') :
    ∀ s ∈ place, IsName s := fun s hmem => isName_of_isEntryName ((at?_sound hs h).1 s hmem)

theorem at?_linkFree {place : Location} : ∀ {e e' : Entry}, e.linkFree = true → e.at? place = some e' →
    e'.linkFree = true := by
  induction place with
  | nil =>
    intro e e' hl h
    cases h
    exact hl
  | cons name rest ih =>
    intro e e' hl h
    obtain ⟨entries, below, rfl, hf, hb⟩ := at?_cons.mp h
    exact ih (find?_linkFree hl hf) hb

/-! ## Leaves -/

theorem at?_file {content : ByteArray} {names : Location} {e : Entry} :
    (Entry.file content).at? names = some e ↔ names = [] ∧ e = .file content := by
  cases names <;> simp [Entry.at?, eq_comm]

theorem at?_link {target : String} {names : Location} {e : Entry} :
    (Entry.link target).at? names = some e ↔ names = [] ∧ e = .link target := by
  cases names <;> simp [Entry.at?, eq_comm]

end RouteShortcuts.Files
