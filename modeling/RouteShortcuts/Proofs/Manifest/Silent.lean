/-
  RouteShortcuts.Proofs.Manifest.Silent — a manifest declares no shortcuts.

  A manifest may be written to where routes are looked for, and be read as one of them. Its text is
  a script in both formats: all that a manifest says is texts, lists and objects
  (`textual_manifest`), so it is one list, which stands as a statement or is exported by default.
  Neither exports a variable.

  Proved: whatever its entries say, a manifest is parsed without a fault and has no shortcut
  (`shortcutsOf_manifest`), by any name and for any options.
-/

import RouteShortcuts.Manifest
import RouteShortcuts.Proofs.Script.Data
import RouteShortcuts.Scan

namespace RouteShortcuts

open RouteShortcuts.Json (Value)

theorem textual_optionalMember {name : String} {s : Option String} :
    ∀ m ∈ optionalMember name s, m.2.Textual := by
  cases s with
  | none => simp [optionalMember]
  | some s => simpa [optionalMember] using Value.Textual.string s

theorem textual_icon (i : Icon) : i.toValue.Textual := by
  refine .object ?_
  simp only [List.forall_mem_append]
  exact ⟨⟨⟨textual_optionalMember, textual_optionalMember⟩, textual_optionalMember⟩,
    textual_optionalMember⟩

theorem textual_map {α : Type} {f : α → Value} (h : ∀ a, (f a).Textual) (as : List α) :
    (Value.array (as.map f)).Textual := by
  refine .array fun v hv => ?_
  obtain ⟨a, -, rfl⟩ := List.mem_map.mp hv
  exact h a

theorem textual_entry (e : ManifestEntry) : e.toValue.Textual := by
  refine .object ?_
  simp only [List.forall_mem_cons, List.not_mem_nil, false_implies, implies_true, and_true]
  exact ⟨.string _, .string _, .string _, .string _, textual_map textual_icon e.icons⟩

theorem textual_manifest (entries : List ManifestEntry) :
    (Manifest.toValue entries).Textual := textual_map textual_entry entries

/-- A manifest is a script that declares nothing. -/
theorem shortcutsOf_manifest (options : Options) (path : String) (format : ManifestFormat)
    (entries : List ManifestEntry) :
    Scan.shortcutsOf options path (Manifest.render format entries ++ "\n") = .ok [] := by
  unfold Scan.shortcutsOf
  cases format with
  | json =>
    obtain ⟨e, he, -⟩ := Script.parseSource_list path (textual_manifest entries)
    rw [Manifest.render, Manifest.toValue, he]
    rfl
  | module =>
    obtain ⟨e, he, -⟩ := Script.parseSource_default path (textual_manifest entries)
    rw [Manifest.render, Manifest.toValue, he]
    rfl

namespace Scan

/-- A content that declares nothing, by whatever name it is searched. -/
def Silent (content : ByteArray) : Prop :=
  ∀ text, String.fromUTF8? content = some text → ∀ options path, shortcutsOf options path text = .ok []

theorem silent_manifest (format : ManifestFormat) (entries : List ManifestEntry) :
    Silent (Manifest.render format entries ++ "\n").toUTF8 := by
  intro text htext options path
  obtain ⟨_, hsame⟩ := Option.dite_none_right_eq_some.mp htext
  obtain rfl : Manifest.render format entries ++ "\n" = text := Option.some.inj hsame
  exact shortcutsOf_manifest options path format entries

end Scan

end RouteShortcuts
