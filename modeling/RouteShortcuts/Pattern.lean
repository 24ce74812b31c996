/-
  RouteShortcuts.Pattern — search patterns.

  `Pattern.compile` turns a text into a pattern or says why it is none; `Pattern.occursIn` says
  whether a pattern occurs anywhere in a text.
-/

import RouteShortcuts.Pattern.Reader
import RouteShortcuts.Pattern.Resolve

namespace RouteShortcuts

open Pattern

/-- A search pattern: the text it was read from, and what it means. -/
structure SearchPattern where
  source : String
  node : Pattern.Node

/-- Why a text is not taken as a pattern. -/
inductive PatternFault where
  | flaw (source : String) (f : Flaw)
  | tooBig

namespace SearchPattern

/-- The most octets that a pattern may take when it is written out. What it takes is estimated
(`Node.weight`), not measured. -/
def sizeLimit : Nat := 10485760

/-- Reads a pattern and works out what it means. -/
def compile (source : String) : Except PatternFault SearchPattern :=
  match resolved with
  | .error f => .error (.flaw source f)
  | .ok node => if sizeLimit < node.weight then .error .tooBig else .ok ⟨source, node⟩
where
  resolved : Except Flaw Node := do
    let tree ← Tree.read source
    tree.checkDepth 0
    let (node, _) ← tree.resolve {}
    return node

/-- Does the pattern occur anywhere in a text? -/
def occursIn (p : SearchPattern) (text : String) : Bool := p.node.occursIn text

end SearchPattern

def PatternFault.message : PatternFault → String
  | .flaw source f => f.report source
  | .tooBig => "Compiled regex exceeds size limit of " ++ toString SearchPattern.sizeLimit ++ " bytes."

end RouteShortcuts
