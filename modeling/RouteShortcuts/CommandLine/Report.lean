/-
  RouteShortcuts.CommandLine.Report — what the program prints about what it found and did.
-/

import RouteShortcuts.Scan
import RouteShortcuts.Styled

namespace RouteShortcuts.CommandLine

open RouteShortcuts.Files RouteShortcuts.Styled

def counted (n : Nat) (one many : String) : String :=
  toString n ++ " " ++ if n = 1 then one else many

def foundMessage (shortcuts files : Nat) : String :=
  "Found " ++ counted shortcuts "shortcut" "shortcuts" ++ " in "
    ++ counted files "route file" "route files"

def successLine (message : String) : Styled :=
  inked .green "✓" ++ plain " " ++ inked .green message ++ plain "\n"

def warningLine (message : String) : Styled :=
  inked .warning "warning:" ++ plain (" " ++ message ++ "\n")

def warningLines (warnings : List FileWarning) : Styled :=
  warnings.flatMap fun w => warningLine w.message

def noteLine (message : String) : Styled := plain ("Note: " ++ message ++ "\n")

/-- One line for each directory that could not be opened. -/
def skippedLines (skipped : List Skipped) : Styled := skipped.flatMap fun s => warningLine s.message

/-- How many they were, if there were any. -/
def skippedNote (skipped : List Skipped) : Styled :=
  if skipped.isEmpty then []
  else noteLine (toString skipped.length ++ " path(s) skipped due to access errors")

def errorLine (message : String) : Styled := plain ("Error: " ++ message ++ "\n")

/-- A file as it is shown: from the root, if it lies below it. -/
def displayPath (root file : String) : String := (stripPrefix? root file).getD file

/-- The line of a shortcut, its path filled up to `width` characters. -/
def shortcutLine (root : String) (width : Nat) (s : Shortcut) : Styled :=
  plain "  " ++ [{ ink := some .cyan, text := s.path, width := width }]
    ++ plain ("  " ++ s.details.name ++ "  ")
    ++ inked .dimmed ("(" ++ displayPath root s.file ++ ")") ++ plain "\n"

/-- The longest path has as many characters. -/
def pathWidth (shortcuts : List Shortcut) : Nat :=
  (shortcuts.map (·.path.length)).foldl max 0

/-- The shortcuts, a line each, and how many there are. -/
def scanReport (root : String) (o : Outcome) : Styled :=
  o.shortcuts.flatMap (shortcutLine root (pathWidth o.shortcuts))
    ++ successLine (foundMessage o.shortcuts.length o.filesScanned)

end RouteShortcuts.CommandLine
