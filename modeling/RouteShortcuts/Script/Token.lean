/-
  RouteShortcuts.Script.Token — the tokens of a script.

  Words are one kind of token: which of them are reserved depends on where they stand, so the grammar
  decides it. `Token.shown` is the name of a token in messages.
-/

import RouteShortcuts.Script.Fault

namespace RouteShortcuts.Script

inductive Mark where
  | braceOpen
  | braceClose
  | parenOpen
  | parenClose
  | bracketOpen
  | bracketClose
  | semicolon
  | comma
  | dot
  | dots
  | question
  | questionDot
  | colon
  | hash
  | at
  | arrow
  | assign
  | addAssign
  | subAssign
  | mulAssign
  | divAssign
  | remAssign
  | powAssign
  | shiftLeftAssign
  | shiftRightAssign
  | shiftRightZeroAssign
  | bitAndAssign
  | bitOrAssign
  | bitXorAssign
  | andAssign
  | orAssign
  | nullishAssign
  | equal
  | same
  | notEqual
  | notSame
  | less
  | greater
  | lessEqual
  | greaterEqual
  | shiftLeft
  | shiftRight
  | shiftRightZero
  | plus
  | minus
  | star
  | slash
  | percent
  | power
  | increment
  | decrement
  | bitAnd
  | bitOr
  | bitXor
  | not
  | complement
  | and
  | or
  | nullish
  /-- `</`, which only markup has. -/
  | lessSlash
  deriving DecidableEq, Repr

def Mark.text : Mark → String
  | .braceOpen => "\x7b"
  | .braceClose => "\x7d"
  | .parenOpen => "("
  | .parenClose => ")"
  | .bracketOpen => "["
  | .bracketClose => "]"
  | .semicolon => ";"
  | .comma => ","
  | .dot => "."
  | .dots => "..."
  | .question => "?"
  | .questionDot => "?."
  | .colon => ":"
  | .hash => "#"
  | .at => "@"
  | .arrow => "=>"
  | .assign => "="
  | .addAssign => "+="
  | .subAssign => "-="
  | .mulAssign => "*="
  | .divAssign => "/="
  | .remAssign => "%="
  | .powAssign => "**="
  | .shiftLeftAssign => "<<="
  | .shiftRightAssign => ">>="
  | .shiftRightZeroAssign => ">>>="
  | .bitAndAssign => "&="
  | .bitOrAssign => "|="
  | .bitXorAssign => "^="
  | .andAssign => "&&="
  | .orAssign => "||="
  | .nullishAssign => "??="
  | .equal => "=="
  | .same => "==="
  | .notEqual => "!="
  | .notSame => "!=="
  | .less => "<"
  | .greater => ">"
  | .lessEqual => "<="
  | .greaterEqual => ">="
  | .shiftLeft => "<<"
  | .shiftRight => ">>"
  | .shiftRightZero => ">>>"
  | .plus => "+"
  | .minus => "-"
  | .star => "*"
  | .slash => "/"
  | .percent => "%"
  | .power => "**"
  | .increment => "++"
  | .decrement => "--"
  | .bitAnd => "&"
  | .bitOr => "|"
  | .bitXor => "^"
  | .not => "!"
  | .complement => "~"
  | .and => "&&"
  | .or => "||"
  | .nullish => "??"
  | .lessSlash => "</"

/-- Operators that assign, apart from `=`. -/
def Mark.isUpdate : Mark → Bool
  | .addAssign | .subAssign | .mulAssign | .divAssign | .remAssign | .powAssign
  | .shiftLeftAssign | .shiftRightAssign | .shiftRightZeroAssign | .bitAndAssign | .bitOrAssign
  | .bitXorAssign | .andAssign | .orAssign | .nullishAssign => true
  | _ => false

inductive Token where
  | mark (mark : Mark)
  /-- A name or a reserved word; `escaped` if it was written with an escape. -/
  | word (name : String) (escaped : Bool)
  /-- `none` where the text has an unpaired surrogate. -/
  | string (value : Option String)
  | number
  | bigint
  /-- A pattern of characters between slashes. -/
  | pattern
  /-- A stretch of a template, up to its end (`last`) or to an expression. A bad escape in it counts
  only if the template has no tag. -/
  | template (last : Bool) (fault : Option Fault)
  /-- Text between the tags of markup. -/
  | markupText
  /-- A name in a tag of markup, which may hold dashes. -/
  | markupName (name : String)
  | endOfText
  | invalid (fault : Fault)
  deriving DecidableEq, Repr

/-- The words that have a name of their own in messages; all others are called `ident`. -/
def knownWords : List String :=
  ["await", "break", "case", "catch", "class", "const", "continue", "debugger", "default", "delete",
   "do", "else", "export", "extends", "false", "finally", "for", "function", "if", "import", "in",
   "instanceof", "let", "new", "null", "return", "super", "switch", "this", "throw", "true", "try",
   "typeof", "var", "void", "while", "with", "yield", "module", "abstract", "any", "as", "asserts",
   "assert", "async", "bigint", "boolean", "declare", "enum", "from", "get", "global", "implements",
   "interface", "intrinsic", "is", "keyof", "namespace", "never", "number", "object", "of", "out",
   "override", "package", "private", "protected", "public", "readonly", "require", "set", "static",
   "string", "symbol", "type", "undefined", "unique", "unknown", "using", "accessor", "infer",
   "satisfies", "meta", "target"]

namespace Token

/-- What a message calls the token. -/
def shown : Token → String
  | .mark m => m.text
  | .word name _ => if knownWords.contains name then name else "ident"
  | .string _ => "string literal"
  | .number => "numeric literal"
  | .bigint => "bigint literal"
  | .pattern => "regexp literal"
  | .template .. => "template token"
  | .markupText => "jsx text"
  | .markupName _ => "jsx name"
  | .endOfText => "<eof>"
  | .invalid _ => "<lexing error>"

def isMark (m : Mark) : Token → Bool
  | .mark n => n == m
  | _ => false

def isWord (w : String) : Token → Bool
  | .word n _ => n == w
  | _ => false

def isAnyWord : Token → Bool
  | .word .. => true
  | _ => false

def isString : Token → Bool
  | .string _ => true
  | _ => false

def isInvalid : Token → Bool
  | .invalid _ => true
  | _ => false

end Token

/-- Words that are never names. -/
def keywords : List String :=
  ["break", "case", "catch", "class", "const", "continue", "debugger", "default", "delete", "do",
   "else", "enum", "export", "extends", "false", "finally", "for", "function", "if", "import", "in",
   "instanceof", "new", "null", "return", "super", "switch", "this", "throw", "true", "try",
   "typeof", "var", "void", "while", "with"]

def isKeyword (w : String) : Bool :=
  keywords.contains w

/-- Words that strict code keeps for later; they are no expressions, and bind with a fault. -/
def isReservedInStrict (w : String) : Bool :=
  ["implements", "interface", "let", "package", "private", "protected", "public", "static",
   "yield"].contains w

end RouteShortcuts.Script
