/-
  RouteShortcuts.Script.Fault — why a script is not accepted, and where.

  A `Fault` is a cause at an offset (in characters from the start of the text). The reader keeps two
  kinds apart: one that stops it, and one it notes before going on. Either way the script is refused;
  which of several faults is reported is decided in `Script.Reader`. `Cause.message` holds all the
  wording.
-/

namespace RouteShortcuts.Script

inductive Cause where
  /- reading characters -/
  | unexpectedCharacter (shown : String)
  | unterminatedComment
  | unterminatedString
  | unterminatedTemplate
  | unterminatedPattern
  | unterminatedMarkup
  | legacyComment
  | conflictMarker
  | legacyOctalEscape
  | legacyDecimal
  | legacyOctalNumber
  | separatorBetweenDigits
  | digitExpected (kind : String)
  | exponentExpected
  | nameAfterNumber
  | badEscape (digits : String)
  | badStringEscape
  | badUnicodeEscape
  | unicodeEscapeExpected
  | badNameCharacter
  | escapeInReservedWord (word : String)
  | loneMarkupCharacter (candidates : String)
  | unknownPatternFlags
  | repeatedPatternFlag (flag : Char)
  /- shape -/
  | endOfText
  | expected (token got : String)
  | unexpected (got wanted : String)
  | nameExpected
  | expressionExpected
  | semicolonExpected
  | statementEndExpected
  | stringExpected
  | emptyParentheses
  | spreadInParentheses
  | lineBreakAfterThrow
  | lineBreakBeforeArrow
  | arrowMisplaced
  | assignmentProperty
  | reservedShorthand
  | mixedNullish
  | unaryBeforePower
  | badTarget
  | badReferenceTarget
  | notPattern
  | notAssignable
  | notExpression
  | commaAfterRest
  | restNotLast
  | restParameterLast
  | trailingComma
  | optionalBindingPattern
  | parameterWithQuestionAndInitializer
  | reservedName (name : String)
  | awaitAsName
  | reservedBinding
  | argumentsInField
  | superMisplaced
  | superCallMisplaced
  | superPrivateName
  | newTargetMisplaced
  | importMetaMisplaced
  | optionalTemplate
  | optionalNew
  | importTrailingComma
  | declarationNotAllowed
  | usingNotAllowed
  | usingInForIn
  | usingPattern
  | usingUninitialized
  | breakMisplaced
  | breakUnknownLabel
  | continueMisplaced
  | continueUnknownLabel
  | repeatedLabel (name : String)
  | labelledFunction
  | returnMisplaced
  | withStatement
  | withInStrictCode
  | repeatedDefault
  | moduleSyntaxMisplaced
  | moduleSyntaxNotTopLevel
  | emptyDeclaration
  | uninitializedConst
  | uninitializedPattern
  | severalLoopBindings
  | loopInitializer
  | typedLoop
  | loopPattern
  | loopAsync
  | awaitLoop
  | blockAssignment
  | strictDirective
  | yieldInParameter
  | awaitInParameter
  | awaitStar
  | awaitOutsideAsync
  /- objects and classes -/
  | getterParameters
  | setterParameters
  | setterRest
  | optionalMember
  | commaInKey
  | dotsWithoutName
  | restInitializer
  | restOptional
  | repeatedConstructor
  | constructorModifier (kind : String)
  | constructorField
  | privateConstructor
  | privateModifier (word : String)
  | blankAfterHash
  | modifierMisplaced
  | modifierRepeated (word : String)
  | constructorType
  | constructorAccessor
  | modifierOrder (first second : String)
  | abstractMisplaced
  | abstractBody
  | abstractInitializer
  | overrideWithoutBase
  | ambientBody
  | ambientModifier
  | ambientTwice
  | parameterProperty
  | parameterPropertyPattern
  | overloadInitializer
  | annotationAfterDefault
  | constructorTypeParameters
  | indexSignature
  | repeatedExtends
  | extendsAfterImplements
  | severalBases
  | repeatedImplements
  | className
  | readonlyMethod
  | readonlyAccessor
  | decoratorMisplaced
  | decoratorSplit
  | nonNullAfter (word : String)
  /- types -/
  | emptyTypeParameters
  | emptyTypeArguments
  | requiredAfterOptional
  | asyncModifier
  | interfaceName
  | interfaceBase
  | numericEnumMember
  | computedEnumMember
  | typeParameterModifier (kind word : String)
  | ambiguousAssertion
  | ambiguousArrow
  | deleteName
  | deleteOperand
  | typedSpecifier (kind : String)
  | importedString (text : String)
  | exportedString
  | exportedReserved (name : String)
  | exportDefaultFrom
  /- markup -/
  | emptyAttribute
  | attributeValue
  | closingTag (name : String)
  /- the reader's own limit, never reached by a text of finite length -/
  | tooDeep
  deriving DecidableEq, Repr

namespace Cause

def message : Cause → String
  | .unexpectedCharacter shown => "Unexpected character " ++ shown
  | .unterminatedComment => "Unterminated block comment"
  | .unterminatedString => "Unterminated string constant"
  | .unterminatedTemplate => "Unterminated template"
  | .unterminatedPattern => "Unterminated regexp literal"
  | .unterminatedMarkup => "Unterminated JSX contents"
  | .legacyComment => "Legacy comments cannot be used in module code"
  | .conflictMarker => "Merge conflict marker encountered."
  | .legacyOctalEscape => "Legacy octal escape is not permitted in strict mode"
  | .legacyDecimal => "Legacy decimal escape is not permitted in strict mode"
  | .legacyOctalNumber =>
    "Legacy octal literals are not available when targeting ECMAScript 5 and higher"
  | .separatorBetweenDigits => "A numeric separator is only allowed between two digits"
  | .digitExpected kind => "Expected " ++ kind ++ " digit"
  | .exponentExpected => "Expected +, - or decimal digit after e"
  | .nameAfterNumber => "Identifier cannot follow number"
  | .badEscape digits => "Bad character escape sequence, expected " ++ digits
  | .badStringEscape => "Invalid string escape"
  | .badUnicodeEscape => "Invalid unicode escape"
  | .unicodeEscapeExpected => "Expected unicode escape"
  | .badNameCharacter => "Invalid character in identifier"
  | .escapeInReservedWord word => "Unexpected escape sequence in reserved word: " ++ word
  | .loneMarkupCharacter candidates => "Unexpected token. Did you mean " ++ candidates ++ "?"
  | .unknownPatternFlags => "Unknown regular expression flags."
  | .repeatedPatternFlag flag => "Duplicated regular expression flag '" ++ flag.toString ++ "'."
  | .endOfText => "Unexpected eof"
  | .expected token got => "Expected '" ++ token ++ "', got '" ++ got ++ "'"
  | .unexpected got wanted => "Unexpected token `" ++ got ++ "`. Expected " ++ wanted
  | .nameExpected => "Expected ident"
  | .expressionExpected => "Expression expected"
  | .semicolonExpected => "Expected a semicolon"
  | .statementEndExpected => "Expected ';', '\x7d' or <eof>"
  | .stringExpected => "String literal expected"
  | .emptyParentheses => "Parenthesized expression cannot be empty"
  | .spreadInParentheses => "Parenthesized expression cannot contain spread operator"
  | .lineBreakAfterThrow => "LineBreak cannot follow 'throw'"
  | .lineBreakBeforeArrow => "Unexpected line break between arrow head and arrow"
  | .arrowMisplaced => "Arrow function is not allowed here"
  | .assignmentProperty => "assignment property is invalid syntax"
  | .reservedShorthand => "Cannot use a reserved word as a shorthand property"
  | .mixedNullish =>
    "Nullish coalescing operator(??) requires parens when mixing with logical operators"
  | .unaryBeforePower => "'**' cannot be applied to unary/await expression."
  | .badTarget => "Invalid assignment target"
  | .badReferenceTarget =>
    "The left-hand side of an assignment expression must be a variable or a property access."
  | .notPattern => "Not a pattern"
  | .notAssignable => "Cannot assign to this"
  | .notExpression => "Not an expression"
  | .commaAfterRest => "Trailing comma isn't permitted after a rest element"
  | .restNotLast => "Rest element must be final element"
  | .restParameterLast => "A rest parameter must be last in a parameter list"
  | .trailingComma => "Trailing comma is not allowed"
  | .optionalBindingPattern =>
    "A binding pattern parameter cannot be optional in an implementation signature."
  | .parameterWithQuestionAndInitializer => "Parameter cannot have question mark and initializer"
  | .reservedName name => "`" ++ name ++ "` cannot be used as an identifier in strict mode"
  | .awaitAsName => "`await` cannot be used as an identifier in an async context"
  | .reservedBinding =>
    "'eval' and 'arguments' cannot be used as a binding identifier in strict mode"
  | .argumentsInField => "'arguments' is only allowed in functions and class methods"
  | .superMisplaced => "Invalid access to super"
  | .superCallMisplaced => "Invalid `super()`"
  | .superPrivateName => "Index super with private name is not allowed"
  | .newTargetMisplaced =>
    "'new.target' is only allowed in the body of a function declaration, function expression, or class."
  | .importMetaMisplaced => "'import.meta' cannot be used outside of module code."
  | .optionalTemplate => "Tagged Template Literals are not allowed in optionalChain."
  | .optionalNew => "Constructor in new expression cannot contain an optional chain"
  | .importTrailingComma => "Trailing comma is disallowed inside import(...) arguments"
  | .declarationNotAllowed => "Declaration is not allowed"
  | .usingNotAllowed => "Using declaration is not allowed here"
  | .usingInForIn => "Using declaration is not allowed in for-in loop"
  | .usingPattern => "Invalid name in using declaration"
  | .usingUninitialized => "Using declaration requires initializer"
  | .breakMisplaced =>
    "A 'break' statement can only be used within an enclosing iteration or switch statement"
  | .breakUnknownLabel => "A 'break' statement can only jump to a label of an enclosing statement"
  | .continueMisplaced =>
    "A 'continue' statement can only jump to a label of an enclosing iteration statement"
  | .continueUnknownLabel => "Jump target cannot cross function boundary"
  | .repeatedLabel name => "Label " ++ name ++ " is already declared"
  | .labelledFunction => "Generator or async function cannot be labelled"
  | .returnMisplaced => "Return statement is not allowed here"
  | .withStatement =>
    "The 'with' statement is not supported. All symbols in a 'with' block will have type 'any'."
  | .withInStrictCode => "With statement are not allowed in strict mode"
  | .repeatedDefault => "A switch block cannot have multiple defaults"
  | .moduleSyntaxMisplaced => "'import', and 'export' cannot be used outside of module code"
  | .moduleSyntaxNotTopLevel => "'import', and 'export' are not permitted here"
  | .emptyDeclaration => "Variable declaration list cannot be empty"
  | .uninitializedConst => "'const' declarations must be initialized"
  | .uninitializedPattern => "Destructuring bindings require initializers"
  | .severalLoopBindings => "Expected one variable binding"
  | .loopInitializer => "Unexpected initializer in for in/of loop"
  | .typedLoop => "The left-hand side of a 'for...of' statement cannot use a type annotation"
  | .loopPattern => "The left-hand side of a 'for...in' statement cannot be a destructuring pattern"
  | .loopAsync => "The left-hand side of a 'for...of' statement may not be 'async'."
  | .awaitLoop => "for await syntax is valid only for for-of statement"
  | .blockAssignment =>
    "Declaration or statement expected. This '=' follows a block of statements, so if you intended " ++
      "to write a destructuring assignment, you might need to wrap the whole assignment in parentheses."
  | .strictDirective =>
    "Illegal 'use strict' directive in function with non-simple parameter list."
  | .yieldInParameter => "`yield` cannot be used as a parameter within generator"
  | .awaitInParameter => "`await` expressions cannot be used in a parameter initializer"
  | .awaitStar =>
    "await* has been removed from the async functions proposal. Use Promise.all() instead."
  | .awaitOutsideAsync => "await isn't allowed in non-async function"
  | .getterParameters => "A `get` accessor cannot have parameters"
  | .setterParameters => "A `set` accessor must have exactly one parameter"
  | .setterRest => "Rest pattern is not allowed in setter"
  | .optionalMember => "An object member cannot be declared optional"
  | .commaInKey => "A comma expression is not allowed in a computed property name"
  | .dotsWithoutName => "`...` must be followed by an identifier in declaration contexts"
  | .restInitializer => "A rest parameter cannot have an initializer"
  | .restOptional => "A rest parameter cannot be optional"
  | .repeatedConstructor => "A class can only have one constructor"
  | .constructorModifier kind => "Constructor can't be " ++ kind
  | .constructorField => "Class may not have a field named 'constructor'"
  | .privateConstructor => "Classes can't have a private field named '#constructor'"
  | .privateModifier word =>
    "'" ++ word ++ "' modifier cannot be used with a private identifier"
  | .blankAfterHash => "Unexpected space between # and identifier"
  | .modifierRepeated word => "'" ++ word ++ "' modifier already seen."
  | .constructorType => "Type annotation cannot appear on a constructor declaration."
  | .constructorAccessor => "Class constructor can't be an accessor"
  | .modifierMisplaced => "Modifiers cannot appear here"
  | .modifierOrder first second =>
    "'" ++ first ++ "' modifier must precede '" ++ second ++ "' modifier."
  | .abstractMisplaced => "Abstract methods can only appear within an abstract class."
  | .abstractBody => "Abstract method cannot have an implementation because it is marked abstract."
  | .abstractInitializer =>
    "Abstract property cannot have an initializer because it is marked abstract."
  | .overrideWithoutBase =>
    "This member cannot have an 'override' modifier because its containing class does not extend " ++
      "another class."
  | .ambientBody => "An implementation cannot be declared in ambient contexts"
  | .ambientModifier => "'declare' modifier cannot appear on class elements of this kind."
  | .ambientTwice => "A 'declare' modifier cannot be used in an already ambient context."
  | .parameterProperty => "A parameter property is only allowed in a constructor implementation"
  | .parameterPropertyPattern =>
    "Typescript parameter property must be an identifier or assignment pattern"
  | .overloadInitializer =>
    "A parameter initializer is only allowed in a function or constructor implementation"
  | .annotationAfterDefault => "Type annotations must come before default assignments"
  | .constructorTypeParameters => "Type parameters cannot appear on a constructor declaration"
  | .indexSignature => "An index signature must have exactly one parameter"
  | .repeatedExtends => "'extends' clause already seen."
  | .extendsAfterImplements => "'extends' clause must precede 'implements' clause."
  | .severalBases => "Classes can only extend a single class."
  | .repeatedImplements => "'implements' clause already seen."
  | .className => "Invalid class name"
  | .readonlyMethod => "A method cannot be readonly"
  | .readonlyAccessor => "A getter or a setter cannot be readonly"
  | .decoratorMisplaced => "Leading decorators must be attached to a class declaration"
  | .decoratorSplit =>
    "Decorators may not appear after 'export' or 'export default' if they also appear before 'export'."
  | .nonNullAfter word =>
    "Typescript non-null assertion operator is not allowed with '" ++ word ++ "'"
  | .emptyTypeParameters => "Type parameter list cannot be empty"
  | .emptyTypeArguments => "Type argument list cannot be empty"
  | .requiredAfterOptional => "A required element cannot follow an optional element."
  | .asyncModifier => "`async` modifier cannot be used here"
  | .interfaceName => "interface name is invalid"
  | .interfaceBase =>
    "An interface can only extend an identifier/qualified-name with optional type arguments."
  | .numericEnumMember => "An enum member cannot have a numeric name"
  | .computedEnumMember => "Computed property names are not allowed in enums"
  | .typeParameterModifier kind word => "'" ++ word ++ "' modifier " ++ kind
  | .ambiguousAssertion =>
    "This syntax is reserved in files with the .mts or .cts extension. Use an `as` expression instead."
  | .ambiguousArrow =>
    "This syntax is reserved in files with the .mts or .cts extension. Add a trailing comma, as in " ++
      "`<T,>() => ...`."
  | .deleteName => "`delete` cannot be called on an identifier in strict mode"
  | .deleteOperand => "The operand of a delete must be a property reference."
  | .typedSpecifier kind => "The 'type' modifier cannot be used on a named " ++ kind
      ++ " when '" ++ kind ++ " type' is used on its " ++ kind ++ " statement."
  | .importedString text =>
    "A string literal cannot be used as an imported binding.\n- Did you mean " ++
      "`import \x7b \"" ++ text ++ "\" as foo \x7d`?"
  | .exportedString =>
    "A string literal cannot be used as an exported binding without `from`."
  | .exportedReserved name => "`" ++ name ++ "` cannot be used without `from` clause"
  | .exportDefaultFrom => "export default statements required from '...';"
  | .emptyAttribute => "JSX attributes must only be assigned a non-empty expression"
  | .attributeValue => "JSX value should be either an expression or a quoted JSX text"
  | .closingTag name => "Expected corresponding JSX closing tag for <" ++ name ++ ">"
  | .tooDeep => "Nesting too deep"

end Cause

/-- A cause and the offset, in characters, at which it is reported. -/
structure Fault where
  cause : Cause
  offset : Nat
  deriving DecidableEq, Repr

end RouteShortcuts.Script
