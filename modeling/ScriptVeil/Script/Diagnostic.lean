import ScriptVeil.Text.Visible

namespace ScriptVeil.Script

inductive EscapeForm where
  | two
  | four
  | braced
  | bracedInRange
deriving DecidableEq, Repr

def EscapeForm.text : EscapeForm → String
  | .two => "2 hex characters"
  | .four => "4 hex characters"
  | .braced => "1-6 hex characters"
  | .bracedInRange => "1-6 hex characters in the range 0 to 10FFFF."

inductive Cause where
  | endOfText
  | expressionExpected
  | expected (wanted got : Text)
  | unexpected (got : Text) (wanted : String)
  | statementEnd
  | missingSemicolon
  | nameExpected
  | moduleOnlyStatement
  | unterminatedString
  | unterminatedComment
  | unterminatedRegex
  | unterminatedTemplate
  | strayCharacter (c : Char)
  | conflictMarker
  | digitExpected (radix : Nat)
  | exponentExpected
  | nameAfterNumber
  | misplacedSeparator
  | legacyOctal
  | legacyDecimal
  | badEscape (form : EscapeForm)
  | danglingBackslash
  | unclosedEscape
  | unicodeEscapeExpected
  | escapedReservedWord (word : Text)
  | badNameCharacter
  | unknownRegexFlags
  | repeatedRegexFlag (flag : Char)
  | powerOfUnary
  | mixedCoalescing
  | badTarget
  | notAssignable
  | badAssignmentLeft
  | notAPattern
  | shorthandDefaultInLiteral
  | optionalMember
  | restNotLast
  | restElementNotLast
  | restWithDefault
  | commaAfterRest
  | restWithoutName
  | trailingComma
  | patternWithoutInit
  | constantWithoutInit
  | reservedName (name : Text)
  | awaitAsName
  | argumentsInField
  | declarationNotAllowed
  | returnOutsideFunction
  | breakOutsideLoop
  | breakToUnknownLabel
  | continueOutsideLoop
  | continueToUnknownLabel
  | repeatedLabel (name : Text)
  | labelledFunctionInStrict
  | labelledGenerator
  | lineBreakInThrow
  | repeatedDefault
  | tooManyLoopVariables
  | asyncLoopVariable
  | loopVariableInitialised
  | awaitInPlainLoop
  | getterParameter
  | setterParameter
  | restInSetter
  | repeatedConstructor
  | privateConstructor
  | generatorConstructor
  | asyncConstructor
  | accessorConstructor
  | staticConstructor
  | fieldNamedConstructor
  | repeatedModifier
  | secondExtends
  | spaceAfterHash
  | strictWithComplexParameters
  | newTargetOutsideFunction
  | importMetaInScript
  | importNotAllowed
  | importTrailingComma
  | badSuper
  | badSuperCall
  | optionalSuperCall
  | optionalNew
  | optionalTemplate
  | topLevelAwait
  | awaitStar
  | usingNotEnabled
  | usingPattern
  | usingWithoutInit
  | awaitInPlainFunction
  | awaitInParameters
  | yieldInParameters
  | lineBreakBeforeArrow
  | arrowNotAllowed
  | emptyParentheses
  | spreadInParentheses
  | tooDeep
deriving DecidableEq, Repr

private def digitName : Nat → String
  | 2 => "a binary digit"
  | 8 => "an octal digit"
  | 16 => "a hexadecimal digit"
  | _ => "a decimal digit"

def Cause.message : Cause → String
  | .endOfText => "Unexpected eof"
  | .expressionExpected => "Expression expected"
  | .expected wanted got =>
    "Expected '" ++ String.ofList wanted ++ "', got '" ++ String.ofList got ++ "'"
  | .unexpected got wanted =>
    "Unexpected token `" ++ String.ofList got ++ "`. Expected " ++ wanted
  | .statementEnd => "Expected ';', '\x7d' or <eof>"
  | .missingSemicolon => "Expected a semicolon"
  | .nameExpected => "Expected ident"
  | .moduleOnlyStatement => "'import', and 'export' cannot be used outside of module code"
  | .unterminatedString => "Unterminated string constant"
  | .unterminatedComment => "Unterminated block comment"
  | .unterminatedRegex => "Unterminated regexp literal"
  | .unterminatedTemplate => "Unterminated template"
  | .strayCharacter c => "Unexpected character '" ++ String.ofList (shownChar c) ++ "'"
  | .conflictMarker => "Merge conflict marker encountered."
  | .digitExpected radix => "Expected " ++ digitName radix
  | .exponentExpected => "Expected +, - or decimal digit after e"
  | .nameAfterNumber => "Identifier cannot follow number"
  | .misplacedSeparator => "A numeric separator is only allowed between two digits"
  | .legacyOctal => "Legacy octal escape is not permitted in strict mode"
  | .legacyDecimal => "Legacy decimal escape is not permitted in strict mode"
  | .badEscape form => "Bad character escape sequence, expected " ++ form.text
  | .danglingBackslash => "Invalid string escape"
  | .unclosedEscape => "Invalid unicode escape"
  | .unicodeEscapeExpected => "Expected unicode escape"
  | .escapedReservedWord word =>
    "Unexpected escape sequence in reserved word: " ++ String.ofList word
  | .badNameCharacter => "Invalid character in identifier"
  | .unknownRegexFlags => "Unknown regular expression flags."
  | .repeatedRegexFlag flag =>
    "Duplicated regular expression flag '" ++ String.ofList [flag] ++ "'."
  | .powerOfUnary => "'**' cannot be applied to unary/await expression."
  | .mixedCoalescing =>
    "Nullish coalescing operator(??) requires parens when mixing with logical operators"
  | .badTarget => "Invalid assignment target"
  | .notAssignable => "Cannot assign to this"
  | .badAssignmentLeft =>
    "The left-hand side of an assignment expression must be a variable or a property access."
  | .notAPattern => "Not a pattern"
  | .shorthandDefaultInLiteral => "assignment property is invalid syntax"
  | .optionalMember => "An object member cannot be declared optional"
  | .restNotLast => "A rest parameter must be last in a parameter list"
  | .restElementNotLast => "Rest element must be final element"
  | .restWithDefault => "A rest parameter cannot have an initializer"
  | .commaAfterRest => "Trailing comma isn't permitted after a rest element"
  | .restWithoutName => "`...` must be followed by an identifier in declaration contexts"
  | .trailingComma => "Trailing comma is not allowed"
  | .patternWithoutInit => "Destructuring bindings require initializers"
  | .constantWithoutInit => "'const' declarations must be initialized"
  | .reservedName name =>
    "`" ++ String.ofList name ++ "` cannot be used as an identifier in strict mode"
  | .awaitAsName => "`await` cannot be used as an identifier in an async context"
  | .argumentsInField => "'arguments' is only allowed in functions and class methods"
  | .declarationNotAllowed => "Declaration is not allowed"
  | .returnOutsideFunction => "Return statement is not allowed here"
  | .breakOutsideLoop =>
    "A 'break' statement can only be used within an enclosing iteration or switch statement"
  | .breakToUnknownLabel =>
    "A 'break' statement can only jump to a label of an enclosing statement"
  | .continueOutsideLoop =>
    "A 'continue' statement can only jump to a label of an enclosing iteration statement"
  | .continueToUnknownLabel => "Jump target cannot cross function boundary"
  | .repeatedLabel name => "Label " ++ String.ofList name ++ " is already declared"
  | .labelledFunctionInStrict => "Function cannot be labelled in strict mode"
  | .labelledGenerator => "Generator or async function cannot be labelled"
  | .lineBreakInThrow => "LineBreak cannot follow 'throw'"
  | .repeatedDefault => "A switch block cannot have multiple defaults"
  | .tooManyLoopVariables => "Expected one variable binding"
  | .asyncLoopVariable => "The left-hand side of a `for...of` statement may not be `async`"
  | .loopVariableInitialised => "Unexpected initializer in for in/of loop"
  | .awaitInPlainLoop => "for await syntax is valid only for for-of statement"
  | .getterParameter => "A `get` accessor cannot have parameters"
  | .setterParameter => "A `set` accessor must have exactly one parameter"
  | .restInSetter => "Rest pattern is not allowed in setter"
  | .repeatedConstructor => "A class can only have one constructor"
  | .privateConstructor => "Classes can't have a private field named '#constructor'."
  | .generatorConstructor => "A constructor cannot be generator"
  | .asyncConstructor => "Constructor can't be an async function"
  | .accessorConstructor => "Class constructor can't be an accessor."
  | .staticConstructor => "'static' modifier cannot appear on a constructor declaration"
  | .fieldNamedConstructor => "Classes may not have a non-static field named 'constructor'"
  | .repeatedModifier => "Modifiers cannot appear here"
  | .secondExtends => "`extends` clause already seen."
  | .spaceAfterHash => "Unexpected space between # and identifier"
  | .strictWithComplexParameters =>
    "Illegal 'use strict' directive in function with non-simple parameter list."
  | .newTargetOutsideFunction =>
    "'new.target' is only allowed in the body of a function declaration, function expression, "
      ++ "or class."
  | .importMetaInScript => "'import.meta' cannot be used outside of module code."
  | .importNotAllowed => "Import is not allowed here"
  | .importTrailingComma => "Trailing comma is disallowed inside import(...) arguments"
  | .badSuper => "Invalid access to super"
  | .badSuperCall => "Invalid `super()`"
  | .optionalSuperCall => "Super call cannot be optional"
  | .optionalNew => "Constructor in/after an optional chaining is not allowed."
  | .optionalTemplate => "Tagged template literal is not allowed in optional chain."
  | .topLevelAwait => "top level await is only allowed in module"
  | .awaitStar =>
    "await* has been removed from the async functions proposal. Use Promise.all() instead."
  | .usingNotEnabled =>
    "Using declaration is not enabled. Set jsc.parser.explicitResourceManagement to true"
  | .usingPattern => "Using declaration only allows identifiers"
  | .usingWithoutInit => "Using declaration requires initializer"
  | .awaitInPlainFunction => "await isn't allowed in non-async function"
  | .awaitInParameters => "`await` expressions cannot be used in a parameter initializer."
  | .yieldInParameters => "'yield' cannot be used as a parameter within generator"
  | .lineBreakBeforeArrow => "Unexpected line break between arrow head and arrow"
  | .arrowNotAllowed => "An arrow function is not allowed here"
  | .emptyParentheses => "Parenthesized expression cannot be empty"
  | .spreadInParentheses => "Parenthesized expression cannot contain spread operator"
  | .tooDeep => "Nesting is too deep"

structure Diagnostic where
  cause : Cause
  offset : Nat
deriving DecidableEq, Repr

/-- The name of a cause that can spoil a token, with its details; other causes have none. -/
def Cause.label : Cause → String
  | .strayCharacter c => "UnexpectedChar \x7b c: '" ++ String.ofList (shownChar c) ++ "' \x7d"
  | .conflictMarker => "TS1185"
  | .unicodeEscapeExpected => "ExpectedUnicodeEscape"
  | .badEscape form =>
    "BadCharacterEscapeSequence \x7b expected: \"" ++ form.text ++ "\" \x7d"
  | .danglingBackslash => "InvalidStrEscape"
  | .unclosedEscape => "InvalidUnicodeEscape"
  | .escapedReservedWord word =>
    "EscapeInReservedWord \x7b word: \"" ++ String.ofList word ++ "\" \x7d"
  | .digitExpected radix =>
    "ExpectedDigit \x7b radix: " ++ String.ofList (Nat.toDigits 10 radix) ++ " \x7d"
  | .nameAfterNumber => "IdentAfterNum"
  | .exponentExpected => "NumLitTerminatedWithExp"
  | .unterminatedRegex => "UnterminatedRegExp"
  | .unterminatedTemplate => "UnterminatedTpl"
  | _ => ""

/-- What spoils a token: a cause and the range that it concerns, at the start of which it is
reported. -/
structure Flaw where
  cause : Cause
  span : Span
deriving DecidableEq, Repr

namespace Flaw

def diagnostic (f : Flaw) : Diagnostic :=
  ⟨f.cause, f.span.start⟩

/-- How messages show a spoiled token: by its flaw, with offsets counted from one. -/
def shown (f : Flaw) : Text :=
  "<lexing error: Error \x7b error: (".toList ++ Nat.toDigits 10 (f.span.start + 1) ++ "..".toList
    ++ Nat.toDigits 10 (f.span.stop + 1) ++ ", ".toList ++ f.cause.label.toList
    ++ ") \x7d>".toList

end Flaw

end ScriptVeil.Script
