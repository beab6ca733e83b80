import ComponentStyles.Text.Basic

/-!
# Diagnostics of scripts

What can be wrong with the text of a script, and the wording of each.
-/

namespace ComponentStyles.Script

/-- What is wrong with a script. -/
inductive Diagnostic where
  | unexpectedToken
  | unexpectedEnd
  | expectedToken (wanted found : String)
  | expectedSeparator (wanted close found : String)
  | missingSemicolon
  | invalidCharacter (c : Char)
  | unterminatedString
  | unterminatedComment
  | unterminatedRegex
  | invalidRegexFlag (c : Char)
  | invalidEscape
  | invalidUnicodeEscape
  | invalidTemplateEscape
  | invalidNumberEnd
  | lineBreakBeforeArrow
  | missingFunctionName
  | reservedName (name : String)
  | invalidAssignment
  | defaultInObject
  | restNotLast
  | missingConstValue
  | missingPatternValue
  | emptyParentheses
  | mixedCoalesce
  | unparenthesizedPower
  | returnOutsideFunction
  | yieldOutsideGenerator
  | awaitOutsideAsync
  | missingHandler
  | lineBreakAfterThrow
  | unexpectedMarkup
  | strayInMarkup (c : Char)
  | closingTagMismatch (name : String)
  | closingFragmentMismatch
  | optionalChainInNew
  | optionalChainTemplate
  | importInNew
  | assertionOutsideTyped
  | satisfactionOutsideTyped
  | repeatedDefaultExport
  | repeatedExport (name : String)
  deriving DecidableEq, Repr

def Diagnostic.message : Diagnostic → String
  | .unexpectedToken => "Unexpected token"
  | .unexpectedEnd => "Unexpected end of file"
  | .expectedToken wanted found => "Expected `" ++ wanted ++ "` but found `" ++ found ++ "`"
  | .expectedSeparator wanted close found =>
    "Expected `" ++ wanted ++ "` or `" ++ close ++ "` but found `" ++ found ++ "`"
  | .missingSemicolon =>
    "Expected a semicolon or an implicit semicolon after a statement, but found none"
  | .invalidCharacter c => "Invalid Character `" ++ String.singleton c ++ "`"
  | .unterminatedString => "Unterminated string"
  | .unterminatedComment => "Unterminated multiline comment"
  | .unterminatedRegex => "Unterminated regular expression"
  | .invalidRegexFlag c => "Unexpected flag " ++ String.singleton c ++ " in regular expression literal"
  | .invalidEscape => "Invalid escape sequence"
  | .invalidUnicodeEscape => "Invalid Unicode escape sequence"
  | .invalidTemplateEscape => "Bad escape sequence in untagged template literal"
  | .invalidNumberEnd => "Invalid characters after number"
  | .lineBreakBeforeArrow => "Line terminator not permitted before arrow"
  | .missingFunctionName => "Expected function name"
  | .reservedName name =>
    "Identifier expected. '" ++ name ++ "' is a reserved word that cannot be used here."
  | .invalidAssignment => "Cannot assign to this expression"
  | .defaultInObject => "Invalid assignment in object literal"
  | .restNotLast => "A rest element must be last in a destructuring pattern"
  | .missingConstValue => "Missing initializer in const declaration"
  | .missingPatternValue => "Missing initializer in destructuring declaration"
  | .emptyParentheses => "Empty parenthesized expression"
  | .mixedCoalesce => "Logical expressions and coalesce expressions cannot be mixed"
  | .unparenthesizedPower => "Unexpected exponentiation expression"
  | .returnOutsideFunction =>
    "A 'return' statement can only be used within a function body."
  | .yieldOutsideGenerator => "A 'yield' expression is only allowed in a generator body."
  | .awaitOutsideAsync =>
    "`await` is only allowed within async functions and at the top levels of modules"
  | .missingHandler => "Missing catch or finally clause"
  | .lineBreakAfterThrow => "Illegal newline after throw"
  | .unexpectedMarkup => "Unexpected JSX expression"
  | .strayInMarkup c =>
    let name := if c = '>' then "gt" else "rbrace"
    "Unexpected token. Did you mean `\x7b'" ++ String.singleton c ++ "'\x7d` or `&" ++ name ++ ";`?"
  | .closingTagMismatch name =>
    "Expected corresponding JSX closing tag for '" ++ name ++ "'."
  | .closingFragmentMismatch => "Expected corresponding closing tag for JSX fragment."
  | .optionalChainInNew => "Optional chaining cannot appear in the callee of new expressions"
  | .optionalChainTemplate =>
    "Tagged template expressions are not permitted in an optional chain"
  | .importInNew => "Cannot use new with dynamic import"
  | .assertionOutsideTyped =>
    "Type assertion expressions can only be used in TypeScript files."
  | .satisfactionOutsideTyped =>
    "Type satisfaction expressions can only be used in TypeScript files."
  | .repeatedDefaultExport => "A module cannot have multiple default exports."
  | .repeatedExport name => "Duplicated export '" ++ name ++ "'"

/-- A diagnostic and the byte offset it is placed at. -/
structure Located where
  diagnostic : Diagnostic
  offset : Nat
  deriving DecidableEq, Repr

end ComponentStyles.Script
