/-!
# Faults of a source text

What can be wrong with a source text, by cause. `Cause.message` is the wording, `Cause.family` says
whether the fault is one of indentation, and a `Fault` is a cause with the place where it is
reported. Places count lines from one and characters from one; a fault at the end of the text may
stand before the first character of a line.
-/

namespace FluentBuilder.Syntax

/-- The kinds of number whose digits can be wrong. -/
inductive NumberKind where
  | decimal | hexadecimal | octal | binary | imaginary
  deriving DecidableEq, Repr

/-- The word for a kind of number. -/
def NumberKind.word : NumberKind → String
  | .decimal => "decimal"
  | .hexadecimal => "hexadecimal"
  | .octal => "octal"
  | .binary => "binary"
  | .imaginary => "imaginary"

/-- What is wrong with a source text. -/
inductive Cause where
  -- characters and lexemes
  | unterminatedText (line : Nat)
  | unterminatedLongText (line : Nat)
  | characterAfterContinuation
  | unexpectedEnd
  | invalidCharacter (c : Char)
  | unprintableCharacter (code : Nat)
  | invalidNumber (kind : NumberKind)
  | invalidDigit (digit : Char) (kind : NumberKind)
  | leadingZeros
  | integerTooLong (digits : Nat)
  -- brackets
  | tooManyBrackets
  | unmatched (closing : Char)
  | mismatched (closing opening : Char) (line : Option Nat)
  | neverClosed (opening : Char)
  -- indentation
  | mixedIndentation
  | unknownIndentation
  | tooManyIndents
  | unexpectedIndent
  | unexpectedUnindent
  | expectedAnyBlock
  | expectedBlock (what : String) (line : Nat)
  -- constants
  | mixedConstants
  | bytesBeyondAscii
  | malformedEscape (description : String)
  | field (description : String)
  | characterInField (what : String)
  | inField (cause : Cause)
  -- grammar
  | invalidSyntax
  | expected (token : String)
  | forgottenComma
  | expectedElse
  | maybeComparison
  | cannotAssign (what : String)
  | cannotAssignHere (what : String)
  | cannotDelete (what : String)
  | cannotName (what : String)
  | assignmentInArgument
  | missingParentheses (function : String)
  | onlySingleTarget (what : String)
  | illegalAnnotationTarget
  | assignmentToYield
  | illegalAugmentedTarget (what : String)
  | starredHere
  | doubleStarredHere
  | unpackingInComprehension
  | unpackingInDictComprehension
  | bareComprehensionTarget
  | generatorParentheses
  | positionalAfterKeyword
  | positionalAfterUnpacking
  | unpackingAfterUnpacking
  | defaultOrder
  | parameterParentheses
  | lambdaParameterParentheses
  | slashFirst
  | slashTwice
  | slashAfterStar
  | commaBeforeStar
  | expectedDefault
  | namedAfterBareStar
  | restDefault
  | starTwice
  | keywordRestDefault
  | afterKeywordRest
  | trailingComma
  | expectedHandler
  | mixedHandlers
  | exceptionParentheses
  | expectedExceptions
  | underscoreTarget
  | invalidPatternTarget
  | positionalPatternAfterKeyword
  | realRequired
  | imaginaryRequired
  | starredDictValue
  | missingDictValue
  | missingDictColon
  deriving DecidableEq, Repr

/-- The wording of a cause. -/
def Cause.message : Cause → String
  | .unterminatedText line => "unterminated string literal (detected at line " ++ toString line ++ ")"
  | .unterminatedLongText line =>
    "unterminated triple-quoted string literal (detected at line " ++ toString line ++ ")"
  | .characterAfterContinuation => "unexpected character after line continuation character"
  | .unexpectedEnd => "unexpected EOF while parsing"
  | .invalidCharacter c =>
    "invalid character '" ++ c.toString ++ "' (U+" ++ hexCode c.toNat ++ ")"
  | .unprintableCharacter code => "invalid non-printable character U+" ++ hexCode code
  | .invalidNumber kind => "invalid " ++ kind.word ++ " literal"
  | .invalidDigit digit kind =>
    "invalid digit '" ++ digit.toString ++ "' in " ++ kind.word ++ " literal"
  | .leadingZeros => "leading zeros in decimal integer literals are not permitted; use an " ++
    "0o prefix for octal integers"
  | .integerTooLong digits => "Exceeds the limit (4300 digits) for integer string conversion: " ++
    "value has " ++ toString digits ++ " digits; use sys.set_int_max_str_digits() to increase the " ++
    "limit - Consider hexadecimal for huge integer literals to avoid decimal conversion limits."
  | .tooManyBrackets => "too many nested parentheses"
  | .unmatched closing => "unmatched '" ++ closing.toString ++ "'"
  | .mismatched closing opening line =>
    "closing parenthesis '" ++ closing.toString ++ "' does not match opening parenthesis '" ++
      opening.toString ++ "'" ++ (match line with
        | some line => " on line " ++ toString line
        | none => "")
  | .neverClosed opening => "'" ++ opening.toString ++ "' was never closed"
  | .mixedIndentation => "inconsistent use of tabs and spaces in indentation"
  | .unknownIndentation => "unindent does not match any outer indentation level"
  | .tooManyIndents => "too many levels of indentation"
  | .unexpectedIndent => "unexpected indent"
  | .unexpectedUnindent => "unexpected unindent"
  | .expectedAnyBlock => "expected an indented block"
  | .expectedBlock what line =>
    "expected an indented block after " ++ what ++ " on line " ++ toString line
  | .mixedConstants => "cannot mix bytes and nonbytes literals"
  | .bytesBeyondAscii => "bytes can only contain ASCII literal characters"
  | .malformedEscape description => description
  | .field description => "f-string: " ++ description
  | .characterInField what => "f-string expression part cannot include " ++ what
  | .inField cause => "f-string: " ++ cause.message
  | .invalidSyntax => "invalid syntax"
  | .expected token => "expected " ++ token
  | .forgottenComma => "invalid syntax. Perhaps you forgot a comma?"
  | .expectedElse => "expected 'else' after 'if' expression"
  | .maybeComparison => "invalid syntax. Maybe you meant '==' or ':=' instead of '='?"
  | .cannotAssign what => "cannot assign to " ++ what
  | .cannotAssignHere what =>
    "cannot assign to " ++ what ++ " here. Maybe you meant '==' instead of '='?"
  | .cannotDelete what => "cannot delete " ++ what
  | .cannotName what => "cannot use assignment expressions with " ++ what
  | .assignmentInArgument =>
    "expression cannot contain assignment, perhaps you meant \"==\"?"
  | .missingParentheses function =>
    "Missing parentheses in call to '" ++ function ++ "'. Did you mean " ++ function ++ "(...)?"
  | .onlySingleTarget what => "only single target (not " ++ what ++ ") can be annotated"
  | .illegalAnnotationTarget => "illegal target for annotation"
  | .assignmentToYield => "assignment to yield expression not possible"
  | .illegalAugmentedTarget what =>
    "'" ++ what ++ "' is an illegal expression for augmented assignment"
  | .starredHere => "cannot use starred expression here"
  | .doubleStarredHere => "cannot use double starred expression here"
  | .unpackingInComprehension => "iterable unpacking cannot be used in comprehension"
  | .unpackingInDictComprehension => "dict unpacking cannot be used in dict comprehension"
  | .bareComprehensionTarget =>
    "did you forget parentheses around the comprehension target?"
  | .generatorParentheses => "Generator expression must be parenthesized"
  | .positionalAfterKeyword => "positional argument follows keyword argument"
  | .positionalAfterUnpacking => "positional argument follows keyword argument unpacking"
  | .unpackingAfterUnpacking =>
    "iterable argument unpacking follows keyword argument unpacking"
  | .defaultOrder => "non-default argument follows default argument"
  | .parameterParentheses => "Function parameters cannot be parenthesized"
  | .lambdaParameterParentheses => "Lambda expression parameters cannot be parenthesized"
  | .slashFirst => "at least one argument must precede /"
  | .slashTwice => "/ may appear only once"
  | .slashAfterStar => "/ must be ahead of *"
  | .commaBeforeStar => "expected comma between / and *"
  | .expectedDefault => "expected default value expression"
  | .namedAfterBareStar => "named arguments must follow bare *"
  | .restDefault => "var-positional argument cannot have default value"
  | .starTwice => "* argument may appear only once"
  | .keywordRestDefault => "var-keyword argument cannot have default value"
  | .afterKeywordRest => "arguments cannot follow var-keyword argument"
  | .trailingComma => "trailing comma not allowed without surrounding parentheses"
  | .expectedHandler => "expected 'except' or 'finally' block"
  | .mixedHandlers => "cannot have both 'except' and 'except*' on the same 'try'"
  | .exceptionParentheses => "multiple exception types must be parenthesized"
  | .expectedExceptions => "expected one or more exception types"
  | .underscoreTarget => "cannot use '_' as a target"
  | .invalidPatternTarget => "invalid pattern target"
  | .positionalPatternAfterKeyword => "positional patterns follow keyword patterns"
  | .realRequired => "real number required in complex literal"
  | .imaginaryRequired => "imaginary number required in complex literal"
  | .starredDictValue => "cannot use a starred expression in a dictionary value"
  | .missingDictValue => "expression expected after dictionary key and ':'"
  | .missingDictColon => "':' expected after dictionary key"
where
  /-- A code point in at least four capital hexadecimal digits. -/
  hexCode (n : Nat) : String :=
    let digits := (Nat.toDigits 16 n).map Char.toUpper
    String.ofList (List.replicate (4 - digits.length) '0' ++ digits)

/-- The families of faults: indentation has faults of its own. -/
inductive Family where
  | grammar | indentation | tabs
  deriving DecidableEq, Repr

/-- The family of a cause. -/
def Cause.family : Cause → Family
  | .mixedIndentation => .tabs
  | .unknownIndentation | .tooManyIndents | .unexpectedIndent | .unexpectedUnindent
  | .expectedAnyBlock | .expectedBlock .. => .indentation
  | _ => .grammar

/-- A cause with the place where it is reported. In a replacement field columns may be below zero. -/
structure Fault where
  /-- What is wrong. -/
  cause : Cause
  /-- The line. -/
  line : Nat
  /-- The character on the line. -/
  column : Int
  deriving DecidableEq, Repr

end FluentBuilder.Syntax
