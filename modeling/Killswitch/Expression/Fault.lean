import Killswitch.Decimal.Integer
import Killswitch.Text.Hex
import Killswitch.Text.Printable

/-!
# Faults of expressions

Why a text is no expression. A fault lies in a piece of the text, in what is quoted by a piece, or in the
order of the pieces. Faults of the order for which there is no better word are all one.

**Contents.**
* `EscapeFault`, `FieldFault`, `Misuse`: what is wrong with an escape, with a field of a formatted text,
  and with the order of pieces;
* `Fault`: the reasons, and `Fault.message`: each of them in words;
* `Halt`: how reading ends when there is a fault.
-/

namespace Killswitch
namespace Expression

/-- A character between quotes. -/
def quoted (c : Char) : String :=
  String.ofList ['\'', c, '\'']

/-- The number of a character in at least four digits of base sixteen. -/
def numbered (c : Char) : String :=
  let digits := (Nat.toDigits 16 c.toNat).map Char.toUpper
  "U+" ++ String.ofList (List.replicate (4 - digits.length) '0' ++ digits)

/-! ## Faults inside of texts -/

/-- A reason why an escape spells no character. -/
inductive EscapeFault where
  | truncated (form : String)
  | outOfRange
  | malformedName
  | unknownName
  deriving DecidableEq, Repr

def EscapeFault.message : EscapeFault → String
  | .truncated form => "truncated \\" ++ form ++ " escape"
  | .outOfRange => "illegal Unicode character"
  | .malformedName => "malformed \\N character escape"
  | .unknownName => "unknown Unicode character name"

/-- A reason why a field of a formatted text cannot be read. -/
inductive FieldFault where
  | lonelyBrace
  | unfinished
  | empty (next : Option Char)
  | tooDeep
  | tooNested
  | openText
  | unmatched (bracket : Char)
  | mismatch (opening closing : Char)
  | conversion
  deriving DecidableEq, Repr

def FieldFault.message : FieldFault → String
  | .lonelyBrace => "single '\x7d' is not allowed"
  | .unfinished => "expecting '\x7d'"
  | .empty none => "empty expression not allowed"
  | .empty (some next) => "expression required before " ++ quoted next
  | .tooDeep => "expressions nested too deeply"
  | .tooNested => "too many nested parenthesis"
  | .openText => "unterminated string"
  | .unmatched bracket => "unmatched " ++ quoted bracket
  | .mismatch opening closing =>
      "closing parenthesis " ++ quoted closing ++ " does not match opening parenthesis "
        ++ quoted opening
  | .conversion => "invalid conversion character: expected 's', 'r', or 'a'"

/-! ## Faults of the order -/

/-- A known way to order pieces so that they make no expression. -/
inductive Misuse where
  | order
  | comma
  | noElse
  | setting
  | starredGroup
  | unpackedGroup
  | starAlone
  | starredComprehension
  | unpackedComprehension
  | bareTargets
  | noColon
  | noValue
  | starredValue
  | unpackingAfterKeywords
  | bareGenerator
  | positionalAfterUnpacking
  | positionalAfterKeyword
  | settingArgument
  | noDefault
  | defaultOrder
  | parenthesizedParameters
  | nothingBeforeSlash
  | twoSlashes
  | slashAfterStar
  | noCommaBeforeStar
  | nothingAfterStar
  | restDefault
  | twoStars
  | restKeywordDefault
  | afterRestKeyword
  deriving DecidableEq, Repr

def Misuse.message : Misuse → String
  | .order => "invalid syntax"
  | .comma => "invalid syntax. Perhaps you forgot a comma?"
  | .noElse => "expected 'else' after 'if' expression"
  | .setting => "invalid syntax. Maybe you meant '==' or ':=' instead of '='?"
  | .starredGroup => "cannot use starred expression here"
  | .unpackedGroup => "cannot use double starred expression here"
  | .starAlone => "Invalid star expression"
  | .starredComprehension => "iterable unpacking cannot be used in comprehension"
  | .unpackedComprehension => "dict unpacking cannot be used in dict comprehension"
  | .bareTargets => "did you forget parentheses around the comprehension target?"
  | .noColon => "':' expected after dictionary key"
  | .noValue => "expression expected after dictionary key and ':'"
  | .starredValue => "cannot use a starred expression in a dictionary value"
  | .unpackingAfterKeywords => "iterable argument unpacking follows keyword argument unpacking"
  | .bareGenerator => "Generator expression must be parenthesized"
  | .positionalAfterUnpacking => "positional argument follows keyword argument unpacking"
  | .positionalAfterKeyword => "positional argument follows keyword argument"
  | .settingArgument => "expression cannot contain assignment, perhaps you meant \"==\"?"
  | .noDefault => "expected default value expression"
  | .defaultOrder => "non-default argument follows default argument"
  | .parenthesizedParameters => "Lambda expression parameters cannot be parenthesized"
  | .nothingBeforeSlash => "at least one argument must precede /"
  | .twoSlashes => "/ may appear only once"
  | .slashAfterStar => "/ must be ahead of *"
  | .noCommaBeforeStar => "expected comma between / and *"
  | .nothingAfterStar => "named arguments must follow bare *"
  | .restDefault => "var-positional argument cannot have default value"
  | .twoStars => "* argument may appear only once"
  | .restKeywordDefault => "var-keyword argument cannot have default value"
  | .afterRestKeyword => "arguments cannot follow var-keyword argument"

/-! ## All faults -/

/-- A reason why a text is no expression. -/
inductive Fault where
  /-- a null character, which no text may have -/
  | nullCharacter
  /-- a character that can be in no piece -/
  | character (c : Char)
  /-- a number of a kind that is not written as such -/
  | number (kind : String)
  /-- a digit that a number of a kind cannot have -/
  | digit (c : Char) (kind : String)
  /-- a decimal integer that starts with a zero -/
  | leadingZeros
  /-- a decimal integer with too many digits -/
  | tooLong (digits : Nat)
  /-- a text without its last quote; `line` is where it ends -/
  | openText (tripled : Bool) (line : Nat)
  /-- a backslash that does not end a line -/
  | backslash
  /-- a closing bracket for which none is open -/
  | unopened (closing : Char)
  /-- a closing bracket for another one than the last; `line` is where that is, if not on the same line -/
  | mismatch (opening closing : Char) (line : Option Nat)
  /-- more open brackets than are allowed -/
  | tooNested
  /-- a bracket that is not closed -/
  | unclosed (opening : Char)
  /-- a last line that should go on -/
  | unfinished
  /-- a line that starts further to the right than the first one -/
  | indented
  /-- a line that starts where no earlier one does -/
  | dedented
  /-- an escape that spells no character, and the first and last place of it -/
  | escape (f : EscapeFault) (first last : Nat)
  /-- an escape that spells no byte, at a place -/
  | byteEscape (place : Nat)
  /-- a character beyond ASCII where bytes are spelled -/
  | byteCharacter
  /-- bytes next to a text -/
  | mixedTexts
  /-- a field of a formatted text -/
  | field (f : FieldFault)
  /-- a backslash in a field of a formatted text -/
  | fieldBackslash
  /-- a comment in a field of a formatted text -/
  | fieldComment
  /-- a fault inside of a field -/
  | inField (f : Fault)
  /-- a misuse of pieces -/
  | misuse (m : Misuse)
  /-- a statement of old that lacks its parentheses -/
  | statement (name : String)
  /-- a value set to what is no name -/
  | settingTo (what : String)
  /-- a name given to a value, where the name is none -/
  | naming (what : String)
  /-- something that cannot take a value -/
  | target (what : String)
  deriving DecidableEq, Repr

def Fault.message : Fault → String
  | .nullCharacter => "source code string cannot contain null bytes"
  | .character c =>
      if Text.isPrintable c then "invalid character " ++ quoted c ++ " (" ++ numbered c ++ ")"
      else "invalid non-printable character " ++ numbered c
  | .number kind => "invalid " ++ kind ++ " literal"
  | .digit c kind => "invalid digit " ++ quoted c ++ " in " ++ kind ++ " literal"
  | .leadingZeros =>
      "leading zeros in decimal integer literals are not permitted; "
        ++ "use an 0o prefix for octal integers"
  | .tooLong digits =>
      Decimal.limitText (some digits) ++ " - Consider hexadecimal for huge integer literals "
        ++ "to avoid decimal conversion limits."
  | .openText tripled line =>
      "unterminated " ++ (if tripled then "triple-quoted " else "")
        ++ "string literal (detected at line " ++ toString line ++ ")"
  | .backslash => "unexpected character after line continuation character"
  | .unopened closing => "unmatched " ++ quoted closing
  | .mismatch opening closing line =>
      "closing parenthesis " ++ quoted closing ++ " does not match opening parenthesis "
        ++ quoted opening ++ (line.map (fun n => " on line " ++ toString n)).getD ""
  | .tooNested => "too many nested parentheses"
  | .unclosed opening => quoted opening ++ " was never closed"
  | .unfinished => "unexpected EOF while parsing"
  | .indented => "unexpected indent"
  | .dedented => "unindent does not match any outer indentation level"
  | .escape f first last =>
      "(unicode error) 'unicodeescape' codec can't decode bytes in position " ++ toString first ++ "-"
        ++ toString last ++ ": " ++ f.message
  | .byteEscape place => "(value error) invalid \\x escape at position " ++ toString place
  | .byteCharacter => "bytes can only contain ASCII literal characters"
  | .mixedTexts => "cannot mix bytes and nonbytes literals"
  | .field f => "f-string: " ++ f.message
  | .fieldBackslash => "f-string expression part cannot include a backslash"
  | .fieldComment => "f-string expression part cannot include '#'"
  | .inField f => "f-string: " ++ f.message
  | .misuse m => m.message
  | .statement name =>
      "Missing parentheses in call to '" ++ name ++ "'. Did you mean " ++ name ++ "(...)?"
  | .settingTo what => "cannot assign to " ++ what ++ " here. Maybe you meant '==' instead of '='?"
  | .naming what => "cannot use assignment expressions with " ++ what
  | .target what => "cannot assign to " ++ what

/-- How reading ends without an expression: a piece is at fault, at once or when it is asked for; pieces
are misused; a field is at fault; or the expression is too deep. -/
inductive Halt where
  | refused (f : Fault)
  | stopped (f : Fault)
  | misused (f : Fault)
  | fieldAtFault (f : Fault)
  | exhausted
  deriving DecidableEq, Repr

/-- The end of a formatted text whose field is at fault; only the innermost field is told of. -/
def Halt.outOfField : Halt → Halt
  | .refused f => .fieldAtFault f
  | .stopped f => .fieldAtFault (.inField f)
  | .misused f => .fieldAtFault (.inField f)
  | .fieldAtFault f => .fieldAtFault f
  | .exhausted => .exhausted

end Expression
end Killswitch
