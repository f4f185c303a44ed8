import BindingCoverage.Text.Utf8

/-!
# Errors of reading XML

Three kinds: a construct that is cut short (`SyntaxError`), markup that does not fit together
(`StructureError`), and values that cannot be decoded (`Utf8.Fault`, `EscapeError`). An
`AttributeError` is about the attributes of one tag and carries an offset in that tag.

A cause and the error it belongs to have messages of their own: chains of messages show both.
-/

namespace BindingCoverage.Xml

inductive SyntaxError where
  | invalidBang
  | unclosedInstruction
  | unclosedComment
  | unclosedDoctype
  | unclosedCData
  | unclosedTag
  deriving DecidableEq, Repr

def SyntaxError.message : SyntaxError → String
  | .invalidBang => "unknown or missed symbol in markup"
  | .unclosedInstruction =>
    "processing instruction or xml declaration not closed: `?>` not found before end of input"
  | .unclosedComment => "comment not closed: `-->` not found before end of input"
  | .unclosedDoctype => "DOCTYPE not closed: `>` not found before end of input"
  | .unclosedCData => "CDATA not closed: `]]>` not found before end of input"
  | .unclosedTag => "tag not closed: `>` not found before end of input"

/-- Names are shown as text; a name that is no UTF-8 is shown as the empty text. -/
inductive StructureError where
  | doctypeWithoutName
  | unmatchedEnd (name : String)
  | mismatchedEnd (expected found : String)
  deriving DecidableEq, Repr

def StructureError.message : StructureError → String
  | .doctypeWithoutName => "`<!DOCTYPE>` declaration does not contain a name of a document type"
  | .unmatchedEnd name => "close tag `</" ++ name ++ ">` does not match any open tag"
  | .mismatchedEnd expected found =>
    "expected `</" ++ expected ++ ">`, but `</" ++ found ++ ">` was found"

/-- Why a character reference stands for no character. -/
inductive ReferenceError where
  | signed
  | invalidDigit
  | empty
  | tooLarge
  | noCodePoint (code : Nat)
  | zero
  deriving DecidableEq, Repr

def ReferenceError.message : ReferenceError → String
  | .signed => "unexpected number sign"
  | .invalidDigit => "invalid digit found in string"
  | .empty => "cannot parse integer from empty string"
  | .tooLarge => "number too large to fit in target type"
  | .noCodePoint code => s!"`{code}` is not a valid codepoint"
  | .zero => "0x0 character is not permitted in XML"

/-- Ranges are in octets of the attribute value. -/
inductive EscapeError where
  | unknownEntity (start stop : Nat) (name : String)
  | unterminated (start stop : Nat)
  | reference (e : ReferenceError)
  deriving DecidableEq, Repr

def EscapeError.message : EscapeError → String
  | .unknownEntity start stop name => s!"at {start}..{stop}: unrecognized entity `{name}`"
  | .unterminated start stop =>
    s!"Error while escaping character at range {start}..{stop}: Cannot find ';' after '&'"
  | .reference e => "invalid character reference: " ++ e.message

inductive Error where
  /-- The source of the document failed. -/
  | source (text : String)
  | syntactic (e : SyntaxError)
  | structural (e : StructureError)
  | encoding (fault : Utf8.Fault)
  | escape (e : EscapeError)
  deriving DecidableEq, Repr

def Error.message : Error → String
  | .source text => "I/O error: " ++ text
  | .syntactic e => "syntax error: " ++ e.message
  | .structural e => "ill-formed document: " ++ e.message
  | .encoding fault => "cannot decode input using UTF-8: " ++ fault.message
  | .escape e => e.message

/-- The messages of the causes below the error of a reference. -/
def ReferenceError.causes : ReferenceError → List String
  | .signed | .noCodePoint _ | .zero => []
  | e => [e.message]

def EscapeError.causes : EscapeError → List String
  | .reference e => e.message :: e.causes
  | _ => []

/-- The messages of the causes below an error, outermost first. Text that cannot be decoded is a
cause with the same message as the error. -/
def Error.causes : Error → List String
  | .source text => [text]
  | .syntactic e => [e.message]
  | .structural e => [e.message]
  | .encoding fault => [(Error.encoding fault).message, fault.message]
  | .escape e => e.message :: e.causes

/-- Offsets count octets from the start of the tag's content. -/
inductive AttributeError where
  | expectedEq (offset : Nat)
  | expectedValue (offset : Nat)
  | unquotedValue (offset : Nat)
  | expectedQuote (offset : Nat) (quote : UInt8)
  | duplicated (offset previous : Nat)
  deriving DecidableEq, Repr

def AttributeError.message : AttributeError → String
  | .expectedEq offset =>
    s!"position {offset}: attribute key must be directly followed by `=` or space"
  | .expectedValue offset => s!"position {offset}: `=` must be followed by an attribute value"
  | .unquotedValue offset =>
    s!"position {offset}: attribute value must be enclosed in `\"` or `'`"
  | .expectedQuote offset quote =>
    s!"position {offset}: missing closing quote `{Char.ofNat quote.toNat}` in attribute value"
  | .duplicated offset previous =>
    s!"position {offset}: duplicated attribute, previous declaration at position {previous}"

end BindingCoverage.Xml
