import Scaffold.Edn.Inspect
import Scaffold.Number.Reading

/-!
# Why a text cannot be read

A refused text gives its cause, the position that the reader had reached, and the parts that were
open there with the positions at which they began. Positions count characters from the start of the
line, and lines from one.
-/

namespace Scaffold.Edn

/-- A position: characters taken from the current line, and the number of the line. -/
structure Position where
  row : Nat
  col : Nat
  deriving DecidableEq

/-- The kinds of parts that the reader can be inside. -/
inductive PartKind where
  | list
  | vector
  | map
  | set
  | string
  | atom
  deriving DecidableEq

/-- A part that was begun and not yet ended. -/
structure OpenPart where
  kind : PartKind
  start : Position
  deriving DecidableEq

/-- What is wrong with a text. -/
inductive Cause where
  | emptyInput
  | unexpectedCharacter (c : Char)
  | unexpectedEnd
  | stringEscape
  | characterSpecification
  | keyword
  | symbol
  | slashAtBeginning (ofKeyword : Bool)
  | slashAtEnd (ofKeyword : Bool)
  | moreThanOneSlash (ofKeyword : Bool)
  | colon (ofKeyword : Bool)
  | leadingZero
  | badInt (text : String) (fault : Number.IntFault)
  | badBigInt (text : String) (fault : Number.BigFault)
  | badFloat (text : String)
  | badBigDecimal (text : String) (fault : Number.BigDecimalFault)
  | oddMap
  | duplicateKey (value : Value)
  | duplicateItem (value : Value)
  | tag (value : Value)
  | namespacedMap (ns : String) (got : Value)
  | instant (fault : Option InstantFault)
  | uuid (fault : Option UuidFault)

/-- A refused text. The innermost open part comes first. -/
structure ReadError where
  openParts : List OpenPart
  at_ : Position
  cause : Cause

/-- What reads the first value of a text. -/
abbrev Parser := String → Except ReadError Value

/-- The name of a part in messages. -/
def PartKind.name : PartKind → String
  | .list => "ParsingList"
  | .vector => "ParsingVector"
  | .map => "ParsingMap"
  | .set => "ParsingSet"
  | .string => "ParsingString"
  | .atom => "ParsingAtom"

/-- The two coordinates of a position. -/
def Position.parts (p : Position) : List (String × String) :=
  [("row", Number.natText p.row), ("col", Number.natText p.col)]

/-- An open part with its position. -/
def OpenPart.text (p : OpenPart) : String := shownParts p.kind.name p.start.parts

/-- The two words for the kinds of names. -/
def nameKind (ofKeyword : Bool) : String := if ofKeyword then "Keyword" else "Symbol"

/-- The word for a fault of an integer. -/
def intFaultText : Number.IntFault → String
  | .empty => "Empty"
  | .invalidDigit => "InvalidDigit"
  | .positiveOverflow => "PosOverflow"
  | .negativeOverflow => "NegOverflow"

/-- A fault of an integer of fixed width. -/
def intFaultShown (fault : Number.IntFault) : String :=
  shownParts "ParseIntError" [("kind", intFaultText fault)]

/-- A fault of an integer of any size. -/
def bigFaultShown (fault : Number.BigFault) : String :=
  let kind := match fault with
    | .empty => "Empty"
    | .invalidDigit => "InvalidDigit"
  shownParts "ParseBigIntError" [("kind", kind)]

/-- A fault of a decimal of any size. -/
def bigDecimalFaultShown : Number.BigDecimalFault → String
  | .empty => "Empty"
  | .exponent fault => shown "ParseInt" (intFaultShown fault)
  | .digits fault => shown "ParseBigInt" (bigFaultShown fault)

/-- A fault of an instant. -/
def instantFaultShown (fault : InstantFault) : String :=
  let kind := match fault with
    | .tooShort => "TooShort"
    | .tooLong => "TooLong"
    | .invalid => "Invalid"
    | .outOfRange => "OutOfRange"
  shown "ParseError" kind

/-- A fault of a UUID. -/
def uuidFaultShown (fault : UuidFault) : String :=
  let exact (n : Nat) : String := shown "Exact" (Number.natText n)
  let held := match fault with
    | .length found =>
      shownParts "InvalidLength" [("expected", "Any([36, 32])"), ("found", Number.natText found)]
    | .groupCount found =>
      shownParts "InvalidGroupCount" [("expected", "Any([1, 5])"), ("found", Number.natText found)]
    | .groupLength expected found group =>
      shownParts "InvalidGroupLength" [("expected", exact expected),
        ("found", Number.natText found), ("group", Number.natText group)]
    | .character found index =>
      shownParts "InvalidCharacter" [("expected", Text.quoted "0123456789abcdefABCDEF-"),
        ("found", Text.quotedChar found), ("index", Number.natText index), ("urn", "Optional")]
  shown "Error" (shown "Parser" held)

/-- A fault that may be missing. -/
def optionShown {α : Type} (text : α → String) : Option α → String
  | none => "None"
  | some a => shown "Some" (text a)

/-- A number text and what is wrong with it. -/
def numberFaultShown (kind text fault : String) : String :=
  shownParts kind [("parsing", Text.quoted text), ("encountered", fault)]

/-- A cause in words. -/
def Cause.text : Cause → String
  | .emptyInput => "EmptyInput"
  | .unexpectedCharacter c => shown "UnexpectedCharacter" (Text.quotedChar c)
  | .unexpectedEnd => "UnexpectedEndOfInput"
  | .stringEscape => "InvalidStringEscape"
  | .characterSpecification => "InvalidCharacterSpecification"
  | .keyword => "InvalidKeyword"
  | .symbol => "InvalidSymbol"
  | .slashAtBeginning k => "CannotHaveSlashAtBeginningOf" ++ nameKind k
  | .slashAtEnd k => "CannotHaveSlashAtEndOf" ++ nameKind k
  | .moreThanOneSlash k => "CannotHaveMoreThanOneSlashIn" ++ nameKind k
  | .colon k => "CannotHaveColonIn" ++ nameKind k
  | .leadingZero => "OnlyZeroCanStartWithZero"
  | .badInt text fault => numberFaultShown "BadInt" text (intFaultShown fault)
  | .badBigInt text fault => numberFaultShown "BadBigInt" text (bigFaultShown fault)
  | .badFloat text => numberFaultShown "BadFloat" text (shownParts "ParseFloatError" [("kind", "Invalid")])
  | .badBigDecimal text fault => numberFaultShown "BadBigDec" text (bigDecimalFaultShown fault)
  | .oddMap => "OddNumberOfMapElements"
  | .duplicateKey value => shownParts "DuplicateKeyInMap" [("value", value.inspect)]
  | .duplicateItem value => shownParts "DuplicateValueInSet" [("value", value.inspect)]
  | .tag value => shownParts "InvalidElementForTag" [("value", value.inspect)]
  | .namespacedMap ns got =>
    shownParts "NamespacedMapTagNeedsMap"
      [("namespace", Text.quoted ns), ("got_instead_of_map", got.inspect)]
  | .instant fault => shown "InvalidInst" (optionShown instantFaultShown fault)
  | .uuid fault => shown "InvalidUuid" (optionShown uuidFaultShown fault)

/-- The message about a refused text: the open parts from the outermost on, the position, and the
cause. -/
def ReadError.text (e : ReadError) : String :=
  shownParts "ParserErrorWithContext"
    ([("context", bracketed (e.openParts.reverse.map OpenPart.text))] ++ e.at_.parts ++
      [("error", e.cause.text)])

end Scaffold.Edn
