import Scaffold.Number.Reading
import Scaffold.Template.Token
import Scaffold.Text.Blank

/-!
# From source to tokens

Outside of inserts everything up to the next opening marker is one text. A minus sign next to a
marker trims the blanks of the text on that side. Comments vanish, and a raw section is text as it
stands. Inside of an insert the closing marker counts only while no bracket is open.

`scanFrom` reads a source from left to right, alternating between the two modes; each call takes at
least one character or changes the mode, so twice the length of the source bounds their number.
-/

namespace Scaffold.Template

/-! ## Outside of inserts -/

/-- What an opening marker opens. -/
inductive Marker where
  | print
  | tag
  | comment
  deriving DecidableEq

/-- The marker that a text begins with, and what follows it. -/
def marker? : List Char → Option (Marker × List Char)
  | '\x7b' :: '\x7b' :: rest => some (.print, rest)
  | '\x7b' :: '%' :: rest => some (.tag, rest)
  | '\x7b' :: '#' :: rest => some (.comment, rest)
  | _ => none

/-- The text in front of the first marker, and the marker with what follows it. -/
def cutAtMarker : List Char → List Char × Option (Marker × List Char)
  | [] => ([], none)
  | c :: rest =>
    match marker? (c :: rest) with
    | some found => ([], some found)
    | none =>
      let (lead, found) := cutAtMarker rest
      (c :: lead, found)

/-- The sign next to a marker: whether it asks for trimming, and what follows it. -/
def trimSign : List Char → Bool × List Char
  | '-' :: rest => (true, rest)
  | '+' :: rest => (false, rest)
  | cs => (false, cs)

/-- The inside of a comment and what follows it. -/
def cutAtCommentEnd : List Char → Option (List Char × List Char)
  | [] => none
  | '#' :: '\x7d' :: rest => some ([], rest)
  | c :: rest => (cutAtCommentEnd rest).map fun (inner, tail) => (c :: inner, tail)

/-- Blanks that may stand between the tokens of an insert. -/
def isGap (c : Char) : Bool := c = ' ' || c = '\t' || c = '\n' || c = '\r' || c = '\x0c'

/-- Drops a word from the beginning of a text. -/
def dropWord? : List Char → List Char → Option (List Char)
  | [], cs => some cs
  | w :: word, c :: cs => if w = c then dropWord? word cs else none
  | _ :: _, [] => none

/-- A tag that holds only the given word, behind its opening marker: whether it trims what follows,
and what follows. -/
def bareTag? (word : List Char) (cs : List Char) : Option (Bool × List Char) := do
  let rest ← dropWord? word (cs.dropWhile isGap)
  let (trims, rest) := trimSign (rest.dropWhile isGap)
  match rest with
  | '%' :: '\x7d' :: rest => return (trims, rest)
  | _ => none

/-- A raw section behind its opening tag. -/
structure RawSection where
  body : List Char
  trimsEnd : Bool
  trimsNext : Bool
  rest : List Char

/-- The raw section up to its closing tag. -/
def rawSection? : List Char → Option RawSection
  | [] => none
  | c :: rest =>
    let closing : Option RawSection := match c :: rest with
      | '\x7b' :: '%' :: inner =>
        let (trims, tail) := trimSign inner
        (bareTag? "endraw".toList tail).map fun (next, after) => ⟨[], trims, next, after⟩
      | _ => none
    match closing with
    | some found => some found
    | none => (rawSection? rest).map fun s => { s with body := c :: s.body }

/-- The text of a raw section. -/
def RawSection.text (s : RawSection) (trimsStart : Bool) : List Char :=
  let body := if trimsStart then s.body.dropWhile Text.isBlank else s.body
  if s.trimsEnd then Text.dropEndWhile Text.isBlank body else body

/-! ## Inside of inserts -/

/-- The two kinds of inserts. -/
inductive Insert where
  | print
  | tag
  deriving DecidableEq

/-- The token that closes an insert. -/
def Insert.closeToken : Insert → Token
  | .print => .closePrint
  | .tag => .closeTag

/-- The closing marker that a text begins with: whether it trims what follows, and what follows. -/
def Insert.close? : Insert → List Char → Option (Bool × List Char)
  | .print, '-' :: '\x7d' :: '\x7d' :: rest => some (true, rest)
  | .print, '\x7d' :: '\x7d' :: rest => some (false, rest)
  | .tag, '-' :: '%' :: '\x7d' :: rest => some (true, rest)
  | .tag, '+' :: '%' :: '\x7d' :: rest => some (false, rest)
  | .tag, '%' :: '\x7d' :: rest => some (false, rest)
  | _, _ => none

/-- The operator or punctuation that a text begins with. -/
def sign? : List Char → Option (Sign × List Char)
  | '/' :: '/' :: rest => some (.floorDivide, rest)
  | '*' :: '*' :: rest => some (.power, rest)
  | '=' :: '=' :: rest => some (.eq, rest)
  | '!' :: '=' :: rest => some (.ne, rest)
  | '>' :: '=' :: rest => some (.ge, rest)
  | '<' :: '=' :: rest => some (.le, rest)
  | '+' :: rest => some (.plus, rest)
  | '-' :: rest => some (.minus, rest)
  | '*' :: rest => some (.times, rest)
  | '/' :: rest => some (.divide, rest)
  | '%' :: rest => some (.percent, rest)
  | '!' :: rest => some (.bang, rest)
  | '.' :: rest => some (.dot, rest)
  | ',' :: rest => some (.comma, rest)
  | ':' :: rest => some (.colon, rest)
  | '~' :: rest => some (.tilde, rest)
  | '|' :: rest => some (.bar, rest)
  | '=' :: rest => some (.assign, rest)
  | '>' :: rest => some (.gt, rest)
  | '<' :: rest => some (.lt, rest)
  | '(' :: rest => some (.openParen, rest)
  | ')' :: rest => some (.closeParen, rest)
  | '[' :: rest => some (.openBracket, rest)
  | ']' :: rest => some (.closeBracket, rest)
  | '\x7b' :: rest => some (.openBrace, rest)
  | '\x7d' :: rest => some (.closeBrace, rest)
  | _ => none

/-- How a sign changes the number of open brackets. -/
def Sign.opens : Sign → Int
  | .openParen | .openBracket | .openBrace => 1
  | .closeParen | .closeBracket | .closeBrace => -1
  | _ => 0

/-- Whether a name may begin with the character. -/
def isNameStart (c : Char) : Bool := c.isAlpha || c = '_'

/-- Whether a name may go on with the character. -/
def isNamePart (c : Char) : Bool := c.isAlphanum || c = '_'

/-! ### Strings -/

/-- The body of a string up to its closing quote, escapes included, and what follows. -/
def cutAtQuote (quote : Char) : List Char → Option (List Char × List Char)
  | [] => none
  | '\\' :: c :: rest =>
    (cutAtQuote quote rest).map fun (body, tail) => ('\\' :: c :: body, tail)
  | c :: rest =>
    if c = quote then some ([], rest)
    else (cutAtQuote quote rest).map fun (body, tail) => (c :: body, tail)

/-- The value of hexadecimal digits that fits below a limit. -/
def hexValue? (limit : Nat) (cs : List Char) : Option Nat :=
  (Number.readNat 16 limit cs).toOption

/-- Whether a code unit is one half of a pair. -/
def isHalf (n : Nat) : Bool := 0xD800 ≤ n && n ≤ 0xDFFF

/-- The character of two halves, the high one first. -/
def joinHalves? (high low : Nat) : Option Char :=
  if high < 0xDC00 && 0xDC00 ≤ low then
    some (Char.ofNat (0x10000 + (high - 0xD800) * 0x400 + (low - 0xDC00)))
  else none

/-- What the body of a string stands for; nothing if an escape is bad. The half of a pair has to be
followed by the other half at once. -/
def unescape? (cs : List Char) : Option (List Char) :=
  match cs with
  | [] => some []
  | '\\' :: 'u' :: a :: b :: c :: d :: rest => do
    let n ← hexValue? 0xFFFF [a, b, c, d]
    if isHalf n then
      match rest with
      | '\\' :: 'u' :: e :: f :: g :: h :: rest =>
        let m ← hexValue? 0xFFFF [e, f, g, h]
        if isHalf m then return (← joinHalves? n m) :: (← unescape? rest) else none
      | _ => none
    else return Char.ofNat n :: (← unescape? rest)
  | '\\' :: 'x' :: a :: b :: rest => do
    let n ← hexValue? 0xFF [a, b]
    return Char.ofNat n :: (← unescape? rest)
  | '\\' :: c :: rest =>
    match simple? c with
    | some plain => (unescape? rest).map (plain :: ·)
    | none =>
      match Number.digitIn? 8 c with
      | none => none
      | some n =>
        match rest with
        | [] => some [Char.ofNat n]
        | d :: rest =>
          match Number.digitIn? 8 d with
          | none => (unescape? (d :: rest)).map (Char.ofNat n :: ·)
          | some m =>
            match rest with
            | [] => some [Char.ofNat (8 * n + m)]
            | e :: rest =>
              match Number.digitIn? 8 e with
              | none => (unescape? (e :: rest)).map (Char.ofNat (8 * n + m) :: ·)
              | some k =>
                let value := 64 * n + 8 * m + k
                if value > 255 then none else (unescape? rest).map (Char.ofNat value :: ·)
  | ['\\'] => none
  | c :: rest => (unescape? rest).map (c :: ·)
termination_by cs.length
where
  /-- The escapes of one letter. -/
  simple? : Char → Option Char
    | '"' => some '"'
    | '\\' => some '\\'
    | '/' => some '/'
    | '\'' => some '\''
    | 'b' => some '\x08'
    | 'f' => some '\x0c'
    | 'n' => some '\n'
    | 'r' => some '\r'
    | 't' => some '\t'
    | _ => none

/-! ### Numbers -/

/-- How far the text of a number has come. -/
inductive NumberStage where
  | whole
  | fraction
  | exponent
  | exponentDigits
  deriving DecidableEq

/-- The stage behind a further character; nothing if the number ends in front of it. -/
def NumberStage.next? : NumberStage → Char → Option NumberStage
  | .whole, '.' => some .fraction
  | .whole, 'e' | .whole, 'E' | .fraction, 'e' | .fraction, 'E' => some .exponent
  | .exponent, '+' | .exponent, '-' => some .exponentDigits
  | stage, c =>
    if c.isDigit then some (if stage = .exponent then .exponentDigits else stage)
    else if c = '_' then some stage
    else none

/-- The characters of a decimal number, its last stage, and what follows. -/
def cutNumber (stage : NumberStage) : List Char → List Char × NumberStage × List Char
  | [] => ([], stage, [])
  | c :: rest =>
    match stage.next? c with
    | none => ([], stage, c :: rest)
    | some stage =>
      let (body, last, tail) := cutNumber stage rest
      (c :: body, last, tail)

/-- The base that a number announces, and its digits. -/
def radix : List Char → Nat × List Char
  | '0' :: 'b' :: rest | '0' :: 'B' :: rest => (2, rest)
  | '0' :: 'o' :: rest | '0' :: 'O' :: rest => (8, rest)
  | '0' :: 'x' :: rest | '0' :: 'X' :: rest => (16, rest)
  | cs => (10, cs)

/-- A number and what follows it; nothing if it is malformed. Underscores may stand anywhere but at
the end. An integer has to fit in 128 bits. -/
def number? (cs : List Char) : Option (Token × List Char) :=
  let (base, digits) := radix cs
  let (body, isFloat, rest) :=
    if base = 10 then
      let (body, last, rest) := cutNumber .whole digits
      (body, last ≠ .whole, rest)
    else
      let (body, rest) := digits.span fun c => (Number.digitIn? base c).isSome || c = '_'
      (body, false, rest)
  let plain := body.filter (· ≠ '_')
  if body.getLast? = some '_' then none
  else if isFloat then (Number.readDouble? plain).map fun x => (.float x, rest)
  else (Number.readNat base (twoTo 128 - 1) plain).toOption.map fun n => (.int n, rest)

/-! ### Any token -/

/-- The token that a text begins with, and what follows it. -/
def token? (cs : List Char) : Except FaultKind (Token × List Char) :=
  match sign? cs with
  | some (s, rest) => .ok (.sign s, rest)
  | none =>
    match cs with
    | [] => .error .badSyntax
    | c :: rest =>
      if c = '"' || c = '\'' then
        match cutAtQuote c rest with
        | none => .error .badSyntax
        | some (body, rest) =>
          match unescape? body with
          | none => .error .badEscape
          | some text => .ok (.str (String.ofList text), rest)
      else if c.isDigit then
        match number? cs with
        | none => .error .badSyntax
        | some found => .ok found
      else if isNameStart c then
        .ok (.name (String.ofList (cs.takeWhile isNamePart)), cs.dropWhile isNamePart)
      else .error .badSyntax

/-! ## The source -/

/-- Where the scanner is: outside of inserts, perhaps trimming, or inside one, with so many brackets
open. -/
inductive Mode where
  | outside (trimming : Bool)
  | inside (kind : Insert) (brackets : Int)

/-- The number of line ends in a text. -/
def lineEnds (cs : List Char) : Nat := cs.count '\n'

/-- Puts a text in front of tokens unless it is empty. -/
def Lexemes.consText (cs : List Char) (line : Nat) (rest : Lexemes) : Lexemes :=
  if cs.isEmpty then rest else rest.cons (.text (String.ofList cs)) line

/-- The tokens from a position on. -/
def scanFrom : Nat → Mode → Nat → List Char → Lexemes
  | 0, _, _, _ => .done
  | steps + 1, .outside trimming, line, source =>
    let cs := if trimming then source.dropWhile Text.isBlank else source
    let line := line + (lineEnds source - lineEnds cs)
    match cutAtMarker cs with
    | (lead, none) => Lexemes.done.consText lead line
    | (lead, some (marker, behind)) =>
      let (trims, rest) := trimSign behind
      let start := line + lineEnds lead
      let kept := if trims then Text.dropEndWhile Text.isBlank lead else lead
      let after : Lexemes := match marker with
        | .print => (scanFrom steps (.inside .print 0) start rest).cons .openPrint start
        | .comment =>
          match cutAtCommentEnd rest with
          | none => .stop .badSyntax (start + lineEnds rest)
          | some (inner, tail) =>
            scanFrom steps (.outside (inner.getLast? = some '-')) (start + lineEnds inner) tail
        | .tag =>
          match bareTag? "raw".toList rest with
          | none => (scanFrom steps (.inside .tag 0) start rest).cons .openTag start
          | some (trimsStart, body) =>
            let line := start + (lineEnds rest - lineEnds body)
            match rawSection? body with
            | none => .stop .badSyntax line
            | some found =>
              (scanFrom steps (.outside found.trimsNext)
                (line + (lineEnds body - lineEnds found.rest)) found.rest).cons
                (.text (String.ofList (found.text trimsStart))) line
      after.consText kept line
  | steps + 1, .inside kind brackets, line, source =>
    let cs := source.dropWhile isGap
    let line := line + (lineEnds source - lineEnds cs)
    if cs.isEmpty then .done
    else
      match if brackets = 0 then kind.close? cs else none with
      | some (trims, rest) => (scanFrom steps (.outside trims) line rest).cons kind.closeToken line
      | none =>
        match token? cs with
        | .error .badEscape => .stop .badEscape none
        | .error kind => .stop kind line
        | .ok (token, rest) =>
          let brackets := match token with
            | .sign s => brackets + s.opens
            | _ => brackets
          (scanFrom steps (.inside kind brackets) (line + (lineEnds cs - lineEnds rest)) rest).cons
            token line

/-- The tokens of a source. -/
def scan (source : List Char) : Lexemes := scanFrom (2 * source.length + 2) (.outside false) 1 source

end Scaffold.Template
