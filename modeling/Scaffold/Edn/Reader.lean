import Scaffold.Edn.Atom
import Scaffold.Edn.Order
import Scaffold.Text.Blank

/-!
# Reading values

`Value.read` reads the first value of a text and ignores what follows it. The reader goes over the
characters once. Before each of its steps outside of strings it skips one comment, so a comment may
stand even inside an atom, and of two comments in a row the second belongs to the next value.

The reader recurses into collections. `Value.read` hands it as many steps as a text of that length
can ask for: at most two are spent on a character, and a third is left to look at it.
-/

namespace Scaffold.Edn

/-- What is left of the text, where it begins, and the parts that are open there. -/
structure Cursor where
  rest : List Char
  position : Position
  openParts : List OpenPart

/-- A reader of a part of the text. -/
abbrev Reader (α : Type) := StateT Cursor (Except ReadError) α

/-- The position behind a character. -/
def Position.after (p : Position) (c : Char) : Position :=
  if c = '\n' then ⟨0, p.col + 1⟩ else ⟨p.row + 1, p.col⟩

/-- Refuses the text at the current position. -/
def refuse {α : Type} (cause : Cause) : Reader α := fun cur =>
  .error ⟨cur.openParts, cur.position, cause⟩

/-- The next character, which stays. -/
def peek : Reader (Option Char) := fun cur => .ok (cur.rest.head?, cur)

/-- Takes the next character. -/
def take : Reader (Option Char) := fun cur =>
  match cur.rest with
  | [] => .ok (none, cur)
  | c :: rest => .ok (some c, { cur with rest := rest, position := cur.position.after c })

/-- Drops characters without counting them. -/
def dropUncounted (n : Nat) : Reader Unit := fun cur => .ok ((), { cur with rest := cur.rest.drop n })

/-- Drops everything up to the end of the line, and the end of the line. -/
def dropLine : Position → List Char → Position × List Char
  | p, [] => (p, [])
  | p, c :: rest => if c = '\n' then (p.after c, rest) else dropLine (p.after c) rest

/-- Skips one comment, if one begins here. -/
def skipComment : Reader Unit := fun cur =>
  if cur.rest.head? = some ';' then
    let (position, rest) := dropLine cur.position cur.rest
    .ok ((), { cur with rest := rest, position := position })
  else .ok ((), cur)

/-- Whether a character only separates values. -/
def isSeparator (c : Char) : Bool := Text.isBlank c || c = ','

/-- Goes to the first character of a value. The semicolon of a comment right behind another comment
is counted once when it is met and once more when it is skipped. -/
def seek : Nat → Reader Unit
  | 0 => pure ()
  | steps + 1 => do
    skipComment
    match ← peek with
    | none => pure ()
    | some c =>
      if isSeparator c then
        let _ ← take
        seek steps
      else if c = ';' then
        modify fun cur => { cur with position := cur.position.after c }
        seek steps
      else pure ()

/-- Runs a reader inside a part that begins here. -/
def within {α : Type} (kind : PartKind) (body : Reader α) : Reader α := do
  modify fun cur => { cur with openParts := ⟨kind, cur.position⟩ :: cur.openParts }
  let a ← body
  modify fun cur => { cur with openParts := cur.openParts.drop 1 }
  return a

/-- The remaining characters of an atom. -/
def atomRest : Nat → Reader (List Char)
  | 0 => pure []
  | steps + 1 => do
    skipComment
    match ← peek with
    | none => pure []
    | some c =>
      if isAtomChar c then
        let _ ← take
        return c :: (← atomRest steps)
      else pure []

/-- An atom whose first character is taken. -/
def atom (steps : Nat) (first : Char) : Reader Value :=
  within .atom do
    match Value.ofAtom (first :: (← atomRest steps)) with
    | .ok v => pure v
    | .error cause => refuse cause

/-- The character with a hexadecimal number of four places. -/
def charOfHex? (digits : List Char) : Option Char :=
  match Number.readNat 16 (twoTo 32 - 1) digits with
  | .ok n => if h : n.isValidChar then some (Char.ofNatAux n h) else none
  | .error _ => none

/-- Takes up to `n` characters. -/
def takeUpTo : Nat → Reader (List Char)
  | 0 => pure []
  | n + 1 => do
    match ← take with
    | none => pure []
    | some c => return c :: (← takeUpTo n)

/-- One escape of a string, behind its backslash. -/
def stringEscape : Reader Char := do
  match ← take with
  | some 't' => pure '\t'
  | some 'r' => pure '\r'
  | some 'n' => pure '\n'
  | some '\\' => pure '\\'
  | some '"' => pure '"'
  | some 'u' =>
    let digits ← takeUpTo 4
    if digits.length < 4 then refuse .stringEscape
    else
      match charOfHex? digits with
      | some c => pure c
      | none => refuse .stringEscape
  | _ => refuse .stringEscape

/-- The characters of a string up to its closing quote. -/
def stringRest : Nat → Reader (List Char)
  | 0 => refuse .unexpectedEnd
  | steps + 1 => do
    match ← take with
    | none => refuse .unexpectedEnd
    | some '"' => pure []
    | some '\\' =>
      let c ← stringEscape
      return c :: (← stringRest steps)
    | some c => return c :: (← stringRest steps)

/-- The characters that cover the first `bytes` bytes of a text. -/
def takeBytes : (bytes : Nat) → List Char → List Char
  | _, [] => []
  | bytes, c :: rest => if bytes = 0 then [] else c :: takeBytes (bytes - c.utf8Size) rest

/-- A character behind its backslash. Four have a name, one more form gives its number, and anything
else stands for itself unless an atom character follows it. -/
def character : Reader Value := do
  skipComment
  let window := (← get).rest.take 7
  let named (name : String) : Bool := name.toList.isPrefixOf window
  if named "newline" then
    dropUncounted 7
    return .char '\n'
  else if named "return" then
    dropUncounted 6
    return .char '\r'
  else if named "space" then
    dropUncounted 5
    return .char ' '
  else if named "tab" then
    dropUncounted 3
    return .char '\t'
  else if named "u" && (String.ofList window).utf8ByteSize ≥ 5 then
    let digits := takeBytes 4 (window.drop 1)
    match charOfHex? digits with
    | some c =>
      dropUncounted 5
      return .char c
    | none => refuse .characterSpecification
  else
    match window with
    | [] => refuse .characterSpecification
    | c :: rest =>
      if rest.head?.any isAtomChar then refuse .characterSpecification
      else
        dropUncounted 1
        return .char c

/-- Pairs up the members of a map and orders them by key. The first repeated key is a fault, and so
is a key without a value. -/
def entriesOf (items : List Value) : Except Cause (List (Value × Value)) :=
  if items.length % 2 = 1 then .error .oddMap else go [] items
where
  /-- Adds the pairs to entries already found. -/
  go (entries : List (Value × Value)) : List Value → Except Cause (List (Value × Value))
    | k :: v :: rest =>
      if entries.any fun (l, _) => k.same l then .error (.duplicateKey k)
      else go (insertEntry k v entries) rest
    | _ => .ok (keepLast (fun a b => a.1.equal b.1) entries)

/-- Orders the members of a set. The first repeated one is a fault. -/
def membersOf (items : List Value) : Except Cause (List Value) :=
  go [] items
where
  /-- Adds the members to those already found. -/
  go (members : List Value) : List Value → Except Cause (List Value)
    | [] => .ok (keepLast Value.equal members)
    | v :: rest =>
      if members.any v.same then .error (.duplicateItem v) else go (insertItem v members) rest

/-- A value under a tag. Two tags have a meaning of their own. -/
def Value.ofTagged (tag : Ident) (value : Value) : Except Cause Value :=
  if tag = .plain "inst" then
    match value with
    | .str s =>
      match Instant.read s with
      | .ok t => .ok (.instant t)
      | .error fault => .error (.instant (some fault))
    | _ => .error (.instant none)
  else if tag = .plain "uuid" then
    match value with
    | .str s =>
      match Uuid.read s with
      | .ok n => .ok (.uuid n)
      | .error fault => .error (.uuid (some fault))
    | _ => .error (.uuid none)
  else .ok (.tagged tag value)

/-- Gives a namespace to the keywords without one among the keys. -/
def qualifyKeys (ns : String) (entries : List (Value × Value)) : List (Value × Value) :=
  entries.foldl (fun acc (k, v) =>
    match k with
    | .keyword ⟨none, name⟩ => insertEntry (.keyword ⟨some ns, name⟩) v acc
    | _ => insertEntry k v acc) []

/-- Carries a fault over to the reader. -/
def orRefuse {α : Type} : Except Cause α → Reader α
  | .ok a => pure a
  | .error cause => refuse cause

mutual

/-- One value. -/
def form : Nat → Reader Value
  | 0 => refuse .unexpectedEnd
  | steps + 1 => do
    seek steps
    match ← take with
    | none => refuse .emptyInput
    | some '(' =>
      within .list do
        let items ← members ')' steps
        let _ ← take
        return .list items
    | some '[' =>
      within .vector do
        let items ← members ']' steps
        let _ ← take
        return .vector items
    | some '\x7b' =>
      within .map do
        let entries ← orRefuse (entriesOf (← members '\x7d' steps))
        let _ ← take
        return .map entries
    | some '"' =>
      within .string do
        return .str (String.ofList (← stringRest steps))
    | some '\\' => character
    | some '#' => dispatch steps
    | some c =>
      if isAtomChar c then atom steps c
      else refuse (.unexpectedCharacter c)

/-- The values of a collection up to its closing bracket, which stays. -/
def members (close : Char) : Nat → Reader (List Value)
  | 0 => refuse .unexpectedEnd
  | steps + 1 => do
    skipComment
    match ← peek with
    | none => refuse .unexpectedEnd
    | some c =>
      if isSeparator c then
        let _ ← take
        members close steps
      else if c = close then pure []
      else
        let v ← form steps
        return v :: (← members close steps)

/-- What follows a hash sign: a discarded value, a set, a map with a namespace, or a tag. -/
def dispatch : Nat → Reader Value
  | 0 => refuse .unexpectedEnd
  | steps + 1 => do
    skipComment
    match ← peek with
    | none => refuse .unexpectedEnd
    | some '_' =>
      let _ ← take
      let _ ← form steps
      form steps
    | some '\x7b' =>
      let _ ← take
      within .set do
        let items ← orRefuse (membersOf (← members '\x7d' steps))
        let _ ← take
        return .set items
    | some _ =>
      match ← form steps with
      | .symbol tag => orRefuse (Value.ofTagged tag (← form steps))
      | .keyword ⟨none, ns⟩ =>
        match ← form steps with
        | .map entries => return .map (qualifyKeys ns entries)
        | _ => refuse (.namespacedMap ns (.keyword ⟨none, ns⟩))
      | other => refuse (.tag other)

end

/-- Reads the first value of a text. -/
def Value.read (s : String) : Except ReadError Value :=
  let cs := s.toList
  (form (3 * cs.length + 4)).run ⟨cs, ⟨0, 1⟩, []⟩ |>.map Prod.fst

end Scaffold.Edn
