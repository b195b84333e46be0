import Scaffold.Template.Filter.Number
import Scaffold.Text.Case

/-!
# Filters of rows and dictionaries
-/

namespace Scaffold.Template.Filter

/-- The items that a loop over the value runs through. -/
def itemsOf (v : Value) : Except FaultKind (List Value) :=
  match v.iterate? with
  | some items => .ok items
  | none => .error .invalidOperation

/-! ## Order -/

/-- The letters of the basic alphabet in lower case. -/
def plainLower (s : String) : String := String.ofList (s.toList.map Char.toLower)

/-- The order of two values; texts are compared without regard to case unless it matters. -/
def caseCmp (caseMatters : Bool) (a b : Value) : Ordering :=
  match caseMatters, a, b with
  | false, .str s _, .str t _ => compare (plainLower s) (plainLower t)
  | _, a, b => a.cmp b

/-- Sorts, leaving values in their order between which nothing decides. -/
def sortWith {α : Type} (cmp : α → α → Ordering) (items : List α) : List α :=
  items.mergeSort fun a b => (cmp a b).isLE

/-- The order of the values at the end of a path; nothing decides if one of them has none. -/
def cmpAtPath (caseMatters : Bool) (path : String) (a b : Value) : Ordering :=
  match a.path path, b.path path with
  | .ok x, .ok y => caseCmp caseMatters x y
  | _, _ => .eq

/-- Sorts the items of a row, perhaps by the value at the end of a path. -/
def sort : Action := fun v => do
  let items ← lift (itemsOf v)
  let caseMatters ← Take.namedFlag "case_sensitive"
  let sorted ← match ← Take.named "attribute" Take.asText with
    | some path => pure (sortWith (cmpAtPath caseMatters path) items)
    | none => pure (sortWith (caseCmp caseMatters) items)
  return .ofItems (if ← Take.namedFlag "reverse" then sorted.reverse else sorted)

/-- The entries of a dictionary. -/
def entriesOf (v : Value) : Except FaultKind (List (Value × Value)) :=
  match v with
  | .dict entries => .ok entries
  | _ => .error .invalidOperation

/-- Entries as a row of pairs. -/
def pairs (entries : List (Value × Value)) : Value :=
  .ofItems (entries.map fun (k, v) => .ofItems [k, v])

/-- The entries of a dictionary sorted by key or by value. -/
def sortEntries : Action := fun v => do
  let entries ← lift (entriesOf v)
  let byValue ← match ← Take.named "by" Take.asText with
    | none | some "key" => pure false
    | some "value" => pure true
    | some _ => throw .invalidOperation
  let caseMatters ← Take.namedFlag "case_sensitive"
  let pick (e : Value × Value) : Value := if byValue then e.2 else e.1
  let sorted := sortWith (fun a b => caseCmp caseMatters (pick a) (pick b)) entries
  return pairs (if ← Take.namedFlag "reverse" then sorted.reverse else sorted)

/-- The first of the least items. -/
def least : List Value → Value
  | [] => .undefined
  | x :: rest => rest.foldl (fun m y => if (y.cmp m).isLT then y else m) x

/-- The last of the greatest items. -/
def greatest : List Value → Value
  | [] => .undefined
  | x :: rest => rest.foldl (fun m y => if (y.cmp m).isGE then y else m) x

/-! ## Selection of items -/

/-- The first character, item or key. -/
def first (v : Value) : Except FaultKind Value :=
  match v with
  | .str s _ => .ok ((s.toList.head?.map fun c => .text c.toString).getD .undefined)
  | v =>
    match v.items? with
    | some items => .ok (items.head?.getD .undefined)
    | none => .error .invalidOperation

/-- The last character or item. -/
def last (v : Value) : Except FaultKind Value :=
  match v with
  | .str s _ => .ok ((s.toList.getLast?.map fun c => .text c.toString).getD .undefined)
  | .list items _ => .ok (items.getLast?.getD .undefined)
  | .stream items _ => .ok (items.getLast?.getD .undefined)
  | _ => .error .invalidOperation

/-- Keeps each item whose key has not occurred before. -/
def keepFirst (key : Value → Value) : List Value → List Value → List Value
  | _, [] => []
  | seen, x :: rest =>
    let k := key x
    if seen.any fun s => (s.cmp k).isEq then keepFirst key seen rest
    else x :: keepFirst key (k :: seen) rest

/-- The items without repetitions. -/
def unique : Action := fun v => do
  let path ← Take.named "attribute" Take.asText
  let caseMatters ← Take.namedFlag "case_sensitive"
  let items ← lift (itemsOf v)
  let key (x : Value) : Value :=
    let found := match path with
      | some p => x.pathOr p .undefined
      | none => x
    match caseMatters, found with
    | false, .str s _ => .text (Text.lower s)
    | _, found => found
  return .ofItems (keepFirst key [] items)

/-! ## Groups -/

/-- Puts neighbours together; the group takes the key of its last member. -/
def groupNeighbours (cmp : Value → Value → Ordering) : List (Value × Value) →
    List (Value × List Value)
  | [] => []
  | (k, x) :: rest =>
    match groupNeighbours cmp rest with
    | (l, ys) :: groups =>
      match rest with
      | (next, _) :: _ =>
        if cmp k next = .eq then (l, x :: ys) :: groups else (k, [x]) :: (l, ys) :: groups
      | [] => (k, [x]) :: (l, ys) :: groups
    | [] => [(k, [x])]

/-- The items in groups with one value at the end of a path, ordered by that value. -/
def groupBy : Action := fun v => do
  let given ← Take.optional Take.asText
  let default := (← Take.named "default" Take.asValue).getD .undefined
  let caseMatters ← Take.namedFlag "case_sensitive"
  let path ← match given with
    | some p => pure p
    | none =>
      match ← Take.named "attribute" Take.asText with
      | some p => pure p
      | none => throw .missingArgument
  let items ← lift (itemsOf v)
  let keyed := items.map fun x => (x.pathOr path default, x)
  let sorted := sortWith (fun a b => caseCmp caseMatters a.1 b.1) keyed
  let groups := groupNeighbours (caseCmp caseMatters) sorted
  return .ofItems (groups.map fun (k, xs) => .list [k, .stream xs true] ["grouper", "list"])

/-- Rows of so many items, the last one perhaps filled up. -/
def batches (count : Nat) (fill : Option Value) : Nat → List Value → List Value
  | 0, _ => []
  | _ + 1, [] => []
  | fuel + 1, x :: rest =>
    let row := (x :: rest).take count
    let filler := match fill with
      | some f => List.replicate (count - row.length) f
      | none => []
    .ofItems (row ++ filler) :: batches count fill fuel ((x :: rest).drop count)

/-- The items in so many rows of nearly equal length; the shorter ones come last and may be filled
up. -/
def slices (count : Nat) (fill : Option Value) (items : List Value) : List Value :=
  let size := items.length / count
  let longer := items.length % count
  (List.range count).map fun i =>
    let start := i * size + min i longer
    let row := (items.drop start).take (size + if i < longer then 1 else 0)
    match fill with
    | some f => .ofItems (if i < longer then row else row ++ [f])
    | none => .ofItems row

/-- The items in rows. -/
def rows (cut : Nat → Option Value → List Value → List Value) : Action := fun v => do
  let count ← Take.required Take.asCount
  let fill ← Take.optional Take.asValue
  if count = 0 then throw .invalidOperation
  let items ← lift (itemsOf v)
  return .ofItems (cut count fill items)

/-! ## Several rows -/

/-- One row behind the other, or the entries of all dictionaries; of two entries with one key the
last one counts. -/
def chain : Action := fun v => do
  let all := v :: (← Take.rest)
  if all.all fun x => x.kind = .dict then
    return .ofEntries (all.flatMap fun x => match x with
      | .dict entries => entries
      | _ => [])
  else
    let rows ← lift (all.mapM itemsOf)
    if all.all fun x => x.kind = .list then return .ofItems rows.flatten
    else return .stream rows.flatten false

/-- The first items of all rows together, then the second ones, as long as every row has one. -/
def zipRows : List (List Value) → Nat → List Value
  | _, 0 => []
  | rows, fuel + 1 =>
    match rows.mapM List.head? with
    | none => []
    | some heads => .ofItems heads :: zipRows (rows.map (List.drop 1)) fuel

/-- Rows side by side. -/
def zip : Action := fun v => do
  let all := v :: (← Take.rest)
  let rows ← lift (all.mapM itemsOf)
  return .stream (zipRows rows (rows.headD []).length) false

/-- The items of a row as one text with a text between them. Nothing stands in front of the first
item that is not empty. -/
def join : Action := fun v => do
  let between := (← Take.optional Take.asPrinted).getD ""
  if v.isAbsent then return .text ""
  let items ← lift (itemsOf v)
  return .text (items.foldl (fun s x => (if s.isEmpty then s else s ++ between) ++ x.print) "")

/-- The sum of numbers; missing ones are left out. -/
def sum (v : Value) : Except FaultKind Value := do
  (← itemsOf v).foldlM (fun acc x =>
    if x.isUndefined then .ok acc
    else if x.isNumber then acc.add x
    else .error .invalidOperation) (.int 0)

/-! ## The filters -/

/-- The filters of rows that take named arguments. -/
def namedRowFilter? : String → Option Action
  | "dictsort" => some sortEntries
  | "sort" => some sort
  | "unique" => some unique
  | "groupby" => some groupBy
  | _ => none

/-- The filters of rows that take no named arguments. -/
def rowFilter? : String → Option Action
  | "length" | "count" => some fun v => do
    match v.size? with
    | some n => return .int n
    | none => throw .invalidOperation
  | "items" => some fun v => return pairs (← lift (entriesOf v))
  | "reverse" => some fun v => lift v.reversed
  | "join" => some join
  | "first" => some fun v => lift (first v)
  | "last" => some fun v => lift (last v)
  | "min" => some fun v => return least (← lift (itemsOf v))
  | "max" => some fun v => return greatest (← lift (itemsOf v))
  | "sum" => some fun v => lift (sum v)
  | "list" => some fun v => return .ofItems (← lift (itemsOf v))
  | "batch" => some (rows fun count fill items => batches count fill items.length items)
  | "slice" => some (rows slices)
  | "chain" => some chain
  | "zip" => some zip
  | "attr" => some fun v => do
    let key ← Take.required Take.asValue
    if v.isUndefined then throw .undefinedValue
    return (v.item? key).getD .undefined
  | "default" | "d" => some fun v => do
    let other := (← Take.optional Take.asValue).getD (.text "")
    let lax := (← Take.optional Take.asBool).getD false
    return if v.isUndefined || (lax && !v.isTrue) then other else v
  | _ => none

end Scaffold.Template.Filter
