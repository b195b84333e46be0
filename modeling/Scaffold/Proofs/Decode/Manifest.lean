import Scaffold.Proofs.Decode.Keys
import Scaffold.Proofs.Results

/-!
# What a manifest is made of

A manifest is decoded from the values under three keywords of its map, and from nothing else
(`manifest_decodes_from_three_keys`). Its steps are the raw steps, decoded one by one, and the first that does
not decode stops the decoding with its own fault; the name and the mark have their own fallbacks
(`Manifest.Declared`). Keys that only look like one of the three, such as a string, a symbol or a keyword with
a namespace, are passed over.
-/

namespace Scaffold

open Edn (Ident Value plainKeys keyed?_eq_some_iff)

/-! ## Rows of raw steps -/

/-- The row is read up to a raw step that does not decode, for this failure. -/
def FirstFails (items : List Value) (failure : Failure) : Prop :=
  ∃ before item behind, items = before ++ item :: behind ∧
    (∀ other ∈ before, ∃ step, Step.decode other = .ok step) ∧ Step.decode item = .error failure

section

variable {item : Value} {items : List Value} {steps : List Step} {failure : Failure}

theorem decodeSteps_cons_of_ok {step : Step} (decoded : Step.decode item = .ok step) (items : List Value) :
    decodeSteps (item :: items) = (decodeSteps items).map (step :: ·) := by
  rw [decodeSteps, decoded]
  rfl

theorem decodeSteps_cons_of_error (failed : Step.decode item = .error failure) (items : List Value) :
    decodeSteps (item :: items) = .error failure := by
  rw [decodeSteps, failed]
  rfl

/-- A row decodes one by one, or up to the first raw step that does not decode. -/
theorem decodeSteps_spec (items : List Value) :
    match decodeSteps items with
    | .ok steps => items.map Step.decode = steps.map .ok
    | .error failure => FirstFails items failure := by
  induction items with
  | nil => rfl
  | cons item items ih =>
    cases decoded : Step.decode item with
    | error failure =>
      rw [decodeSteps_cons_of_error decoded]
      exact ⟨[], item, items, rfl, List.forall_mem_nil _, decoded⟩
    | ok step =>
      rw [decodeSteps_cons_of_ok decoded]
      cases rest : decodeSteps items with
      | ok steps =>
        rw [rest] at ih
        exact List.map_cons ▸ List.map_cons ▸ congrArg₂ List.cons decoded ih
      | error failure =>
        rw [rest] at ih
        obtain ⟨before, bad, behind, rfl, good, failed⟩ := ih
        exact ⟨item :: before, bad, behind, rfl, List.forall_mem_cons.2 ⟨⟨step, decoded⟩, good⟩, failed⟩

theorem decodeSteps_of_firstFails (fails : FirstFails items failure) : decodeSteps items = .error failure := by
  obtain ⟨before, bad, behind, rfl, good, failed⟩ := fails
  induction before with
  | nil => exact decodeSteps_cons_of_error failed behind
  | cons first before ih =>
    obtain ⟨⟨step, decoded⟩, good⟩ := List.forall_mem_cons.1 good
    rw [List.cons_append, decodeSteps_cons_of_ok decoded, ih good]
    rfl

theorem decodeSteps_eq_error_iff : decodeSteps items = .error failure ↔ FirstFails items failure := by
  refine ⟨fun failed => ?_, decodeSteps_of_firstFails⟩
  have spec := decodeSteps_spec items
  rwa [failed] at spec

theorem decodeSteps_eq_ok_iff : decodeSteps items = .ok steps ↔ items.map Step.decode = steps.map .ok := by
  have spec := decodeSteps_spec items
  constructor
  · intro decoded
    rwa [decoded] at spec
  · intro each
    cases decoded : decodeSteps items with
    | ok steps' =>
      rw [decoded] at spec
      rw [List.map_injective_iff.2 (fun _ _ => Except.ok.inj) (spec.symm.trans each)]
    | error failure =>
      rw [decoded] at spec
      obtain ⟨before, bad, behind, rfl, -, failed⟩ := spec
      have listed : Step.decode bad ∈ steps.map .ok := each ▸ List.mem_map_of_mem (by simp)
      obtain ⟨step, -, decoded⟩ := List.mem_map.1 listed
      rw [failed] at decoded
      cases decoded

/-- A row decodes if each raw step does. -/
theorem exists_decodeSteps_iff :
    (∃ steps, decodeSteps items = .ok steps) ↔ ∀ item ∈ items, ∃ step, Step.decode item = .ok step := by
  constructor
  · rintro ⟨steps, decoded⟩ item listed
    have given : Step.decode item ∈ steps.map .ok :=
      decodeSteps_eq_ok_iff.1 decoded ▸ List.mem_map_of_mem listed
    obtain ⟨step, -, same⟩ := List.mem_map.1 given
    exact ⟨step, same.symm⟩
  · intro all
    cases decoded : decodeSteps items with
    | ok steps => exact ⟨steps, rfl⟩
    | error failure =>
      obtain ⟨before, bad, behind, rfl, -, failed⟩ := decodeSteps_eq_error_iff.1 decoded
      obtain ⟨step, decoded⟩ := all bad (by simp)
      rw [failed] at decoded
      cases decoded

end

/-! ## The three keys -/

/-- The map has the value under the keyword. -/
def Edn.Value.Under (entries : List (Value × Value)) (name : String) (v : Value) : Prop :=
  (.keyword (.plain name), v) ∈ entries

/-- The list or vector of raw steps of a map. -/
def RawSteps (entries : List (Value × Value)) (items : List Value) : Prop :=
  Value.Under entries "steps" (.list items) ∨ Value.Under entries "steps" (.vector items)

/-- The manifest is what the entries of a map declare for a root, whose raw steps are `items`. The name is the
text of a string, a symbol or a keyword; one that is missing or blank gives way to the root. -/
structure Manifest.Declared (entries : List (Value × Value)) (items : List Value) (root : Path)
    (m : Manifest) : Prop where
  steps : items.map Step.decode = m.steps.map .ok
  normal : m.root = root.normalize
  marked : m.noDest = true ↔ ∃ v, Value.Under entries "nodest" v ∧ v ≠ .nil ∧ v ≠ .bool false
  named : ∀ v text, Value.Under entries "name" v → v.atomText? = some text →
    Text.isBlankText text = false → m.name = text
  unnamed : (∀ v text, Value.Under entries "name" v → v.atomText? = some text →
    Text.isBlankText text = true) → m.name = root.normalize.text

theorem Edn.Value.isTruthy_iff {v : Value} : v.isTruthy = true ↔ v ≠ .nil ∧ v ≠ .bool false := by
  unfold Value.isTruthy
  split
  · simp
  · simp
  · next nil_ false_ => simpa using ⟨nil_, false_⟩

/-- The manifest around steps that are decoded. -/
def Manifest.around (root : Path) (entries : List (Value × Value)) (steps : List Step) : Manifest where
  name := (((keyed? "name" entries).bind Value.atomText?).filter fun n => !Text.isBlankText n).getD root.text
  root := root
  steps := steps
  noDest := (keyed? "nodest" entries).any Value.isTruthy

theorem Manifest.ofEntries_eq (root : Path) (entries : List (Value × Value)) :
    Manifest.ofEntries root entries =
      match (keyed? "steps" entries).bind Value.sequence? with
      | some items => (decodeSteps items).map (Manifest.around root entries)
      | none => .error (.badManifest .noSteps) := by
  unfold Manifest.ofEntries
  cases (keyed? "steps" entries).bind Value.sequence? with
  | none => rfl
  | some items =>
    cases steps : decodeSteps items with
    | error failure => simp [steps, bind, Except.bind, Except.map]
    | ok others => simp [steps, bind, Except.bind, Except.map, Manifest.around, pure, Except.pure]

section

variable {entries entries' : List (Value × Value)} {items : List Value} {name : String}

theorem rawSteps_iff (once : (plainKeys entries).Nodup) :
    RawSteps entries items ↔ (keyed? "steps" entries).bind Value.sequence? = some items := by
  unfold RawSteps Value.Under
  rw [← keyed?_eq_some_iff once, ← keyed?_eq_some_iff once, Option.bind_eq_some_iff]
  constructor
  · rintro (found | found)
    · exact ⟨_, found, rfl⟩
    · exact ⟨_, found, rfl⟩
  · rintro ⟨raw, found, sequence⟩
    unfold Value.sequence? at sequence
    split at sequence
    · cases sequence
      exact .inl found
    · cases sequence
      exact .inr found
    · cases sequence

theorem keyed?_congr (once : (plainKeys entries).Nodup) (once' : (plainKeys entries').Nodup)
    (same : ∀ v, Value.Under entries name v ↔ Value.Under entries' name v) :
    keyed? name entries = keyed? name entries' := by
  refine Option.ext fun v => ?_
  rw [keyed?_eq_some_iff once, keyed?_eq_some_iff once']
  exact same v

/-- The manifest around the decoded steps is the declared one. -/
theorem Manifest.declared_around (once : (plainKeys entries).Nodup) (root : Path) {steps : List Step}
    (each : items.map Step.decode = steps.map .ok) :
    (Manifest.around root.normalize entries steps).Declared entries items root where
  steps := each
  normal := rfl
  marked := by
    unfold Manifest.around Value.Under
    simp only [Option.any_eq_true, keyed?_eq_some_iff once, Value.isTruthy_iff]
  named v text listed spelled written := by
    unfold Manifest.around
    rw [(keyed?_eq_some_iff once).2 listed, Option.bind_some, spelled]
    simp [Option.filter, written]
  unnamed blank := by
    unfold Manifest.around
    cases declared : (keyed? "name" entries).bind Value.atomText? with
    | none => rfl
    | some text =>
      obtain ⟨v, found, spelled⟩ := Option.bind_eq_some_iff.1 declared
      simp [Option.filter, blank v text ((keyed?_eq_some_iff once).1 found) spelled]

/-- Entries with the same values under the three keywords make the same manifest. -/
theorem Manifest.ofEntries_congr (once : (plainKeys entries).Nodup) (once' : (plainKeys entries').Nodup)
    (same : ∀ name ∈ ["name", "nodest", "steps"], ∀ v,
      Value.Under entries name v ↔ Value.Under entries' name v) (root : Path) :
    Manifest.ofEntries root entries = Manifest.ofEntries root entries' := by
  have found : ∀ name ∈ ["name", "nodest", "steps"], keyed? name entries = keyed? name entries' :=
    fun name listed => keyed?_congr once once' (same name listed)
  unfold Manifest.ofEntries
  rw [found "name" (by decide), found "nodest" (by decide), found "steps" (by decide)]

end

/-! ## Decoding a manifest -/

section

variable {parse : Edn.Parser}

theorem Manifest.decode_of_read {content : String} {entries : List (Value × Value)}
    (read : parse content = .ok (.map entries)) (root : Path) :
    Manifest.decode parse content root = Manifest.ofEntries root.normalize entries := by
  unfold Manifest.decode
  rw [read]

/-- The root of a manifest is the normalized path of the directory that it was decoded for. -/
theorem Manifest.root_of_decode {content : String} {root : Path} {m : Manifest}
    (decoded : Manifest.decode parse content root = .ok m) : m.root = root.normalize := by
  unfold Manifest.decode at decoded
  dsimp only at decoded
  split at decoded
  · cases decoded
  · next entries _ =>
    rw [Manifest.ofEntries_eq] at decoded
    split at decoded
    · obtain ⟨steps, -, rfl⟩ := map_eq_ok_iff.1 decoded
      rfl
    · cases decoded
  · cases decoded

end

/-- **A manifest is decoded from three keys.** Let the content be read as a map, by a parser that gives no map
with a keyword twice among its keys. It decodes exactly if the value under `:steps` is a list or a vector in
which each element decodes, and then to the manifest that its entries declare. Otherwise a list or a vector of
raw steps fails as its first element that does not decode. A map with the same values under `:name`, `:nodest`
and `:steps` decodes alike, whatever else it holds. -/
theorem manifest_decodes_from_three_keys (parse : Edn.Parser) (distinct : parse.KeyedOnce)
    (content : String) (root : Path) (entries : List (Value × Value))
    (read : parse content = .ok (.map entries)) :
    ((∃ m, Manifest.decode parse content root = .ok m) ↔
      ∃ items, RawSteps entries items ∧ ∀ item ∈ items, ∃ step, Step.decode item = .ok step) ∧
    (∀ items, RawSteps entries items →
      (∀ m, Manifest.decode parse content root = .ok m → m.Declared entries items root) ∧
      ∀ failure, Manifest.decode parse content root = .error failure ↔ FirstFails items failure) ∧
    ∀ content' entries', parse content' = .ok (.map entries') →
      (∀ name ∈ ["name", "nodest", "steps"], ∀ v,
        Value.Under entries name v ↔ Value.Under entries' name v) →
      Manifest.decode parse content' root = Manifest.decode parse content root := by
  have once := distinct content entries read
  have whole := Manifest.decode_of_read read root
  rw [Manifest.ofEntries_eq] at whole
  have rowed {items : List Value} (raw : RawSteps entries items) :
      Manifest.decode parse content root =
        (decodeSteps items).map (Manifest.around root.normalize entries) := by
    rw [whole, (rawSteps_iff once).1 raw]
  refine ⟨⟨?_, ?_⟩, fun items raw => ⟨?_, ?_⟩, ?_⟩
  · rintro ⟨m, decoded⟩
    cases found : (keyed? "steps" entries).bind Value.sequence? with
    | none =>
      rw [whole, found] at decoded
      cases decoded
    | some items =>
      have raw := (rawSteps_iff once).2 found
      rw [rowed raw] at decoded
      obtain ⟨steps, row, -⟩ := map_eq_ok_iff.1 decoded
      exact ⟨items, raw, exists_decodeSteps_iff.1 ⟨steps, row⟩⟩
  · rintro ⟨items, raw, all⟩
    obtain ⟨steps, row⟩ := exists_decodeSteps_iff.2 all
    exact ⟨_, (rowed raw).trans (map_eq_ok_iff.2 ⟨steps, row, rfl⟩)⟩
  · intro m decoded
    rw [rowed raw] at decoded
    obtain ⟨steps, row, rfl⟩ := map_eq_ok_iff.1 decoded
    exact Manifest.declared_around once root (decodeSteps_eq_ok_iff.1 row)
  · intro failure
    rw [rowed raw, map_eq_error_iff, decodeSteps_eq_error_iff]
  · intro content' entries' read' same
    rw [Manifest.decode_of_read read, Manifest.decode_of_read read']
    exact (Manifest.ofEntries_congr once (distinct content' entries' read') same _).symm

/-- Keys that look like `:steps`, and a blank name: `:steps` gives the two steps, and the root the name. -/
theorem manifest_decodes_beside_lookalikes :
    let content := "\x7b:steps [(copy a) [from :t]] \"steps\" nil :x/steps [] steps 1 :name \" \" :nodest 0\x7d"
    ∃ entries items m, Value.read content = .ok (.map entries) ∧ RawSteps entries items ∧
      Manifest.decode Value.read content ⟨"p/."⟩ = .ok m ∧ m.Declared entries items ⟨"p/."⟩ ∧
      m.name = "p" ∧ m.noDest = true ∧ m.steps.length = 2 := by
  intro content
  have map_ : (Value.read content).toOption.map Value.rank = some (Value.map []).rank := by decide +kernel
  have facts : (Manifest.decode Value.read content ⟨"p/."⟩).toOption.map
      (fun m => (m.name, m.noDest, m.steps.length)) = some ("p", true, 2) := by decide +kernel
  obtain ⟨v, given, ranked⟩ := Option.map_eq_some_iff.1 map_
  obtain ⟨m, given', facts⟩ := Option.map_eq_some_iff.1 facts
  have read := eq_ok_of_toOption given
  have decoded := eq_ok_of_toOption given'
  cases v with
  | map entries =>
    obtain ⟨succeeds, row, -⟩ := manifest_decodes_from_three_keys Value.read Edn.keyedOnce_read content ⟨"p/."⟩ entries
      read
    obtain ⟨items, raw, -⟩ := succeeds.1 ⟨m, decoded⟩
    simp only [Prod.mk.injEq] at facts
    exact ⟨entries, items, m, read, raw, decoded, (row items raw).1 m decoded, facts⟩
  | _ => cases ranked

end Scaffold
