import Scaffold.Proofs.Session.Registry
import Scaffold.Proofs.Session.Spelling

/-!
# The order of the packs

A session sees its packs through the registry, and the registry through the first pack of each name. Loading
looks at the disk alone, so the manifests of directories that all load are those that they have one by one
(`exec_loadAll`), and sessions whose packs make the same registry end alike (`relatesAt_session_of_registry`).

The order of the packs therefore matters among packs of one name only, and there the first pack is the only
one that counts (`first_pack_wins`). The packs are printed and noted in the order in which they are given.
-/

namespace Scaffold

/-- The two worlds have the same disk and the same renderings, whatever was printed and noted. -/
structure World.SameEffects (w w' : World) : Prop where
  disk : w.disk = w'.disk
  renderings : w.renderings = w'.renderings

theorem World.blind_sameEffects : World.Blind World.SameEffects where
  disk same := same.disk
  setDisk _ same := ⟨rfl, same.renderings⟩
  report _ same := ⟨same.disk, same.renderings⟩
  render made same := ⟨same.disk, congrArg (· ++ [made]) same.renderings⟩
  notes _ _ same := ⟨same.disk, same.renderings⟩

namespace Run

variable {parse : Edn.Parser} {w w' : World} {roots imports imports' : List Path} {dest : Path}

/-! ## What directories load -/

/-- The manifest that a directory loads, if it has one that loads. -/
def loaded? (parse : Edn.Parser) (w : World) (root : Path) : Option Manifest :=
  (exec (load parse root) w).1.toOption.join

/-- The manifest of the directory loads, or there is none. -/
def Loads (parse : Edn.Parser) (w : World) (root : Path) : Prop :=
  ∃ found, (exec (load parse root) w).1 = .ok found

theorem loaded?_congr (same : w'.disk = w.disk) : loaded? parse w' = loaded? parse w := by
  funext root
  rw [loaded?, loaded?, (reads_load parse root w).2 w' same]

/-- Directories that all load give what they load one by one. -/
theorem exec_loadAll (loads : ∀ root ∈ roots, Loads parse w root) :
    (exec (loadAll parse roots) w).1 = .ok (roots.filterMap (loaded? parse w)) := by
  induction roots generalizing w with
  | nil => rfl
  | cons root rest ih =>
    obtain ⟨found, given⟩ := loads root List.mem_cons_self
    have first : exec (load parse root) w = (.ok found, (exec (load parse root) w).2) := Prod.ext given rfl
    have still := (reads_load parse root w).1.disk
    have others := @ih (exec (load parse root) w).2 fun other listed => by
      obtain ⟨found', given'⟩ := loads other (List.mem_cons_of_mem root listed)
      exact ⟨found', ((reads_load parse other w).2 _ still).trans given'⟩
    have here : loaded? parse w root = found := by
      rw [loaded?, given]
      rfl
    rw [loadAll, exec_bind_of_ok first, exec_bind_pure, others, loaded?_congr still, List.filterMap_cons,
      here]
    cases found with
    | none => rfl
    | some m => rfl

/-- They make the registry of what they load. -/
theorem exec_buildRegistry (loads : ∀ root ∈ roots, Loads parse w root) :
    (exec (buildRegistry parse roots) w).1 =
      .ok (Registry.ofManifests (roots.filterMap (loaded? parse w))) := by
  have all := exec_loadAll loads
  rw [buildRegistry, exec_bind]
  rcases ran : exec (loadAll parse roots) w with ⟨e | ms, v⟩
  · rw [ran] at all
    cases all
  · rw [ran] at all
    cases all
    rfl

/-! ## Sessions -/

/-- Loading keeps every blind relation. -/
theorem relates_load {R : World → World → Prop} (blind : World.Blind R) (root : Path) :
    Relates R (load parse root) (load parse root) := by
  unfold load
  refine Relates.bind (Relates.disk blind) fun d => ?_
  split
  · exact Relates.bind (Relates.report blind _) fun _ => Relates.pure _
  · exact Relates.bind (Relates.note blind _ _) fun _ => Relates.bind (Relates.reading blind _) fun _ =>
      Relates.bind (Relates.ofExcept _) fun _ => Relates.bind (Relates.note blind _ _) fun _ =>
        Relates.pure _

/-- Sessions with the same registry end alike. -/
theorem relatesAt_session_of_registry (renderer : Renderer) (dest : Path)
    (built : (exec (buildRegistry parse imports) w).1 = (exec (buildRegistry parse imports') w).1) :
    RelatesAt World.SameEffects (session parse renderer imports dest)
      (session parse renderer imports' dest) w w := by
  have blind := World.blind_sameEffects
  have quiet := (reads_buildRegistry parse imports w).1
  have quiet' := (reads_buildRegistry parse imports' w).1
  have first : RelatesAt World.SameEffects (buildRegistry parse imports) (buildRegistry parse imports') w w :=
    ⟨built, quiet.disk.trans quiet'.disk.symm, quiet.renderings.trans quiet'.renderings.symm⟩
  exact relatesAt_session_of_parts blind renderer first
    (fun _ related => relates_load blind dest _ _ related) fun _ => rfl

/-! ## The first pack of each name -/

/-- The name of the pack in a directory. -/
def packName (parse : Edn.Parser) (w : World) (root : Path) : Option String :=
  (loaded? parse w root).map Manifest.name

/-- The first manifest of a name is that of the first directory with a pack of this name. -/
theorem find?_loaded (parse : Edn.Parser) (w : World) (roots : List Path) (tag : String) :
    (roots.filterMap (loaded? parse w)).find? (·.name = tag) =
      (roots.find? (packName parse w · = some tag)).bind (loaded? parse w) := by
  rw [List.find?_filterMap]
  congr 2
  funext root
  unfold packName
  cases loaded? parse w root with
  | none => rfl
  | some m => simp

/-- Directories with the same first packs of all names make the same session. -/
theorem relatesAt_session_of_first (renderer : Renderer) (dest : Path)
    (loads : ∀ root ∈ imports, Loads parse w root) (loads' : ∀ root ∈ imports', Loads parse w root)
    (same : ∀ tag, imports.find? (packName parse w · = some tag) =
      imports'.find? (packName parse w · = some tag)) :
    RelatesAt World.SameEffects (session parse renderer imports dest)
      (session parse renderer imports' dest) w w := by
  refine relatesAt_session_of_registry renderer dest ?_
  rw [exec_buildRegistry loads, exec_buildRegistry loads']
  refine congrArg Except.ok (Registry.ofManifests_congr fun tag => ?_)
  rw [find?_loaded, find?_loaded, same]

/-- The directories without those whose pack has the name of an earlier one, or one of the given names. -/
def dropRepeated (name? : Path → Option String) (seen : List String) : List Path → List Path
  | [] => []
  | root :: rest =>
    match name? root with
    | none => root :: dropRepeated name? seen rest
    | some n =>
      if n ∈ seen then dropRepeated name? seen rest else root :: dropRepeated name? (n :: seen) rest

theorem mem_of_mem_dropRepeated {name? : Path → Option String} {seen : List String} {root : Path}
    (kept : root ∈ dropRepeated name? seen roots) : root ∈ roots := by
  induction roots generalizing seen with
  | nil => exact kept
  | cons first rest ih =>
    unfold dropRepeated at kept
    split at kept
    · rcases List.mem_cons.1 kept with rfl | later
      · exact List.mem_cons_self
      · exact List.mem_cons_of_mem _ (ih later)
    · split at kept
      · exact List.mem_cons_of_mem _ (ih kept)
      · rcases List.mem_cons.1 kept with rfl | later
        · exact List.mem_cons_self
        · exact List.mem_cons_of_mem _ (ih later)

/-- The first pack of each name is kept. -/
theorem find?_dropRepeated (name? : Path → Option String) {seen : List String} {tag : String}
    (fresh : tag ∉ seen) (roots : List Path) :
    (dropRepeated name? seen roots).find? (name? · = some tag) = roots.find? (name? · = some tag) := by
  induction roots generalizing seen with
  | nil => rfl
  | cons root rest ih =>
    unfold dropRepeated
    cases named : name? root with
    | none =>
      have other : ¬ name? root = some tag := by simp [named]
      simp only [List.find?_cons, other, decide_false, ih fresh]
    | some n =>
      by_cases asked : n = tag
      · subst asked
        simp only [if_neg fresh, List.find?_cons, named, decide_true]
      · have other : ¬ name? root = some tag := by simp [named, asked]
        have later : tag ∉ n :: seen := by simp [fresh, Ne.symm asked]
        dsimp only
        split
        · simp only [List.find?_cons, other, decide_false, ih fresh]
        · simp only [List.find?_cons, other, decide_false, ih later]

/-- **The first pack of a name wins, and the order of packs does not matter otherwise.** A registry of
manifests holds the first manifest of each name, unless the name was removed; it does so with all its tags in
order, and removals from it leave it as it is. So let all directories of packs load, or have no manifest. A
session ends in the same way and leaves the same disk and the same renderings if the directories come in
another order that is the same among those of one name, and if those are left out whose name an earlier one
has. -/
theorem first_pack_wins (parse : Edn.Parser) (renderer : Renderer) (imports : List Path) (dest : Path)
    (w : World) (loads : ∀ root ∈ imports, Loads parse w root) :
    (∀ (ms : List Manifest) (before behind : List String),
      let made := (Registry.ofManifests ms).removeAll before
      let later := made.removeAll behind
      (∀ tag, made.get? tag = if tag ∈ before then none else ms.find? (·.name = tag)) ∧
      (∀ tag, later.get? tag =
        if tag ∈ before ∨ tag ∈ behind then none else ms.find? (·.name = tag)) ∧
      made.tags.Pairwise (· < ·) ∧ ∀ tag, tag ∈ made.tags ↔ (made.get? tag).isSome) ∧
    (∀ imports' : List Path, imports.Perm imports' →
      (∀ tag, imports.filter (packName parse w · = some tag) =
        imports'.filter (packName parse w · = some tag)) →
      RelatesAt World.SameEffects (session parse renderer imports dest)
      (session parse renderer imports' dest) w w) ∧
    RelatesAt World.SameEffects (session parse renderer imports dest)
      (session parse renderer (dropRepeated (packName parse w) [] imports) dest) w w := by
  refine ⟨fun ms before behind => ?_, fun imports' perm same => ?_, ?_⟩
  · intro made later
    have ordered : made.Ordered := (Registry.ordered_ofManifests ms).removeAll before
    refine ⟨fun tag => ?_, fun tag => ?_, ordered.tags, fun tag => Registry.mem_tags_iff⟩
    · rw [Registry.get?_removeAll, Registry.get?_ofManifests]
    · rw [Registry.get?_removeAll, Registry.get?_removeAll, Registry.get?_ofManifests]
      by_cases removed : tag ∈ behind
      · simp [removed]
      · simp [removed]
  · refine relatesAt_session_of_first renderer dest loads
      (fun root listed => loads root (perm.mem_iff.2 listed)) fun tag => ?_
    rw [← List.head?_filter, ← List.head?_filter, same]
  · exact relatesAt_session_of_first renderer dest loads
      (fun root kept => loads root (mem_of_mem_dropRepeated kept))
      fun tag => (find?_dropRepeated (packName parse w) List.not_mem_nil imports).symm

theorem loads_of_isOk {root : Path} (ok : (exec (load parse root) w).1.isOk = true) : Loads parse w root := by
  obtain ⟨found, _, ran⟩ := exists_exec_of_isOk ok
  exact ⟨found, congrArg Prod.fst ran⟩

/-- A pack without a name is registered under its path, which another pack has for a name. A directory
without a manifest may stand anywhere. -/
theorem first_pack_wins_over_path :
    let w := World.start ⟨[(["p"], .directory),
      (["Custodianfile", "p"], .file "\x7b:name \"q\" :steps [[arg \"a\" 1]]\x7d".toUTF8 false),
      (["q"], .directory),
      (["Custodianfile", "q"], .file "\x7b:steps [[arg \"a\" 2]]\x7d".toUTF8 false),
      (["void"], .directory), (["d"], .directory),
      (["Custodianfile", "d"], .file "\x7b:steps [[from \"q\"]]\x7d".toUTF8 false)], []⟩
    let imports : List Path := [⟨"p"⟩, ⟨"./q/"⟩, ⟨"void"⟩]
    let imports' : List Path := [⟨"void"⟩, ⟨"p"⟩, ⟨"./q/"⟩]
    imports.map (packName Edn.Value.read w) = [some "q", some "q", none] ∧
      (∀ root ∈ imports, Loads Edn.Value.read w root) ∧ imports.Perm imports' ∧
      (∀ tag, imports.filter (packName Edn.Value.read w · = some tag) =
        imports'.filter (packName Edn.Value.read w · = some tag)) ∧
      dropRepeated (packName Edn.Value.read w) [] imports = [⟨"p"⟩, ⟨"void"⟩] ∧
      RelatesAt World.SameEffects (session Edn.Value.read verbatim imports ⟨"d"⟩)
        (session Edn.Value.read verbatim imports' ⟨"d"⟩) w w ∧
      RelatesAt World.SameEffects (session Edn.Value.read verbatim imports ⟨"d"⟩)
        (session Edn.Value.read verbatim [⟨"p"⟩, ⟨"void"⟩] ⟨"d"⟩) w w := by
  intro w imports imports'
  have p : packName Edn.Value.read w ⟨"p"⟩ = some "q" := by decide +kernel
  have q : packName Edn.Value.read w ⟨"./q/"⟩ = some "q" := by decide +kernel
  have void : packName Edn.Value.read w ⟨"void"⟩ = none := by decide +kernel
  have names : imports.map (packName Edn.Value.read w) = [some "q", some "q", none] := by
    rw [List.map_cons, List.map_cons, List.map_cons, p, q, void]
    rfl
  have ok : ∀ root ∈ imports, (exec (load Edn.Value.read root) w).1.isOk = true := by decide +kernel
  have loads : ∀ root ∈ imports, Loads Edn.Value.read w root :=
    fun root listed => loads_of_isOk (ok root listed)
  have perm : imports.Perm imports' := by decide
  have same : ∀ tag, imports.filter (packName Edn.Value.read w · = some tag) =
      imports'.filter (packName Edn.Value.read w · = some tag) := by
    intro tag
    simp only [imports, imports', List.filter_cons, p, q, void]
    simp
  have kept : dropRepeated (packName Edn.Value.read w) [] imports = [⟨"p"⟩, ⟨"void"⟩] := by
    simp only [imports, dropRepeated, p, q, void]
    simp
  obtain ⟨-, reordered, dropped⟩ := first_pack_wins Edn.Value.read verbatim imports ⟨"d"⟩ w loads
  rw [kept] at dropped
  exact ⟨names, loads, perm, same, kept, reordered imports' perm same, dropped⟩

end Run

end Scaffold
