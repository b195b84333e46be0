import Scaffold.Proofs.Walk.Flat

/-!
# Packs that can be reached

`Reaches registry steps` holds of the tags that the steps can come to: the tags that they expand, and
those that the packs under reached tags expand. A walk looks at no other tag of its registry. The
registry at work loses tags on the way into a pack, but what is reached in a smaller registry is
reached in the whole one (`Reaches.of_without`), so an agreement on the reached tags is kept all the
way down.

`walk_eq_of_agree` is the result: registries that agree on the reached tags give the same walk, the
log included.
-/

namespace Scaffold

/-- The tags that steps can come to, through any number of packs. -/
inductive Reaches (registry : Registry) (steps : List Step) : String → Prop
  | here {tag : String} : .expand tag ∈ steps → Reaches registry steps tag
  | inside {tag t : String} {pack : Manifest} :
    Reaches registry steps tag → registry.get? tag = some pack → .expand t ∈ pack.steps →
      Reaches registry steps t

namespace Reaches

variable {registry : Registry} {step : Step} {rest : List Step} {tag t : String} {pack : Manifest}

/-- What the later steps reach, all of them reach. -/
theorem of_rest (reached : Reaches registry rest t) : Reaches registry (step :: rest) t := by
  induction reached with
  | here member => exact .here (List.mem_cons_of_mem step member)
  | inside _ found member ih => exact .inside ih found member

/-- What a pack reaches in the registry without its tag, the step that expands it reaches in the whole
one. -/
theorem of_without (found : registry.get? tag = some pack)
    (reached : Reaches (registry.without tag) pack.steps t) :
    Reaches registry (.expand tag :: rest) t := by
  induction reached with
  | here member => exact .inside (.here List.mem_cons_self) found member
  | inside _ inner member ih =>
    rw [Registry.get?_without] at inner
    split at inner
    · cases inner
    · exact .inside ih inner member

end Reaches

namespace Run

variable {registry registry' : Registry}

/-- The registries have the same pack, or none, under each tag that the steps reach. -/
def AgreeOn (registry registry' : Registry) (steps : List Step) : Prop :=
  ∀ tag, Reaches registry steps tag → registry.get? tag = registry'.get? tag

theorem AgreeOn.rest {step : Step} {rest : List Step}
    (agree : AgreeOn registry registry' (step :: rest)) : AgreeOn registry registry' rest :=
  fun tag reached => agree tag reached.of_rest

theorem AgreeOn.without {tag : String} {pack : Manifest} {rest : List Step}
    (agree : AgreeOn registry registry' (.expand tag :: rest))
    (found : registry.get? tag = some pack) :
    AgreeOn (registry.without tag) (registry'.without tag) pack.steps := by
  intro t reached
  rw [Registry.get?_without, Registry.get?_without, agree t (reached.of_without found)]

/-- **Packs that cannot be reached do not matter.** If two registries agree on the tags that the steps
reach in the first one, walking the steps with either gives the same context or the same failure,
and leaves the same disk, the same console, the same renderings and the same log. -/
theorem walk_eq_of_agree (renderer : Renderer) (destRoot srcRoot : Path)
    (registry registry' : Registry) (steps : List Step) (seed : Context) (w : World)
    (agree : AgreeOn registry registry' steps) :
    exec (walk renderer destRoot srcRoot registry steps seed) w =
      exec (walk renderer destRoot srcRoot registry' steps seed) w := by
  induction registry, srcRoot, steps using flatten.induct generalizing registry' seed w with
  | case1 registry srcRoot => rw [walk_nil, walk_nil]
  | case2 registry srcRoot step rest inner ih =>
    have behind (context : Context) (v : World) := ih registry' context v agree.rest
    rw [walk_cons, walk_cons, exec_bind, exec_bind]
    rcases applied : exec (apply renderer srcRoot destRoot step seed) w with ⟨e | given, v⟩
    · rfl
    · cases directive_of_exec_apply applied
      cases step with
      | copy t => exact behind seed v
      | template t => exact behind seed v
      | bind name value => exact behind (seed.withDefault name value) v
      | expand tag =>
        have same := agree tag (.here List.mem_cons_self)
        simp only [Step.directive?, goOn, ← same]
        cases found : registry.get? tag with
        | none =>
          simp only [exec_bind, exec_note]
          exact behind seed _
        | some pack =>
          -- the pack is walked with both registries narrowed, and they still agree
          have within (v : World) := inner tag pack found (registry'.without tag) seed v
            (agree.without found)
          simp only [exec_bind, exec_note, within]
          rcases exec (walk renderer destRoot pack.root (registry'.without tag) pack.steps seed) _
            with ⟨e | context, u⟩
          · rfl
          · exact behind context u

/-- The steps go round between two packs; a third pack, which only one registry has, is not on the way. -/
theorem walk_eq_without_stray_pack :
    let first : Manifest := ⟨"a", ⟨"pack"⟩, [.copy ⟨⟨"t"⟩, ⟨"x"⟩, false⟩, .expand "b"], false⟩
    let second : Manifest := ⟨"b", ⟨"pack"⟩, [.expand "a", .expand "missing"], false⟩
    let stray : Manifest := ⟨"c", ⟨"pack"⟩, [.expand "a", .copy ⟨⟨"t"⟩, ⟨"y"⟩, false⟩], false⟩
    let registry : Registry := ⟨[("a", first), ("b", second), ("c", stray)]⟩
    let registry' : Registry := ⟨[("a", first), ("b", second)]⟩
    let w := World.start ⟨[(["pack"], .directory), (["t", "pack"], .file "x".toUTF8 false)], []⟩
    AgreeOn registry registry' [.expand "a"] ∧
      registry.get? "c" = some stray ∧ registry'.get? "c" = none ∧
      exec (walk verbatim ⟨"proj"⟩ ⟨"."⟩ registry [.expand "a"] .empty) w =
        exec (walk verbatim ⟨"proj"⟩ ⟨"."⟩ registry' [.expand "a"] .empty) w := by
  intro first second stray registry registry' w
  have onTheWay (tag : String) (reached : Reaches registry [.expand "a"] tag) :
      tag = "a" ∨ tag = "b" ∨ tag = "missing" := by
    induction reached with
    | here member =>
      rw [List.mem_singleton, Step.expand.injEq] at member
      exact .inl member
    | inside _ found member ih =>
      rcases ih with rfl | rfl | rfl
      · cases found
        simp only [first, List.mem_cons, reduceCtorEq, false_or, Step.expand.injEq,
          List.not_mem_nil, or_false] at member
        exact .inr (.inl member)
      · cases found
        simp only [second, List.mem_cons, Step.expand.injEq, List.not_mem_nil, or_false] at member
        exact member.imp_right .inr
      · cases found
  have agree : AgreeOn registry registry' [.expand "a"] := by
    intro tag reached
    rcases onTheWay tag reached with rfl | rfl | rfl
    · rfl
    · rfl
    · rfl
  exact ⟨agree, rfl, rfl,
    walk_eq_of_agree verbatim ⟨"proj"⟩ ⟨"."⟩ registry registry' [.expand "a"] .empty w agree⟩

end Run

end Scaffold
