import Scaffold.Proofs.Disk.Growth
import Scaffold.Proofs.Path.Length

/-!
# Going down into directories

A path goes down by names that are joined to it one after the other (`Path.descend`). On a sound disk the
places on the way down to an entry are directories, so names that are followed down to it lead to it
(`Sound.follow_names`), over whatever path the directory is reached (`Sound.find_descend`). With the path
itself only its text can be in the way.
-/

namespace Scaffold

/-- The path that goes on from this one by names. -/
def Path.descend (p : Path) (names : List String) : Path := names.foldl (fun q n => q.join ⟨n⟩) p

namespace Path

variable {p : Path} {names : List String}

theorem writtenParts_descend (plain : ∀ n ∈ names, Plain n) :
    (p.descend names).writtenParts = p.writtenParts ++ names.map .name := by
  induction names generalizing p with
  | nil => exact (List.append_nil _).symm
  | cons n rest ih =>
    have first := writtenParts_name (plain n List.mem_cons_self)
    have later := @ih (p.join ⟨n⟩) fun m member => plain m (List.mem_cons_of_mem n member)
    rw [writtenParts_join p first.1, first.2, List.append_assoc] at later
    exact later

/-- A slash between a path and a name is written once. -/
theorem join_empty_join_name (p : Path) {n : String} (plain : Plain n) :
    (p.join ⟨""⟩).join ⟨n⟩ = p.join ⟨n⟩ := by
  by_cases empty : p.text = ""
  · obtain ⟨text⟩ := p
    cases empty
    rfl
  · have unrooted := (writtenParts_name plain).1
    have joined : (p.join ⟨""⟩).join ⟨n⟩ = ⟨(p.join ⟨""⟩).text ++ n⟩ := by
      rw [join, unrooted, isSlashed_join_empty empty, Bool.or_true]
      rfl
    rw [joined, join_empty empty, join, unrooted]
    cases slashed : p.isSlashed with
    | true => simp
    | false => simp [empty]

end Path

namespace Disk

variable {d : Disk} {links : Nat} {p place q : Place} {r : List String} {node : Node} {n : String}

theorem read_eq_ok_iff {path : Path} :
    d.read path = .ok node ↔ ∃ q, d.find path = .ok q ∧ d.get? q = some node := by
  unfold Disk.read
  cases found : d.find path with
  | error e => simp [bind, Except.bind]
  | ok q =>
    simp only [bind, Except.bind, Except.ok.injEq, exists_eq_left']
    cases there : d.get? q with
    | none => simp
    | some other => simp

/-- An entry of a directory is listed in it. -/
theorem mem_names_of_isSome (filled : (d.get? (n :: p)).isSome) : n ∈ d.names p := by
  obtain ⟨node, there⟩ := Option.isSome_iff_exists.1 filled
  refine List.mem_filterMap.2 ⟨_, mem_entries_of_get? there, ?_⟩
  exact if_pos rfl

/-- Names that are followed down to an entry lead to it, unless it is a link. -/
theorem Sound.follow_names (sound : d.Sound) (there : d.get? (r.reverse ++ place) = some node)
    (noLink : ∀ target, node ≠ .link target)
    (found : d.follow true links place (r.map .name) = .ok q) : q = r.reverse ++ place := by
  induction r generalizing place with
  | nil =>
    rw [List.map_nil, follow_nil] at found
    cases found
    rfl
  | cons n rest ih =>
    rw [List.reverse_cons, List.append_assoc, List.singleton_append] at there ⊢
    obtain ⟨-, ⟨last, given, -⟩ | ⟨-, inner⟩ | ⟨target, _, -, link, -, -⟩⟩ := follow_name_cases found
    · cases List.map_eq_nil_iff.1 last
      exact given
    · exact ih there inner
    · cases rest with
      | nil =>
        have same := there.symm.trans link
        cases same
        exact absurd rfl (noLink target)
      | cons m rest =>
        have directory : d.get? (n :: place) = some .directory := by
          have further : (m :: rest).reverse ≠ [] := List.reverse_ne_nil_iff.2 (List.cons_ne_nil m rest)
          exact sound.directory_of_append further (by rw [there]; rfl)
        rw [directory] at link
        cases link

/-- They do so behind any parts that lead to the directory. -/
theorem Sound.follow_append_names (sound : d.Sound) {xs : List Part}
    (led : d.follow true links p xs = .ok place) (there : d.get? (r.reverse ++ place) = some node)
    (noLink : ∀ target, node ≠ .link target)
    (found : d.follow true links p (xs ++ r.map .name) = .ok q) : q = r.reverse ++ place := by
  cases r with
  | nil =>
    rw [List.map_nil, List.append_nil, led] at found
    cases found
    rfl
  | cons n rest =>
    obtain ⟨left, middle, enters, behind⟩ := exists_enters_of_follow links p xs found
    have reached := enters.follow
    rw [led] at reached
    cases reached
    exact sound.follow_names there noLink behind

theorem Sound.plain_of_append (sound : d.Sound) (there : d.get? (r.reverse ++ place) = some node) :
    ∀ n ∈ r, Plain n := fun n member =>
  sound.plain (by rw [there]; rfl) n (List.mem_append_left _ (List.mem_reverse.2 member))

/-- A path goes down to the entries below the place that it leads to. -/
theorem Sound.find_descend (sound : d.Sound) {path : Path} (led : d.find path = .ok place)
    (there : d.get? (r.reverse ++ place) = some node) (noLink : ∀ target, node ≠ .link target)
    (found : d.find (path.descend r) = .ok q) : q = r.reverse ++ place := by
  have followed := follow_of_find found
  rw [Path.writtenParts_descend (sound.plain_of_append there)] at followed
  exact sound.follow_append_names (follow_of_find led) there noLink followed

/-- So does a path with the same parts, however it is spelled. -/
theorem Sound.find_descend_of_sameParts (sound : d.Sound) {path path' : Path}
    (same : path.sameParts path' = true) (led : d.find path = .ok place)
    (there : d.get? (r.reverse ++ place) = some node) (noLink : ∀ target, node ≠ .link target)
    (found : d.find (path'.descend r) = .ok q) : q = r.reverse ++ place := by
  have dotless : path'.writtenParts.filter (· ≠ .here) = path.writtenParts.filter (· ≠ .here) := by
    rw [← Path.filter_parts, ← Path.filter_parts, of_decide_eq_true same]
  have names : (r.map Part.name).filter (· ≠ .here) = r.map .name := by
    refine List.filter_eq_self.2 fun x member => ?_
    obtain ⟨n, -, rfl⟩ := List.mem_map.1 member
    simp
  have followed := follow_of_find found
  rw [Path.writtenParts_descend (sound.plain_of_append there)] at followed
  have bare := follow_filter followed
  rw [List.filter_append, dotless, names] at bare
  exact sound.follow_append_names (follow_filter (follow_of_find led)) there noLink bare

/-- Names behind a slash at the end are names behind the path. -/
theorem descend_join_empty (path : Path) (plain : ∀ n ∈ r, Plain n) (some_ : r ≠ []) :
    (path.join ⟨""⟩).descend r = path.descend r := by
  cases r with
  | nil => exact absurd rfl some_
  | cons n rest =>
    have slash := Path.join_empty_join_name path (plain n List.mem_cons_self)
    exact congrArg (Path.descend · rest) slash

end Disk

end Scaffold
