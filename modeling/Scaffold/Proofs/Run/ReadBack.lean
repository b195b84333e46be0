import Scaffold.Proofs.Run.Copies

/-!
# Reading a copy back

A copy compares the paths of its source and of its destination, so it takes care of a path that is its own
destination. It does not see that two paths lead to one place, as they do over links. `Apart` says that
this does not happen to a file of the source: no file of the tree is copied into its place, and no other
one into that of its copy. Then the file is read back from the destination as it was at the beginning
(`copyPath_reads_back`).

A file that is copied to another path of its own place is lost (`copy_over_link_empties_source`).
-/

namespace Scaffold

/-- Of the entries at or below the place, which go to the same names below the destination, none goes
into the place of the file at `r`, and none but that file into the place of its copy. -/
structure Disk.Apart (d : Disk) (dest : Path) (place : Place) (r : List String) : Prop where
  file : ∀ s q, d.Leaf (s.reverse ++ place) → d.find (dest.descend s) = .ok q → q ≠ r.reverse ++ place
  copy : ∀ s q, d.Leaf (s.reverse ++ place) → s ≠ r → d.find (dest.descend s) = .ok q →
    d.find (dest.descend r) ≠ .ok q

namespace Run

open Disk (Edits)

variable {source dest : Path} {d d' last : Disk} {w v : World} {place : Place} {r : List String}
  {rows : List (List String)} {content : ByteArray} {executable : Bool}

/-- **A row of copies keeps a file that is apart, and its copy.** The induction is over the row: each
copy goes to another place than the file, and to another place than its copy unless it is that copy. -/
theorem Copies.keeps_apart (copies : Copies source dest rows d last) (sound : d.Sound)
    (led : d.find source = .ok place)
    (there : d.get? (r.reverse ++ place) = some (.file content executable))
    (leaves : ∀ s ∈ rows, last.Leaf (s.reverse ++ place)) (apart : last.Apart dest place r) :
    last.get? (r.reverse ++ place) = some (.file content executable) ∧
      (r ∈ rows ∨ d.read (dest.descend r) = .ok (.file content executable) →
        last.read (dest.descend r) = .ok (.file content executable)) := by
  induction copies with
  | done =>
    refine ⟨there, fun copied => ?_⟩
    rcases copied with listed | reads
    · cases listed
    · exact reads
  | making grows _ ih =>
    obtain ⟨kept, reads⟩ := ih (grows.edits.sound sound) (grows.edits.find led)
      (grows.kept _ _ there) leaves apart
    refine ⟨kept, fun copied => reads (copied.imp_right fun before => ?_)⟩
    obtain ⟨q, found, file⟩ := Disk.read_eq_ok_iff.1 before
    exact Disk.read_eq_ok_iff.2 ⟨q, grows.edits.find found, grows.kept _ _ file⟩
  | @file s rows d d' last copied rest ih =>
    cases copied with
    | @intro made p q bytes mark grows edits found origin target becomes =>
      have there := grows.kept _ _ there
      have later : Edits made last := edits.trans rest.edits
      have leaf := leaves s List.mem_cons_self
      -- the place of this copy is not that of the file
      have beside : q ≠ r.reverse ++ place := apart.file s q leaf (later.find target)
      have still : d'.get? (r.reverse ++ place) = some (.file content executable) := by
        rw [becomes, if_neg beside.symm]
        exact there
      have before : Edits d d' := grows.edits.trans edits
      obtain ⟨kept, reads⟩ := ih (before.sound sound) (before.find led) still
        (fun t listed => leaves t (List.mem_cons_of_mem s listed)) apart
      refine ⟨kept, fun copied => reads ?_⟩
      by_cases own : s = r
      · subst own
        have here : p = s.reverse ++ place := (grows.edits.sound sound).find_descend
          (grows.edits.find led) there (fun _ => Node.noConfusion) found
        subst here
        cases origin.symm.trans there
        refine .inr (Disk.read_eq_ok_iff.2 ⟨q, edits.find target, ?_⟩)
        rw [becomes, if_pos rfl, if_neg beside.symm]
      · rcases copied with listed | copied
        · exact .inl ((List.mem_cons.1 listed).resolve_left fun same => own same.symm)
        · obtain ⟨q', found', file⟩ := Disk.read_eq_ok_iff.1 copied
          have elsewhere : q' ≠ q := by
            rintro rfl
            have leads : Edits d last := grows.edits.trans later
            exact apart.copy s q' leaf own (later.find target) (leads.find found')
          refine .inr (Disk.read_eq_ok_iff.2 ⟨q', before.find found', ?_⟩)
          rw [becomes, if_neg elsewhere]
          exact grows.kept _ _ file

/-! ## Copies of paths -/

/-- On a disk without links, what is copied to a place apart from the tree stays apart. -/
theorem apart_of_linkless (linkless : d.Linkless) (sound : d.Sound)
    (outside : ¬ place <:+ dest.place d.cwd) (around : ¬ dest.place d.cwd <:+ place)
    (there : d.Leaf (r.reverse ++ place)) : d.Apart dest place r := by
  have leads (s : List String) (q : Place) (leaf : d.Leaf (s.reverse ++ place))
      (found : d.find (dest.descend s) = .ok q) : q = s.reverse ++ dest.place d.cwd := by
    obtain ⟨node, entry⟩ := Option.isSome_iff_exists.1 leaf.filled
    have led := linkless.follow_eq (Disk.follow_of_find found)
    rw [Path.writtenParts_descend (sound.plain_of_append entry), List.foldl_append,
      Path.foldl_writtenParts, Path.foldl_step_names] at led
    exact led
  constructor
  · intro s q leaf found same
    have inside : dest.place d.cwd <:+ q := leads s q leaf found ▸ List.suffix_append _ _
    have below : place <:+ q := same ▸ List.suffix_append _ _
    rcases List.suffix_or_suffix_of_suffix below inside with within | without
    · exact outside within
    · exact around without
  · intro s q leaf other found found'
    have here := leads s q leaf found
    rw [leads r q there found'] at here
    exact other (List.reverse_inj.1 (List.append_cancel_right here)).symm

/-- A file that is copied to its own place under another path is emptied. -/
theorem get?_of_copyPath_own_place (led : w.disk.find source = .ok place)
    (there : w.disk.get? place = some (.file content executable))
    (other : source.sameParts dest = false) (ran : exec (copyPath source dest) w = (.ok (), v))
    (own : v.disk.find dest = .ok place) :
    v.disk.get? place = some (.file .empty executable) := by
  rcases copyPath_cases led other ran with ⟨-, ran⟩ | ⟨directory, -⟩
  · cases copiesFile_of_copyFile ran with
    | @intro made p q bytes mark grows edits found origin target becomes =>
      cases (grows.edits.find led).symm.trans found
      cases (edits.find target).symm.trans own
      cases origin.symm.trans (grows.kept _ _ there)
      rw [becomes, if_pos rfl, if_pos rfl]
  · cases there.symm.trans directory

/-- **A file that is apart is read back from a copy.** Let a copy succeed, and let a file lie below the
place of its source or be the source itself. A path that is its own destination is left as it is, and the
destination leads to the same file if it leads anywhere. Any other destination has the bytes and the mark
that the file had at the beginning, and so has the file, if the file is apart. It is so on a disk without
links where neither the source lies at or below the destination nor the destination at or below the
source. But a single file whose destination leads to its own place is emptied. -/
theorem copyPath_reads_back (source dest : Path) (w v : World) (sound : w.disk.Sound)
    (ran : exec (copyPath source dest) w = (.ok (), v)) (place : Place) (r : List String)
    (content : ByteArray) (executable : Bool) (led : w.disk.find source = .ok place)
    (there : w.disk.get? (r.reverse ++ place) = some (.file content executable)) :
    (source.sameParts dest = true → v.disk = w.disk ∧
      ∀ node, v.disk.read (dest.descend r) = .ok node → node = .file content executable) ∧
    (source.sameParts dest = false → v.disk.Apart dest place r →
      v.disk.read (dest.descend r) = .ok (.file content executable) ∧
        v.disk.get? (r.reverse ++ place) = some (.file content executable)) ∧
    (w.disk.Linkless → ¬ place <:+ dest.place w.disk.cwd → ¬ dest.place w.disk.cwd <:+ place →
      v.disk.Apart dest place r) ∧
    (r = [] → source.sameParts dest = false → v.disk.find dest = .ok place →
      v.disk.get? place = some (.file .empty executable)) := by
  have edits : Edits w.disk v.disk := by
    have edits := edits_copyPath source dest w
    rw [ran] at edits
    exact edits
  have filled : (w.disk.get? place).isSome := sound.isSome_of_append (by rw [there]; rfl)
  have leaf : w.disk.Leaf (r.reverse ++ place) :=
    ⟨by rw [there]; rfl, fun directory => by cases there.symm.trans directory⟩
  refine ⟨fun same => ?_, fun other apart => ?_, fun linkless outside around => ?_,
    fun here other alias_ => ?_⟩
  · rw [copyPath, if_pos same, exec_note] at ran
    cases ran
    refine ⟨rfl, fun node read => ?_⟩
    obtain ⟨q, found, entry⟩ := Disk.read_eq_ok_iff.1 read
    have place_ := sound.find_descend_of_sameParts same led there (fun _ => Node.noConfusion) found
    rw [place_] at entry
    exact Option.some.inj (entry.symm.trans there)
  · obtain ⟨rows, copies, covers⟩ := copiesTree_of_copyPath sound led filled other ran
    obtain ⟨kept, reads⟩ := copies.keeps_apart sound led there covers.only apart
    exact ⟨reads (.inl (covers.all r content executable there)), kept⟩
  · rw [← edits.cwd] at outside around
    exact apart_of_linkless (edits.linkless linkless) (edits.sound sound) outside around
      (edits.keeps.leaf leaf)
  · subst here
    exact get?_of_copyPath_own_place led there other ran alias_

/-- A tree with a file two levels down, copied beside itself under a path that goes through it. -/
theorem copyPath_reads_back_from_tree :
    let w := World.start ⟨[(["s"], .directory), (["f", "s"], .file "x".toUTF8 false),
      (["sub", "s"], .directory), (["g", "sub", "s"], .file "y".toUTF8 true)], []⟩
    let source : Path := ⟨"s/"⟩
    let dest : Path := ⟨"./s/../t/u"⟩
    w.disk.Sound ∧ w.disk.Linkless ∧ w.disk.find source = .ok ["s"] ∧
      w.disk.get? (["sub", "g"].reverse ++ ["s"]) = some (.file "y".toUTF8 true) ∧
      source.sameParts dest = false ∧
      ∃ v, exec (copyPath source dest) w = (.ok (), v) ∧ v.disk.Apart dest ["s"] ["sub", "g"] ∧
        v.disk.read (dest.descend ["sub", "g"]) = .ok (.file "y".toUTF8 true) ∧
        v.disk.get? (["sub", "g"].reverse ++ ["s"]) = some (.file "y".toUTF8 true) := by
  intro w source dest
  have sound : w.disk.Sound := Disk.sound_of_entries (by decide +kernel) (by decide +kernel)
  have linkless : w.disk.Linkless := Disk.linkless_of_entries (by simp [w, World.start])
  have led : w.disk.find source = .ok ["s"] := by decide +kernel
  have there : w.disk.get? (["sub", "g"].reverse ++ ["s"]) = some (.file "y".toUTF8 true) := by
    decide +kernel
  have other : source.sameParts dest = false := by decide +kernel
  obtain ⟨⟨⟩, v, ran⟩ := exists_exec_of_isOk (m := copyPath source dest) (w := w) (by decide +kernel)
  obtain ⟨-, reads, apart, -⟩ := copyPath_reads_back source dest w v sound ran ["s"] ["sub", "g"]
    "y".toUTF8 true led there
  have apart := apart linkless (by decide +kernel) (by decide +kernel)
  obtain ⟨read, kept⟩ := reads other apart
  exact ⟨sound, linkless, led, there, other, v, ran, apart, read, kept⟩

/-- The destination is a link to the source. The copy succeeds, and nothing is left of the file. -/
theorem copy_over_link_empties_source :
    let w := World.start ⟨[(["a"], .file "x".toUTF8 false), (["l"], .link ⟨"a"⟩)], []⟩
    let copied := exec (copyPath ⟨"a"⟩ ⟨"l"⟩) w
    w.disk.Sound ∧ w.disk.read ⟨"a"⟩ = .ok (.file "x".toUTF8 false) ∧ copied.1.isOk = true ∧
      copied.2.disk.read ⟨"l"⟩ = .ok (.file .empty false) ∧
      copied.2.disk.read ⟨"a"⟩ = .ok (.file .empty false) := by
  intro w copied
  have sound : w.disk.Sound := Disk.sound_of_entries (by decide +kernel) (by decide +kernel)
  have emptied : copied.2.disk.get? ["a"] = some (.file .empty false) := by decide +kernel
  have before : w.disk.find ⟨"a"⟩ = .ok ["a"] := by decide +kernel
  have byLink : copied.2.disk.find ⟨"l"⟩ = .ok ["a"] := by decide +kernel
  have itself : copied.2.disk.find ⟨"a"⟩ = .ok ["a"] := by decide +kernel
  exact ⟨sound, Disk.read_eq_ok_iff.2 ⟨["a"], before, by decide +kernel⟩, by decide +kernel,
    Disk.read_eq_ok_iff.2 ⟨["a"], byLink, emptied⟩, Disk.read_eq_ok_iff.2 ⟨["a"], itself, emptied⟩⟩

end Run

end Scaffold
