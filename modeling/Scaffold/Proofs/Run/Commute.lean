import Scaffold.Proofs.Run.Repeat

/-!
# Steps that commute

Two transfers whose destinations lie beside each other, and each beside the source of the other one, can be
made in either order (`independent_steps_commute`). Either of them is repeated on a disk on which the other
has been made, for that looks the same to it. So what lies at or below a destination comes out the same in
both orders.

Above the destinations the orders differ on the way: a directory that both need is made by whichever comes
first. In the end it is there in both orders, since a transfer that has made a directory has also filled its
destination (`Lands`), and what is filled lies in directories.
-/

namespace Scaffold

namespace Disk

variable {q q' : Place} {d a b ab ba : Disk}

theorem Beside.symm (beside : Beside q q') : Beside q' q := ⟨beside.around, beside.outside⟩

/-- What a transfer to a place does if it succeeds: it edits the disk for that place, and if it changes
anything it fills the place. -/
structure Lands (q : Place) (d d' : Disk) : Prop where
  edits : Edits d d'
  changed : ChangedAt q d d'
  filled : ∀ p, d'.get? p ≠ d.get? p → (d'.get? q).isSome

/-- A place above a filled one is a directory. -/
theorem Sound.directory_above (sound : d.Sound) (filled : (d.get? q).isSome) {p : Place} (above : p <:+ q)
    (other : ¬ q <:+ p) : d.get? p = some .directory := by
  obtain ⟨r, rfl⟩ := above
  refine sound.directory_of_append (fun here => other ?_) filled
  rw [here]
  exact List.suffix_refl p

/-- What one order of two transfers changes outside of their destinations the other order changes as well. -/
theorem Lands.get?_eq_of_changed (sound : d.Sound) (first : Lands q d a) (second : Lands q' a ab)
    (first' : Lands q' d b) (second' : Lands q b ba) (same : ba.get? q = a.get? q)
    (same' : ba.get? q' = ab.get? q') {p : Place} (outside : ¬ q <:+ p) (outside' : ¬ q' <:+ p)
    (changed : ab.get? p ≠ d.get? p) : ba.get? p = ab.get? p := by
  have sound' : ba.Sound := second'.edits.sound (first'.edits.sound sound)
  by_cases early : a.get? p = d.get? p
  · rcases second.changed p (early ▸ changed) with below | ⟨above, -, made⟩
    · exact absurd below outside'
    · have filled : (ba.get? q').isSome := same' ▸ second.filled p (early ▸ changed)
      rw [made, sound'.directory_above filled above outside']
  · rcases first.changed p early with below | ⟨above, -, made⟩
    · exact absurd below outside
    · have filled : (ba.get? q).isSome := same ▸ first.filled p early
      rw [second.edits.keeps.directory made, sound'.directory_above filled above outside]

/-- Two transfers to places beside each other leave the same entries in both orders, if they do so at and
below these places. -/
theorem Lands.get?_eq (sound : d.Sound) (beside : Beside q q') (first : Lands q d a) (second : Lands q' a ab)
    (first' : Lands q' d b) (second' : Lands q b ba) (same : ∀ p, q <:+ p → ba.get? p = a.get? p)
    (same' : ∀ p, q' <:+ p → ab.get? p = b.get? p) (p : Place) : ba.get? p = ab.get? p := by
  have inside : ∀ p, q <:+ p → ba.get? p = ab.get? p := by
    rintro _ ⟨r, rfl⟩
    rw [same _ (List.suffix_append r q), beside.get?_eq second.changed]
  have inside' : ∀ p, q' <:+ p → ba.get? p = ab.get? p := by
    rintro _ ⟨r, rfl⟩
    rw [same' _ (List.suffix_append r q'), beside.symm.get?_eq second'.changed]
  by_cases below : q <:+ p
  · exact inside p below
  · by_cases below' : q' <:+ p
    · exact inside' p below'
    · have here (q : Place) : q <:+ q := List.suffix_refl q
      have atDest := same q (here q)
      have atDest' := same' q' (here q')
      by_cases changed : ab.get? p = d.get? p
      · by_cases changed' : ba.get? p = d.get? p
        · rw [changed, changed']
        · exact (first'.get?_eq_of_changed sound second' first second atDest' (inside q (here q)).symm below'
            below changed').symm
      · exact first.get?_eq_of_changed sound second first' second' atDest (inside' q' (here q')) below below'
          changed

end Disk

namespace Run

open Disk (Beside ChangedAt Lands SameSight Steady)

variable {renderer : Renderer} {srcRoot destRoot : Path} {step : Step} {t : Transfer} {context : Context}
  {given : Option Directive} {w v : World} {cwd : Place}

/-- A step that succeeds lands at its destination. -/
theorem lands_apply (steady : Steady cwd w.disk) (transfer : step.transfer? = some t)
    (ran : exec (apply renderer srcRoot destRoot step context) w = (.ok given, v)) :
    Lands ((destRoot.absolutize t.dest).place cwd) w.disk v.disk := by
  have edits := edits_apply renderer srcRoot destRoot context step w
  have footprint := footprint_apply renderer srcRoot destRoot context step steady
  rw [ran] at edits footprint
  refine ⟨edits, fun p changed => ?_, fun p changed => ?_⟩
  · obtain ⟨_, transfer', -, touched⟩ := footprint p changed
    cases transfer.symm.trans transfer'
    exact touched
  · rcases done_of_apply ran t transfer with held | ⟨rfl, own⟩
    · obtain ⟨place, node, found, there⟩ := Disk.holds_iff.1 held
      cases (steady.edits edits).find_eq found
      rw [there]
      rfl
    · -- the copy of a path to itself changes nothing
      rcases exec_unlessGated_ok ran with ⟨-, same⟩ | copied
      · rw [same] at changed
        exact absurd rfl changed
      · obtain ⟨_, _, carried, reported⟩ := exists_of_exec_bind copied
        rw [copyPath, if_pos own] at carried
        cases carried
        cases reported
        exact absurd rfl changed

/-- **Independent steps commute.** On a disk without links, let the destinations of two transfers lie beside
each other, and the source of each beside the destination of the other one. If the one succeeds and then the
other, they also succeed the other way round, and leave the same entry at every place. The rows of names can
differ, since they show which entry came first. -/
theorem independent_steps_commute (renderer : Renderer) (srcRoot srcRoot' destRoot : Path) (context : Context)
    {step step' : Step} {t t' : Transfer} (transfer : step.transfer? = some t)
    (transfer' : step'.transfer? = some t') {w u v : World} {given given' : Option Directive}
    (sound : w.disk.Sound) (linkless : w.disk.Linkless)
    (dests : Beside ((destRoot.absolutize t.dest).place w.disk.cwd)
      ((destRoot.absolutize t'.dest).place w.disk.cwd))
    (source : Beside ((srcRoot.absolutize t.src).place w.disk.cwd)
      ((destRoot.absolutize t'.dest).place w.disk.cwd))
    (source' : Beside ((srcRoot'.absolutize t'.src).place w.disk.cwd)
      ((destRoot.absolutize t.dest).place w.disk.cwd))
    (first : exec (apply renderer srcRoot destRoot step context) w = (.ok given, u))
    (second : exec (apply renderer srcRoot' destRoot step' context) u = (.ok given', v)) :
    ∃ u' v', exec (apply renderer srcRoot' destRoot step' context) w = (.ok given', u') ∧
      exec (apply renderer srcRoot destRoot step context) u' = (.ok given, v') ∧
      v'.disk.cwd = v.disk.cwd ∧ ∀ p, v'.disk.get? p = v.disk.get? p := by
  have steady : Steady w.disk.cwd w.disk := ⟨sound, linkless, rfl⟩
  have lands := lands_apply steady transfer first
  have steadyU := steady.edits lands.edits
  have lands' := lands_apply steadyU transfer' second
  -- the second step does on the first disk what it did behind the first step
  have unseen := SameSight.of_changedAt steady lands.edits lands.changed source' dests.symm
  obtain ⟨u', early, sight'⟩ :=
    repeats_apply renderer srcRoot' destRoot context transfer' unseen.symm given' v second
  have landsEarly := lands_apply steady transfer' early
  -- and so does the first step behind the second one
  have unseen' := SameSight.of_changedAt steady landsEarly.edits landsEarly.changed source dests
  obtain ⟨v', late, sight⟩ :=
    repeats_apply renderer srcRoot destRoot context transfer unseen' given u first
  have landsLate := lands_apply (steady.edits landsEarly.edits) transfer late
  refine ⟨u', v', early, late, ?_, lands.get?_eq sound dests lands' landsEarly landsLate (fun p below => ?_)
    fun p below => ?_⟩
  · rw [sight.right.cwd_eq, sight'.left.cwd_eq]
  · exact (sight.same p (.inr below)).symm
  · exact sight'.same p (.inr below)

/-- A conditional copy of a tree and a template go below a directory that is missing. -/
theorem independent_steps_commute_below_missing :
    let w := World.start ⟨[(["s"], .directory), (["f", "s"], .file "x".toUTF8 false),
      (["t"], .directory), (["g", "t"], .file "y".toUTF8 true)], []⟩
    let t : Transfer := ⟨⟨"."⟩, ⟨"out/a"⟩, true⟩
    let t' : Transfer := ⟨⟨"/g"⟩, ⟨"out/b/../c"⟩, false⟩
    let copies := apply verbatim ⟨"s"⟩ ⟨"/"⟩ (.copy t) .empty
    let renders := apply verbatim ⟨"/t"⟩ ⟨"/"⟩ (.template t') .empty
    w.disk.Sound ∧ w.disk.Linkless ∧ w.disk.get? ["out"] = none ∧ Beside ["a", "out"] ["c", "out"] ∧
      Beside ["s"] ["c", "out"] ∧ Beside ["g", "t"] ["a", "out"] ∧
      ∃ u v u' v', exec copies w = (.ok none, u) ∧ exec renders u = (.ok none, v) ∧
        exec renders w = (.ok none, u') ∧ exec copies u' = (.ok none, v') ∧
        ∀ p, v'.disk.get? p = v.disk.get? p := by
  intro w t t' copies renders
  have sound : w.disk.Sound := Disk.sound_of_entries (by decide +kernel) (by decide +kernel)
  have linkless : w.disk.Linkless := Disk.linkless_of_entries (by simp [w, World.start])
  have dests : Beside ["a", "out"] ["c", "out"] := ⟨by decide, by decide⟩
  have source : Beside ["s"] ["c", "out"] := ⟨by decide, by decide⟩
  have source' : Beside ["g", "t"] ["a", "out"] := ⟨by decide, by decide⟩
  have dest : (Path.absolutize ⟨"/"⟩ t.dest).place w.disk.cwd = ["a", "out"] := by decide +kernel
  have dest' : (Path.absolutize ⟨"/"⟩ t'.dest).place w.disk.cwd = ["c", "out"] := by decide +kernel
  have src : (Path.absolutize ⟨"s"⟩ t.src).place w.disk.cwd = ["s"] := by decide +kernel
  have src' : (Path.absolutize ⟨"/t"⟩ t'.src).place w.disk.cwd = ["g", "t"] := by decide +kernel
  have transfer : (Step.copy t).transfer? = some t := rfl
  have transfer' : (Step.template t').transfer? = some t' := rfl
  obtain ⟨given', v, ran⟩ := exists_exec_of_isOk (w := w) (m := copies >>= fun _ => renders)
    (by decide +kernel)
  obtain ⟨given, u, first, second⟩ := exists_of_exec_bind ran
  cases directive_of_exec_apply first
  cases directive_of_exec_apply second
  obtain ⟨u', v', early, late, -, same⟩ :=
    independent_steps_commute verbatim ⟨"s"⟩ ⟨"/t"⟩ ⟨"/"⟩ .empty transfer transfer' sound linkless
      (by rw [dest, dest']; exact dests) (by rw [src, dest']; exact source)
      (by rw [src', dest]; exact source') first second
  exact ⟨sound, linkless, rfl, dests, source, source', u, v, u', v', first, second, early, late, same⟩

end Run

end Scaffold
