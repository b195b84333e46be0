import Scaffold.Proofs.Results
import Scaffold.Proofs.Template.Reading
import Scaffold.Template.Render

/-!
# Running placeholders

The statement of a segment puts a text behind what has been printed, and leaves the state as it is otherwise.
The text depends on the names and the escaping of the state alone (`Segment.printed?`), so the statements of a
row print the texts of its segments one behind the other (`runEach_segments`), and nothing that is printed is
looked at again. Merging the texts of a row does not change what it prints.

Whatever a setting drops at the end of a template is at the end of its last text (`dropLineEnd_append`), so
what is left is a row of segments again, and the renderer does what its documentation says
(`documented_render`).
-/

namespace Scaffold.Template

/-- The state with a text printed behind all others. -/
def Machine.printed (m : Machine) (text : String) : Machine := { m with out := m.out ++ text }

theorem Machine.printed_printed (m : Machine) (s t : String) : (m.printed s).printed t = m.printed (s ++ t) :=
  congrArg (fun out => { m with out }) String.append_assoc

/-! ## The printed text of segments -/

namespace Segment

/-- The text that a state prints for a segment, if its value can be escaped. -/
def printed? (m : Machine) : Segment → Option String
  | .literal text => some text
  | .placeholder _ name _ => (Value.escaped m.escaping ((m.lookup? name).getD .undefined)).toOption

/-- The text that a state prints for a row of segments. -/
def printedRow? (m : Machine) : List Segment → Option String
  | [] => some ""
  | s :: rest => (s.printed? m).bind fun text => (printedRow? m rest).map (text ++ ·)

/-- What has been printed does not matter. -/
theorem printed?_printed (m : Machine) (text : String) (s : Segment) :
    s.printed? (m.printed text) = s.printed? m := by
  cases s <;> rfl

theorem printedRow?_printed (m : Machine) (text : String) (segments : List Segment) :
    printedRow? (m.printed text) segments = printedRow? m segments := by
  induction segments with
  | nil => rfl
  | cons s rest ih => rw [printedRow?, printedRow?, printed?_printed, ih]

theorem printedRow?_ofText (m : Machine) (lead : String) (rest : List Segment) :
    printedRow? m (ofText lead ++ rest) = (printedRow? m rest).map (lead ++ ·) := by
  unfold ofText
  split
  · next blank =>
    have none : lead = "" := String.toList_eq_nil_iff.1 (List.isEmpty_iff.1 blank)
    rw [none, List.nil_append]
    simp only [String.empty_append, Option.map_id']
  · rfl

/-- Merging does not change what is printed. -/
theorem printedRow?_merge (m : Machine) (lead : String) (segments : List Segment) :
    printedRow? m (merge lead segments) = (printedRow? m segments).map (lead ++ ·) := by
  induction segments generalizing lead with
  | nil =>
    rw [merge, ← List.append_nil (ofText lead)]
    exact printedRow?_ofText m lead []
  | cons s rest ih =>
    cases s with
    | literal text =>
      rw [merge, ih, printedRow?, printed?, Option.bind_some, Option.map_map]
      simp only [Function.comp_def, String.append_assoc]
    | placeholder before name after =>
      rw [merge, printedRow?_ofText, printedRow?, printedRow?, ih]
      simp only [String.empty_append, Option.map_id']

end Segment

/-! ## Running

Where there are no cells, a value shows what it is. -/

section Running

variable {segments : List Segment} (invoke : Invoke) {m : Machine} (noCells : m.cells = #[])

include noCells

/-- Printing a value puts its escaped text behind what has been printed. -/
theorem printValue_toOption (v : Value) (line : Nat) :
    ((printValue v line).run m).toOption =
      (Value.escaped m.escaping v).toOption.map fun text => ((), m.printed text) := by
  have settled : m.settle v = v := by
    rw [Machine.settle, noCells]
    rfl
  have shown : (printValue v line).run m =
      (Eval.onLine line (Value.escaped m.escaping (m.settle v)) >>= Eval.emit).run m := rfl
  rw [shown, settled]
  cases Value.escaped m.escaping v <;> rfl

/-- The statement of a segment prints the text of the segment, and goes on. -/
theorem run_segment {s : Segment} {stmt : Stmt} (read : s.ReadAs stmt) :
    ((stmt.run invoke).run m).toOption = (s.printed? m).map fun text => (.on, m.printed text) := by
  cases read with
  | literal => rfl
  | placeholder before name after line =>
    have looked : ((Stmt.print (.name name line)).run invoke).run m =
        (printValue ((m.lookup? name).getD .undefined) line).run m >>= fun r => pure (.on, r.2) := rfl
    rw [looked, toOption_bind, printValue_toOption noCells, Segment.printed?, Option.bind_map,
      Option.map_eq_bind]
    rfl

/-- The statements of segments print the texts of the segments one behind the other. -/
theorem runEach_segments {stmts : List Stmt} (read : List.Forall₂ Segment.ReadAs segments stmts) :
    ((Stmt.runEach invoke stmts).run m).toOption =
      (Segment.printedRow? m segments).map fun text => (.on, m.printed text) := by
  induction read generalizing m with
  | nil => exact congrArg (fun out => some (Flow.on, { m with out })) String.append_empty.symm
  | @cons s stmt rest stmts first _ ih =>
    rw [Stmt.runEach, StateT.run_bind, toOption_bind, run_segment invoke noCells first,
      Segment.printedRow?]
    cases s.printed? m with
    | none => rfl
    | some text =>
      rw [Option.map_some, Option.bind_some, Option.bind_some]
      dsimp only
      rw [@ih (m.printed text) noCells, Segment.printedRow?_printed, Option.map_map]
      simp only [Function.comp_def, Machine.printed_printed]

end Running

/-! ## The end of a template -/

namespace Settings

/-- Nothing in front of a closing brace is at the end. -/
theorem dropLineEnd_append (lead behind : List Char) :
    kept.dropLineEnd (lead ++ '\x7d' :: behind) = lead ++ '\x7d' :: kept.dropLineEnd behind := by
  induction lead with
  | nil => rw [List.nil_append, List.nil_append, kept.dropLineEnd] <;> simp
  | cons c rest ih =>
    rw [List.cons_append, kept.dropLineEnd, ih, List.cons_append] <;> simp [List.append_eq_cons_iff]

/-- A line end is dropped, and nothing in front of it unless it is a part of the line end. -/
theorem dropLineEnd_concat {text : List Char} (other : text.getLast? ≠ some '\r') :
    kept.dropLineEnd (text ++ ['\n']) = text := by
  induction text with
  | nil => rfl
  | cons c rest ih =>
    cases rest with
    | nil =>
      have differs : c ≠ '\r' := fun same => other (congrArg some same)
      rw [List.cons_append, List.nil_append, kept.dropLineEnd] <;> simp [kept.dropLineEnd, differs]
    | cons d more =>
      rw [List.getLast?_cons_cons] at other
      rw [List.cons_append, kept.dropLineEnd, ih other] <;> simp

theorem mem_of_mem_dropLineEnd {c : Char} {text : List Char} (member : c ∈ kept.dropLineEnd text) :
    c ∈ text := by
  fun_induction kept.dropLineEnd text <;> grind

variable (settings : Settings)

theorem mem_of_mem_kept {c : Char} {text : List Char} (member : c ∈ settings.kept text) : c ∈ text := by
  unfold kept at member
  split at member
  · exact member
  · exact mem_of_mem_dropLineEnd member

/-- What stands in front of an insert is kept, and the insert is. -/
theorem kept_placeholder (lead before name after : String) (rest : List Char) :
    settings.kept (lead.toList ++ ((Segment.placeholder before name after).source.toList ++ rest)) =
      lead.toList ++ ((Segment.placeholder before name after).source.toList ++ settings.kept rest) := by
  have written (rest : List Char) :
      lead.toList ++ ((Segment.placeholder before name after).source.toList ++ rest) =
        (lead ++ ("\x7b\x7b" ++ before ++ name ++ after ++ "\x7d")).toList ++ '\x7d' :: rest := by
    simp [Segment.source]
  rw [written, written]
  unfold kept
  split
  · rfl
  · exact dropLineEnd_append _ rest

/-- What is kept of a text is one segment. -/
theorem wf_kept {text : String} (free : '\x7b' ∉ text.toList) :
    ∀ s ∈ [Segment.literal (String.ofList (settings.kept text.toList))], s.WF := by
  refine List.forall_mem_singleton.2 ?_
  rw [Segment.WF, String.toList_ofList]
  exact fun brace => free (settings.mem_of_mem_kept brace)

theorem kept_literal (text : String) : settings.kept text.toList =
    (Segment.sources [.literal (String.ofList (settings.kept text.toList))]).toList := by
  rw [Segment.sources_singleton, Segment.source, String.toList_ofList]

/-- What is kept behind an insert is a row of segments with the insert. -/
theorem kept_row (lead before name after : String) {source : String} {row : List Segment}
    (kept : settings.kept source.toList = (Segment.sources row).toList) :
    settings.kept (lead ++ ((Segment.placeholder before name after).source ++ source)).toList =
      (Segment.sources (.literal lead :: .placeholder before name after :: row)).toList := by
  rw [String.toList_append, String.toList_append, kept_placeholder, kept, Segment.sources_cons,
    Segment.sources_cons, String.toList_append, String.toList_append, Segment.source]

/-- What is kept of a row of segments is one. -/
theorem exists_kept {segments : List Segment} (fine : ∀ s ∈ segments, s.WF) {lead : String}
    (free : '\x7b' ∉ lead.toList) :
    ∃ row, (∀ s ∈ row, Segment.WF s) ∧
      settings.kept (lead ++ Segment.sources segments).toList = (Segment.sources row).toList := by
  induction segments generalizing lead with
  | nil =>
    have whole : lead ++ Segment.sources [] = lead := String.append_empty
    rw [whole]
    exact ⟨_, settings.wf_kept free, settings.kept_literal lead⟩
  | cons s rest ih =>
    have later : ∀ s ∈ rest, s.WF := fun t member => fine t (List.mem_cons_of_mem s member)
    have first := fine s List.mem_cons_self
    rw [Segment.sources_cons]
    cases s with
    | literal text =>
      rw [Segment.source, ← String.append_assoc]
      exact ih later (Segment.free_append free first)
    | placeholder before name after =>
      obtain ⟨row, fineRow, kept⟩ := @ih later "" (by decide)
      rw [String.empty_append] at kept
      exact ⟨.literal lead :: .placeholder before name after :: row,
        Segment.wf_row free first fineRow, settings.kept_row lead before name after kept⟩

end Settings

/-! ## Rendering -/

section Rendering

variable {settings : Settings} {context : Context} {source : String} {row : List Segment}

/-- **Rendering segments.** What is kept of the source is printed segment by segment, in the state at the
beginning. -/
theorem render_row (fine : ∀ s ∈ row, s.WF)
    (kept : settings.kept source.toList = (Segment.sources row).toList) :
    (render settings source context).toOption =
      Segment.printedRow? (.start settings.textEscaping ⟨[], []⟩ context) row := by
  obtain ⟨stmts, read, isTree⟩ :=
    ofLexemes_segments (Segment.wf_merge fine (by decide)) (scan_segments fine)
  have isRead : Tree.read settings source = .ok ⟨stmts, []⟩ := by
    rw [Tree.read, kept, isTree]
  have shown : render settings source context = Tree.print settings.textEscaping ⟨stmts, []⟩ context := by
    rw [render, isRead]
    rfl
  have ran : ((Stmt.runEach (invokeUpTo maxDepth) stmts).run
      (.start settings.textEscaping ⟨stmts, []⟩ context)).toOption = _ := runEach_segments _ rfl read
  rw [shown, Tree.print, toOption_map, ran, Segment.printedRow?_merge, Option.map_map, Option.map_map]
  have begins (text : String) :
      ((Machine.start settings.textEscaping ⟨stmts, []⟩ context).printed ("" ++ text)).out = text :=
    String.empty_append.trans String.empty_append
  simp only [Function.comp_def, begins, Option.map_id']
  rfl

end Rendering

theorem lookup_map_ofJson (name : String) (bindings : List (String × Json)) :
    (bindings.map fun (n, j) => (n, Value.ofJson j)).lookup name =
      (bindings.lookup name).map Value.ofJson := by
  induction bindings with
  | nil => rfl
  | cons binding rest ih =>
    obtain ⟨n, j⟩ := binding
    rw [List.map_cons, List.lookup_cons, List.lookup_cons, ih]
    split <;> rfl

/-- At the beginning a name has the value that the context binds it to, also if a function has that name. -/
theorem lookup?_start {escaping : Value.Escaping} {tree : Tree} {context : Context} {name : String} {j : Json}
    (bound : context.get? name = some j) :
    (Machine.start escaping tree context).lookup? name = some (.ofJson j) := by
  have inContext : (Machine.start escaping tree context).context.lookup name = some (.ofJson j) := by
    have found : context.bindings.lookup name = some j := bound
    rw [Machine.start, lookup_map_ofJson, found, Option.map_some]
  have inFrame : (Machine.start escaping tree context).lookupIn? name
      { Frame.empty with backing := .context } = some (.ofJson j) := inContext
  have frames : (Machine.start escaping tree context).frames = [{ Frame.empty with backing := .context }] :=
    rfl
  rw [Machine.lookup?, frames, List.findSome?_cons, inFrame]
  rfl

/-- Text alone is printed as it is kept. -/
theorem render_text {settings : Settings} {context : Context} {source text : String}
    (free : '\x7b' ∉ text.toList) (kept : settings.kept source.toList = text.toList) :
    render settings source context = .ok text := by
  have fine : ∀ s ∈ [Segment.literal text], s.WF := List.forall_mem_singleton.2 free
  have whole : text.toList = (Segment.sources [.literal text]).toList := by
    rw [Segment.sources_singleton, Segment.source]
  refine eq_ok_of_toOption ((render_row fine (kept.trans whole)).trans ?_)
  exact congrArg some String.append_empty

/-- A placeholder alone is printed as it is in any row. -/
theorem render_placeholder {settings : Settings} {context : Context} {before name after : String}
    (fine : (Segment.placeholder before name after).WF) :
    (render settings (Segment.placeholder before name after).source context).toOption =
      (Segment.placeholder before name after).printed? (.start settings.textEscaping ⟨[], []⟩ context) := by
  have nothing : settings.kept [] = [] := by
    unfold Settings.kept
    split <;> rfl
  have kept := settings.kept_placeholder "" before name after []
  rw [nothing, List.append_nil] at kept
  have whole : (Segment.placeholder before name after).source.toList =
      (Segment.sources [.placeholder before name after]).toList := by
    rw [Segment.sources_singleton]
  have fineRow : ∀ s ∈ [Segment.placeholder before name after], s.WF := List.forall_mem_singleton.2 fine
  rw [render_row fineRow (kept.trans whole), Segment.printedRow?, Segment.printedRow?]
  simp only [Option.map_some, String.append_empty, Option.bind_fun_some]

/-- **The renderer keeps to its documentation.** -/
theorem documented_render : Engine.Documented render := by
  refine ⟨?text, ?lineEnd, ?insert, ?parts⟩
  case text =>
    intro settings context text keeps free
    have kept : settings.kept text.toList = text.toList := by
      rw [Settings.kept, keeps]
      rfl
    exact render_text free kept
  case lineEnd =>
    intro settings context text drops free other
    have kept : settings.kept (text ++ "\n").toList = text.toList := by
      rw [Settings.kept, drops, String.toList_append]
      exact Settings.dropLineEnd_concat other
    exact render_text free kept
  case insert =>
    intro settings context before name after text printed fine bound escaped
    refine eq_ok_of_toOption ((render_placeholder fine).trans ?_)
    rw [Segment.printed?, lookup?_start bound]
    exact congrArg Except.toOption escaped
  case parts =>
    intro settings context lead before name after printed out rest free fine fineRest prints goesOn
    obtain ⟨row, fineRow, kept⟩ := @Settings.exists_kept settings rest fineRest "" (by decide)
    rw [String.empty_append] at kept
    have first := (render_placeholder fine).symm.trans (congrArg Except.toOption prints)
    have others := (render_row fineRow kept).symm.trans (congrArg Except.toOption goesOn)
    refine eq_ok_of_toOption ((render_row (Segment.wf_row free fine fineRow)
      (settings.kept_row lead before name after kept)).trans ?_)
    rw [Segment.printedRow?, Segment.printedRow?, Segment.printed?, Option.bind_some, first, others]
    rfl

end Scaffold.Template
