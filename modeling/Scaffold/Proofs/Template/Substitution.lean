import Scaffold.Proofs.Template.Running
import Scaffold.Renderer

/-!
# Substitution

A template of literal text and placeholders is rendered as its text as it stands, and in the place of each
placeholder the text that the context binds its name to. An engine does so for any template of the kind once
nothing is escaped and the line end at the end is kept (`Engine.Documented.engine_row`), and these are the
settings of the renderer (`renderer_substitutes_literally`). Under other settings the same engine escapes the
bound texts, or drops the line end.
-/

namespace Scaffold.Template

variable {engine : Engine} {context : Context} {segments : List Segment} {texts : List String}

/-- A text that is not escaped is printed as it stands. The induction is over the segments, with the text that
has been gathered in front of them: a text is rendered with its neighbours, and only an insert parts them. -/
theorem Engine.Documented.engine_row (documented : engine.Documented) {settings : Settings}
    (plain : settings.textEscaping = .plain) (keeps : settings.keepsLineEnd = true)
    (fine : ∀ s ∈ segments, s.WF) (stand : List.Forall₂ (Segment.StandsFor context) segments texts)
    {lead : String} (free : '\x7b' ∉ lead.toList) :
    engine settings (lead ++ Segment.sources segments) context = .ok (lead ++ String.join texts) := by
  induction stand generalizing lead with
  | nil =>
    have whole : lead ++ Segment.sources [] = lead := String.append_empty
    have joined : lead ++ String.join [] = lead := String.append_empty
    rw [whole, joined]
    exact documented.text context keeps free
  | @cons s text rest texts first others ih =>
    obtain ⟨fineFirst, fineRest⟩ := List.forall_mem_cons.1 fine
    rw [Segment.sources_cons, String.join_cons]
    cases first with
    | literal =>
      rw [Segment.source, ← String.append_assoc, ← String.append_assoc]
      exact ih fineRest (Segment.free_append free fineFirst)
    | placeholder before name after bound =>
      have unescaped : Value.escaped settings.textEscaping (.str text false) = .ok text := by
        rw [plain]
        rfl
      have goesOn := @ih fineRest "" (by decide)
      rw [String.empty_append, String.empty_append] at goesOn
      exact documented.parts settings context free fineFirst fineRest
        (documented.insert settings context fineFirst bound unescaped) goesOn

-- Otherwise the text is escaped, or the line end dropped.
example (documented : engine.Documented) :
    engine ⟨fun _ => .page, true⟩ (Segment.placeholder "" "x" "").source ⟨[("x", .str "<")], by decide⟩ =
      .ok "&lt;" :=
  documented.insert _ _ (by decide) rfl (by decide)

example (documented : engine.Documented) : engine ⟨fun _ => .plain, false⟩ ("a" ++ "\n") context = .ok "a" :=
  documented.lineEnd context rfl (by decide) (by decide)

end Scaffold.Template
