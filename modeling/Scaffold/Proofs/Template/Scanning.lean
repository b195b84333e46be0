import Scaffold.Proofs.Template.Segment

/-!
# Scanning placeholders

A template of literal text and placeholders is a row of segments. Literal text holds no opening brace, so
the scanner takes it up to the next placeholder in one piece (`cutAtMarker_append`), and the blanks and the
line ends in it stay, since no sign next to a marker asks for trimming. Between the markers the scanner
finds the name and nothing else.

Texts that stand side by side are one text to the scanner, and an empty one is none. `merge` brings segments
into that form, and `scan_segments` says that the scanner finds the tokens of the merged segments. The lines
that it keeps for faults are left open.
-/

namespace Scaffold.Template

/-! ## Tokens of segments -/

namespace Segment

/-- The tokens of a segment. -/
def tokens : Segment → List Token
  | .literal text => [.text text]
  | .placeholder _ name _ => [.openPrint, .name name, .closePrint]

/-- A text as segments: an empty one is none. -/
def ofText (text : String) : List Segment := if text.toList.isEmpty then [] else [.literal text]

/-- The segments behind a text, with all text between two placeholders in one piece. -/
def merge (lead : String) : List Segment → List Segment
  | [] => ofText lead
  | .literal text :: rest => merge (lead ++ text) rest
  | .placeholder before name after :: rest =>
    ofText lead ++ .placeholder before name after :: merge "" rest

theorem wf_ofText {lead : String} (free : '\x7b' ∉ lead.toList) : ∀ s ∈ ofText lead, s.WF := by
  intro s member
  unfold ofText at member
  split at member
  · cases member
  · cases List.mem_singleton.1 member
    exact free

/-- Text stays free of opening braces, and placeholders stay as they are. -/
theorem wf_merge {segments : List Segment} (fine : ∀ s ∈ segments, s.WF) {lead : String}
    (free : '\x7b' ∉ lead.toList) : ∀ s ∈ merge lead segments, s.WF := by
  induction segments generalizing lead with
  | nil => exact wf_ofText free
  | cons first rest ih =>
    have later {lead : String} : '\x7b' ∉ lead.toList → ∀ s ∈ merge lead rest, s.WF :=
      ih fun s member => fine s (List.mem_cons_of_mem first member)
    have begins := fine first List.mem_cons_self
    cases first with
    | literal text => exact later (free_append free begins)
    | placeholder before name after =>
      intro s member
      rcases List.mem_append.1 member with inLead | member
      · exact wf_ofText free s inLead
      · rcases List.mem_cons.1 member with rfl | behind
        · exact begins
        · exact later (by decide) s behind

end Segment

/-! ## Outside of inserts -/

theorem marker?_of_ne {c : Char} (other : c ≠ '\x7b') (rest : List Char) : marker? (c :: rest) = none := by
  unfold marker?
  split
  · next same => exact absurd (List.cons.inj same).1 other
  · next same => exact absurd (List.cons.inj same).1 other
  · next same => exact absurd (List.cons.inj same).1 other
  · rfl

/-- Text without an opening brace is passed in front of anything. -/
theorem cutAtMarker_append {lead : List Char} (free : '\x7b' ∉ lead) (behind : List Char) :
    cutAtMarker (lead ++ behind) =
      (lead ++ (cutAtMarker behind).1, (cutAtMarker behind).2) := by
  induction lead with
  | nil => rfl
  | cons c rest ih =>
    have other : c ≠ '\x7b' := fun same => free (same ▸ List.mem_cons_self)
    rw [List.cons_append, cutAtMarker, marker?_of_ne other,
      ih fun later => free (List.mem_cons_of_mem c later)]
    rfl

/-- A text that does not begin with a sign asks for no trimming. -/
theorem trimSign_of_ne {c : Char} (minus : c ≠ '-') (plus : c ≠ '+') (rest : List Char) :
    trimSign (c :: rest) = (false, c :: rest) := by
  unfold trimSign
  split
  · next same => exact absurd (List.cons.inj same).1 minus
  · next same => exact absurd (List.cons.inj same).1 plus
  · rfl

/-! ## Names -/

theorem IsIdentifier.exists_cons {name : String} (fine : IsIdentifier name) :
    ∃ c rest, name.toList = c :: rest ∧ isNameStart c = true := by
  have starts := fine.starts
  cases written : name.toList with
  | nil =>
    rw [written] at starts
    cases starts
  | cons c rest =>
    rw [written] at starts
    exact ⟨c, rest, rfl, starts⟩

theorem not_isGap_of_isNameStart {c : Char} (starts : isNameStart c = true) : isGap c = false := by
  rw [Bool.eq_false_iff]
  intro gap
  simp only [isGap, Bool.or_eq_true, decide_eq_true_eq] at gap
  rcases gap with (((rfl | rfl) | rfl) | rfl) | rfl
  all_goals exact absurd starts (by decide)

theorem not_isDigit_of_isNameStart {c : Char} (starts : isNameStart c = true) : c.isDigit = false := by
  rw [Bool.eq_false_iff]
  intro digit
  simp only [Char.isDigit, Bool.and_eq_true, decide_eq_true_eq, ge_iff_le,
    UInt32.le_iff_toNat_le] at digit
  change (decide (c.val ≥ 'A'.val ∧ c.val ≤ 'Z'.val) ||
    decide (c.val ≥ 'a'.val) && decide (c.val ≤ 'z'.val) || decide (c = '_')) = true at starts
  simp only [Bool.or_eq_true, Bool.and_eq_true, decide_eq_true_eq, ge_iff_le,
    UInt32.le_iff_toNat_le] at starts
  rcases starts with (upper | lower) | rfl
  · exact absurd (Nat.le_trans upper.1 digit.2) (by decide)
  · exact absurd (Nat.le_trans lower.1 digit.2) (by decide)
  · exact absurd digit.2 (by decide)

/-- No sign begins as a name does. -/
theorem sign?_of_isNameStart {c : Char} (starts : isNameStart c = true) (rest : List Char) :
    sign? (c :: rest) = none := by
  unfold sign?
  split
  all_goals first
    | rfl
    | next same =>
      rw [(List.cons.inj same).1] at starts
      exact absurd starts (by decide)

/-- A name is read up to the first character that cannot be part of it. -/
theorem token?_name {name : String} (fine : IsIdentifier name) {behind : List Char}
    (ends : ∀ c ∈ behind.head?, isNamePart c = false) :
    token? (name.toList ++ behind) = .ok (.name name, behind) := by
  have parts : ∀ x ∈ name.toList, isNamePart x = true := List.all_eq_true.1 fine.goesOn
  have taken : (name.toList ++ behind).takeWhile isNamePart = name.toList := by
    rw [List.takeWhile_append_of_pos parts]
    cases behind with
    | nil => exact List.append_nil _
    | cons c rest => rw [List.takeWhile_cons_of_neg (by rw [ends c rfl]; decide), List.append_nil]
  have left : (name.toList ++ behind).dropWhile isNamePart = behind := by
    rw [List.dropWhile_append_of_pos parts]
    cases behind with
    | nil => rfl
    | cons c rest => rw [List.dropWhile_cons_of_neg (by rw [ends c rfl]; decide)]
  obtain ⟨first, more, written, starts⟩ := fine.exists_cons
  have noQuote : ¬ (decide (first = '"') || decide (first = '\'')) = true := by
    simp only [Bool.or_eq_true, decide_eq_true_eq]
    rintro (rfl | rfl)
    all_goals exact absurd starts (by decide)
  have noDigit : ¬ first.isDigit = true := by
    rw [not_isDigit_of_isNameStart starts]
    exact Bool.false_ne_true
  rw [written, List.cons_append] at taken left ⊢
  rw [token?, sign?_of_isNameStart starts]
  dsimp only
  rw [if_neg noQuote, if_neg noDigit, if_pos starts, taken, left, ← written, String.ofList_toList]

/-! ## Scanning without lines -/

variable {l : Lexemes} {tokens : List Token} {steps : Nat}

/-- The scan ended well, with these tokens on whatever lines. -/
structure Lexemes.Holds (l : Lexemes) (tokens : List Token) : Prop where
  tokens : l.tokens.map Lexeme.token = tokens
  fault : l.fault = none

theorem Lexemes.Holds.cons (holds : l.Holds tokens) (token : Token) (line : Nat) :
    (l.cons token line).Holds (token :: tokens) :=
  ⟨congrArg (token :: ·) holds.tokens, holds.fault⟩

theorem Lexemes.Holds.consText (holds : l.Holds tokens) (text : String) (line : Nat) :
    (l.consText text.toList line).Holds ((Segment.ofText text).flatMap Segment.tokens ++ tokens) := by
  unfold Lexemes.consText Segment.ofText
  split
  · exact holds
  · have read := holds.cons (.text text) line
    rwa [String.ofList_toList]

/-- In so many steps the scanner finds the tokens, whatever the line it is on. -/
def Scans (steps : Nat) (mode : Mode) (source : List Char) (tokens : List Token) : Prop :=
  ∀ line, (scanFrom steps mode line source).Holds tokens

/-- Text up to the end is one token, or none. -/
theorem scans_text {lead : String} (free : '\x7b' ∉ lead.toList) (steps : Nat) :
    Scans (steps + 1) (.outside false) lead.toList ((Segment.ofText lead).flatMap Segment.tokens) := by
  intro line
  have cut : cutAtMarker lead.toList = (lead.toList, none) := by
    have whole := cutAtMarker_append free []
    rwa [List.append_nil, cutAtMarker, List.append_nil] at whole
  have done : Lexemes.done.Holds [] := ⟨rfl, rfl⟩
  have read := done.consText lead line
  rw [List.append_nil] at read
  rw [scanFrom]
  simp only [Bool.false_eq_true, if_false, cut, Nat.sub_self, Nat.add_zero]
  exact read

/-- So is text in front of a print insert. -/
theorem Scans.openPrint {lead : String} (free : '\x7b' ∉ lead.toList) {source : List Char}
    (plain : trimSign source = (false, source)) (inner : Scans steps (.inside .print 0) source tokens) :
    Scans (steps + 1) (.outside false) (lead.toList ++ '\x7b' :: '\x7b' :: source)
      ((Segment.ofText lead).flatMap Segment.tokens ++ .openPrint :: tokens) := by
  intro line
  have cut : cutAtMarker (lead.toList ++ '\x7b' :: '\x7b' :: source) =
      (lead.toList, some (.print, source)) := by
    rw [cutAtMarker_append free, cutAtMarker, marker?, List.append_nil]
  rw [scanFrom]
  simp only [Bool.false_eq_true, if_false, cut, plain, Nat.sub_self, Nat.add_zero]
  exact ((inner _).cons .openPrint _).consText lead line

section Inside

variable {gap : List Char} (blank : ∀ x ∈ gap, isGap x = true)

include blank

/-- Behind blanks, a name inside of a print insert is a token. -/
theorem Scans.name {name : String} (fine : IsIdentifier name) {behind : List Char}
    (ends : ∀ c ∈ behind.head?, isNamePart c = false)
    (onwards : Scans steps (.inside .print 0) behind tokens) :
    Scans (steps + 1) (.inside .print 0) (gap ++ (name.toList ++ behind)) (.name name :: tokens) := by
  intro line
  obtain ⟨first, more, written, starts⟩ := fine.exists_cons
  have skipped : (gap ++ (name.toList ++ behind)).dropWhile isGap = name.toList ++ behind := by
    rw [List.dropWhile_append_of_pos blank, written, List.cons_append,
      List.dropWhile_cons_of_neg (by rw [not_isGap_of_isNameStart starts]; decide)]
  have filled : (name.toList ++ behind).isEmpty = false := by
    rw [written]
    rfl
  have opens : Insert.print.close? (name.toList ++ behind) = none := by
    rw [written, List.cons_append]
    unfold Insert.close?
    split
    all_goals first
      | rfl
      | next same =>
        rw [(List.cons.inj same).1] at starts
        exact absurd starts (by decide)
  rw [scanFrom]
  simp only [skipped, filled, Bool.false_eq_true, if_false, if_true, opens, token?_name fine ends]
  exact (onwards _).cons (.name name) _

/-- Behind blanks, the closing marker leads out of the insert. -/
theorem Scans.closePrint {rest : List Char} (behind : Scans steps (.outside false) rest tokens) :
    Scans (steps + 1) (.inside .print 0) (gap ++ '\x7d' :: '\x7d' :: rest) (.closePrint :: tokens) := by
  intro line
  have skipped : (gap ++ '\x7d' :: '\x7d' :: rest).dropWhile isGap = '\x7d' :: '\x7d' :: rest := by
    rw [List.dropWhile_append_of_pos blank, List.dropWhile_cons_of_neg (by decide)]
  rw [scanFrom]
  simp only [skipped, List.isEmpty_cons, Bool.false_eq_true, if_false, if_true, Insert.close?]
  exact (behind _).cons .closePrint _

end Inside

/-! ## Scanning segments -/

theorem isNamePart_of_isGap {c : Char} (gap : isGap c = true) : isNamePart c = false := by
  simp only [isGap, Bool.or_eq_true, decide_eq_true_eq] at gap
  rcases gap with (((rfl | rfl) | rfl) | rfl) | rfl
  all_goals decide

/-- Blanks in front of a name are no sign. -/
theorem trimSign_blanks {gap : List Char} (blank : ∀ x ∈ gap, isGap x = true) {name : String}
    (fine : IsIdentifier name) (behind : List Char) :
    trimSign (gap ++ (name.toList ++ behind)) = (false, gap ++ (name.toList ++ behind)) := by
  cases gap with
  | nil =>
    obtain ⟨first, more, written, starts⟩ := fine.exists_cons
    rw [List.nil_append, written, List.cons_append, trimSign_of_ne]
    · rintro rfl
      exact absurd starts (by decide)
    · rintro rfl
      exact absurd starts (by decide)
  | cons c rest =>
    have first := blank c List.mem_cons_self
    rw [List.cons_append, trimSign_of_ne]
    · rintro rfl
      exact absurd first (by decide)
    · rintro rfl
      exact absurd first (by decide)

/-- A placeholder takes three steps: into the insert, over the name, and out again. -/
theorem Scans.placeholder {before name after : String} (fine : (Segment.placeholder before name after).WF)
    {lead : String} (free : '\x7b' ∉ lead.toList) {rest : List Char}
    (behind : Scans steps (.outside false) rest tokens) :
    Scans (steps + 3) (.outside false)
      (lead.toList ++ ((Segment.placeholder before name after).source.toList ++ rest))
      ((Segment.ofText lead).flatMap Segment.tokens ++
        ((Segment.placeholder before name after).tokens ++ tokens)) := by
  obtain ⟨lefts, ⟨identifier, _⟩, rights⟩ := fine
  have left := List.all_eq_true.1 lefts
  have right := List.all_eq_true.1 rights
  have ends : ∀ c ∈ (after.toList ++ '\x7d' :: '\x7d' :: rest).head?, isNamePart c = false := by
    intro c first
    cases blanks : after.toList with
    | nil =>
      rw [blanks] at first
      cases first
      decide
    | cons d more =>
      rw [blanks] at first right
      cases first
      exact isNamePart_of_isGap (right _ List.mem_cons_self)
  have written : (Segment.placeholder before name after).source.toList ++ rest =
      '\x7b' :: '\x7b' :: (before.toList ++ (name.toList ++ (after.toList ++ '\x7d' :: '\x7d' :: rest))) := by
    simp only [Segment.source, String.toList_append, List.append_assoc]
    rfl
  rw [written]
  exact ((behind.closePrint right).name left identifier ends).openPrint free
    (trimSign_blanks left identifier _)

/-- The scanner finds the tokens of the merged segments. The induction is over the segments, with the text
that has been gathered in front of them. -/
theorem scans_segments {segments : List Segment} (fine : ∀ s ∈ segments, s.WF) (lead : String)
    (free : '\x7b' ∉ lead.toList) (enough : (Segment.sources segments).length < steps) :
    Scans steps (.outside false) (lead ++ Segment.sources segments).toList
      ((Segment.merge lead segments).flatMap Segment.tokens) := by
  induction segments generalizing lead steps with
  | nil =>
    obtain ⟨steps, rfl⟩ : ∃ n, steps = n + 1 := ⟨steps - 1, by omega⟩
    have whole : lead ++ Segment.sources [] = lead := String.append_empty
    rw [whole]
    exact scans_text free steps
  | cons s rest ih =>
    have later : ∀ s ∈ rest, s.WF := fun t member => fine t (List.mem_cons_of_mem s member)
    have first := fine s List.mem_cons_self
    rw [Segment.sources_cons, String.length_append] at enough
    rw [Segment.sources_cons]
    cases s with
    | literal text =>
      rw [Segment.source, ← String.append_assoc]
      exact ih later (lead ++ text) (Segment.free_append free first) (by omega)
    | placeholder before name after =>
      have marks : 4 ≤ (Segment.placeholder before name after).source.length := by
        simp only [Segment.source, String.length_append]
        have opening : "\x7b\x7b".length = 2 := rfl
        have closing : "\x7d\x7d".length = 2 := rfl
        omega
      obtain ⟨left, rfl⟩ : ∃ n, steps = n + 3 := ⟨steps - 3, by omega⟩
      have behind := @ih left later "" (by decide) (by omega)
      rw [String.empty_append] at behind
      rw [String.toList_append, String.toList_append, Segment.merge, List.flatMap_append,
        List.flatMap_cons]
      exact behind.placeholder first free

/-- **Scanning segments.** The scanner reads a row of segments to its end, and finds the tokens of the
merged segments. -/
theorem scan_segments {segments : List Segment} (fine : ∀ s ∈ segments, s.WF) :
    (scan (Segment.sources segments).toList).Holds ((Segment.merge "" segments).flatMap Segment.tokens) := by
  have enough : (Segment.sources segments).length <
      2 * (Segment.sources segments).toList.length + 2 := by
    rw [String.length_toList]
    omega
  have scans := scans_segments fine "" (by decide) enough
  rw [String.empty_append] at scans
  exact scans 1

end Scaffold.Template
