import Mathlib.Data.List.Basic
import TypedClient.Proofs.Outcome
import TypedClient.Proofs.Text.Pieces
import TypedClient.Wire.UriTemplate

namespace TypedClient.Wire.UriTemplate

/-- A piece of a template: a character that stands for itself, or a name in braces. -/
inductive Piece
  | literal (c : Char)
  | expression (name : List Char)

namespace Piece

def written : Piece → List Char
  | literal c => [c]
  | expression name => '{' :: name ++ ['}']

def expanded (lookup : String → Option String) : Piece → List Char
  | literal c => [c]
  | expression name => value lookup name

/-- A name has at least one character, and only letters, digits, underscores and dots. -/
def IsName (name : List Char) : Prop := name ≠ [] ∧ ∀ c ∈ name, isNameChar c

/-- A literal other than a brace, or an expression with a name. -/
def IsSimple : Piece → Prop
  | literal c => c ≠ '{' ∧ c ≠ '}'
  | expression name => IsName name

/-- A literal other than an opening brace, or an expression with a name. -/
def IsPlain : Piece → Prop
  | literal c => c ≠ '{'
  | expression name => IsName name

theorem isSimple_iff {p : Piece} : p.IsSimple ↔ p.IsPlain ∧ p ≠ literal '}' := by
  cases p <;> simp [IsSimple, IsPlain]

end Piece

open Piece

def text (ps : List Piece) : List Char := ps.flatMap written

def HasExpression (ps : List Piece) : Prop := ∃ name, expression name ∈ ps

/-- Pieces whose text is a template: a closing brace stands alone only before an expression. -/
structure Accepted (ps : List Piece) : Prop where
  plain : ∀ p ∈ ps, p.IsPlain
  followed : ∀ before after, ps = before ++ literal '}' :: after → HasExpression after

/-- Texts of literals other than braces and of expressions. -/
def IsSimpleTemplate (template : String) : Prop :=
  ∃ ps, (∀ p ∈ ps, p.IsSimple) ∧ template.toList = text ps

/-- Texts in which a closing brace stands alone before an expression. -/
def HasStrayBrace (template : String) : Prop :=
  ∃ ps, Accepted ps ∧ literal '}' ∈ ps ∧ template.toList = text ps

theorem hasExpression_cons_literal {c : Char} {ps : List Piece} :
    HasExpression (literal c :: ps) ↔ HasExpression ps := by
  simp [HasExpression]

theorem hasExpression_cons_expression (name : List Char) (ps : List Piece) :
    HasExpression (expression name :: ps) := ⟨name, List.mem_cons_self⟩

theorem accepted_nil : Accepted [] where
  plain := by simp
  followed := by simp

theorem accepted_cons_literal {c : Char} {ps : List Piece} :
    Accepted (literal c :: ps) ↔ c ≠ '{' ∧ (c = '}' → HasExpression ps) ∧ Accepted ps := by
  constructor
  · intro h
    refine ⟨h.plain (literal c) List.mem_cons_self, ?_, fun p hp => ?_, fun before after he => ?_⟩
    · rintro rfl
      exact h.followed [] ps rfl
    · exact h.plain p (List.mem_cons_of_mem _ hp)
    · exact h.followed (literal c :: before) after (by rw [he, List.cons_append])
  · rintro ⟨hc, hlast, hps⟩
    refine ⟨fun p hp => ?_, fun before after he => ?_⟩
    · rcases List.mem_cons.1 hp with rfl | hp
      · exact hc
      · exact hps.plain p hp
    · cases before with
      | nil =>
        obtain ⟨hc', rfl⟩ := List.cons.inj he
        exact hlast (literal.inj hc')
      | cons b before => exact hps.followed before after (List.cons.inj he).2

theorem accepted_cons_expression {name : List Char} {ps : List Piece} :
    Accepted (expression name :: ps) ↔ IsName name ∧ Accepted ps := by
  constructor
  · intro h
    refine ⟨h.plain (expression name) List.mem_cons_self, fun p hp => ?_, fun before after he => ?_⟩
    · exact h.plain p (List.mem_cons_of_mem _ hp)
    · exact h.followed (expression name :: before) after (by rw [he, List.cons_append])
  · rintro ⟨hname, hps⟩
    refine ⟨fun p hp => ?_, fun before after he => ?_⟩
    · rcases List.mem_cons.1 hp with rfl | hp
      · exact hname
      · exact hps.plain p hp
    · cases before with
      | nil => cases he
      | cons b before => exact hps.followed before after (List.cons.inj he).2

theorem nameFault?_eq_none {name : List Char} : nameFault? name = none ↔ IsName name := by
  unfold nameFault? IsName
  by_cases h : name = []
  · simp [h]
  · by_cases hall : ∀ c ∈ name, isNameChar c <;> simp [h, hall]

theorem closing_not_mem {name : List Char} (h : IsName name) : '}' ∉ name :=
  fun hmem => absurd (h.2 _ hmem) (by decide)

variable (lookup : String → Option String)

/-- A name is collected up to the brace that closes it. -/
theorem expandFrom_name {read name rest : List Char} (h : '}' ∉ name) :
    expandFrom lookup (.name read) (name ++ '}' :: rest) =
      match nameFault? (read ++ name) with
      | some fault => .error fault
      | none => (expandFrom lookup (.literal false) rest).map (value lookup (read ++ name) ++ ·) := by
  induction name generalizing read with
  | nil =>
    rw [List.append_nil, List.nil_append, expandFrom]
    exact if_pos rfl
  | cons c name ih =>
    rw [List.mem_cons, not_or] at h
    rw [List.cons_append, expandFrom, if_neg (Ne.symm h.1), ih h.2, List.append_assoc,
      List.singleton_append]

theorem expandFrom_text {closed : Bool} {ps : List Piece} (h : Accepted ps)
    (hclosed : closed → HasExpression ps) :
    expandFrom lookup (.literal closed) (text ps) = .ok (ps.flatMap (expanded lookup)) := by
  induction ps generalizing closed with
  | nil =>
    have : closed = false := by
      by_contra hne
      obtain ⟨name, hname⟩ := hclosed (by simpa using hne)
      cases hname
    simp [this, text, expandFrom]
  | cons p ps ih =>
    cases p with
    | literal c =>
      obtain ⟨hc, hlast, hps⟩ := accepted_cons_literal.1 h
      have hnext : (closed || c == '}') = true → HasExpression ps := by
        intro hor
        rw [Bool.or_eq_true, beq_iff_eq] at hor
        exact hor.elim (fun hcl => hasExpression_cons_literal.1 (hclosed hcl)) hlast
      have hrest := ih hps hnext
      rw [text, List.flatMap_cons, written, List.singleton_append, expandFrom, if_neg hc]
      rw [text] at hrest
      rw [hrest, List.flatMap_cons, expanded]
      rfl
    | expression name =>
      obtain ⟨hname, hps⟩ := accepted_cons_expression.1 h
      have hrest : expandFrom lookup (.literal false) (ps.flatMap written) =
          .ok (ps.flatMap (expanded lookup)) := ih hps (by simp)
      have htext : text (expression name :: ps) = '{' :: (name ++ '}' :: ps.flatMap written) := by
        simp [text, written]
      rw [htext, expandFrom, if_pos rfl, expandFrom_name lookup (closing_not_mem hname),
        List.nil_append, nameFault?_eq_none.2 hname, hrest]
      rfl

/-- What is left of a template at a position: pieces, or the end of a name and pieces. -/
def Remains : Position → List Char → Prop
  | .literal closed, cs => ∃ ps, Accepted ps ∧ (closed → HasExpression ps) ∧ cs = text ps
  | .name read, cs => ∃ name ps, IsName (read ++ name) ∧ Accepted ps ∧ cs = name ++ '}' :: text ps

theorem remains_of_expandFrom {position : Position} {cs out : List Char}
    (h : expandFrom lookup position cs = .ok out) : Remains position cs := by
  -- Inside a name, what is left begins with the rest of that name: hence both positions at once.
  induction cs generalizing position out with
  | nil =>
    cases position with
    | literal closed =>
      cases closed with
      | false => exact ⟨[], accepted_nil, by simp, rfl⟩
      | true => cases h
    | name read => cases h
  | cons c cs ih =>
    cases position with
    | literal closed =>
      rw [expandFrom] at h
      by_cases hopen : c = '{'
      · rw [if_pos hopen] at h
        obtain ⟨name, ps, hname, hps, hcs⟩ := ih h
        rw [List.nil_append] at hname
        refine ⟨expression name :: ps, accepted_cons_expression.2 ⟨hname, hps⟩,
          fun _ => hasExpression_cons_expression name ps, ?_⟩
        simp [hopen, hcs, text, written]
      · rw [if_neg hopen, Outcome.map_eq_ok] at h
        obtain ⟨more, hmore, -⟩ := h
        obtain ⟨ps, hps, hlast, hcs⟩ := ih hmore
        have hfollowed : (closed = true ∨ c = '}') → HasExpression ps := by
          simpa using hlast
        refine ⟨literal c :: ps, accepted_cons_literal.2 ⟨hopen, fun hc => hfollowed (.inr hc), hps⟩,
          fun hc => hasExpression_cons_literal.2 (hfollowed (.inl hc)), ?_⟩
        simp [hcs, text, written]
    | name read =>
      rw [expandFrom] at h
      by_cases hclose : c = '}'
      · rw [if_pos hclose] at h
        cases hfault : nameFault? read with
        | some fault =>
          rw [hfault] at h
          cases h
        | none =>
          rw [hfault] at h
          obtain ⟨more, hmore, -⟩ := Outcome.map_eq_ok.1 h
          obtain ⟨ps, hps, -, hcs⟩ := ih hmore
          refine ⟨[], ps, ?_, hps, by rw [hclose, hcs, List.nil_append]⟩
          rw [List.append_nil]
          exact nameFault?_eq_none.1 hfault
      · rw [if_neg hclose] at h
        obtain ⟨name, ps, hname, hps, hcs⟩ := ih h
        refine ⟨c :: name, ps, ?_, hps, by rw [hcs, List.cons_append]⟩
        rwa [List.append_assoc, List.singleton_append] at hname

/-- A text has one reading. -/
theorem eq_of_text_eq {ps qs : List Piece} (hps : ∀ p ∈ ps, p.IsPlain) (hqs : ∀ q ∈ qs, q.IsPlain)
    (h : text ps = text qs) : ps = qs := by
  -- The first characters tell the first pieces apart, since no literal is an opening brace.
  induction ps generalizing qs with
  | nil =>
    cases qs with
    | nil => rfl
    | cons q qs => cases q <;> simp [text, written] at h
  | cons p ps ih =>
    cases qs with
    | nil => cases p <;> simp [text, written] at h
    | cons q qs =>
      have hp := hps p List.mem_cons_self
      have hq := hqs q List.mem_cons_self
      have hrest : text ps = text qs → ps = qs :=
        ih (fun p' hp' => hps p' (List.mem_cons_of_mem p hp'))
          (fun q' hq' => hqs q' (List.mem_cons_of_mem q hq'))
      cases p with
      | literal c =>
        cases q with
        | literal d =>
          obtain ⟨rfl, htext⟩ : c = d ∧ text ps = text qs := by simpa [text, written] using h
          rw [hrest htext]
        | expression name =>
          have hc : c = '{' := by
            have := congrArg List.head? h
            simpa [text, written] using this
          exact absurd hc hp
      | expression name =>
        cases q with
        | literal d =>
          have hd : '{' = d := by
            have := congrArg List.head? h
            simpa [text, written] using this
          exact absurd hd.symm hq
        | expression name' =>
          have htexts : name ++ '}' :: text ps = name' ++ '}' :: text qs := by
            simpa [text, written] using h
          obtain ⟨rfl, htext⟩ :=
            Text.append_cons_inj (closing_not_mem hp) (closing_not_mem hq) htexts
          rw [hrest htext]

theorem expand_of_text {template : String} {ps : List Piece} (hps : Accepted ps)
    (htext : template.toList = text ps) :
    expand lookup template = .ok (String.ofList (ps.flatMap (expanded lookup))) := by
  unfold expand
  rw [htext, expandFrom_text lookup hps (by simp)]

theorem exists_text_of_expand {template u : String} (h : expand lookup template = .ok u) :
    ∃ ps, Accepted ps ∧ template.toList = text ps := by
  unfold expand at h
  cases hrun : expandFrom lookup (.literal false) template.toList with
  | error fault =>
    rw [hrun] at h
    cases h
  | ok cs =>
    obtain ⟨ps, hps, -, htext⟩ := remains_of_expandFrom lookup hrun
    exact ⟨ps, hps, htext⟩

theorem accepted_of_simple {ps : List Piece} (h : ∀ p ∈ ps, p.IsSimple) : Accepted ps where
  plain p hp := (isSimple_iff.1 (h p hp)).1
  followed before after he := by
    have hclose : literal '}' ∈ ps := he ▸ List.mem_append_right before List.mem_cons_self
    exact absurd rfl (isSimple_iff.1 (h _ hclose)).2

/-- An accepted template is simple, or else has a closing brace that stands alone. -/
theorem exists_accepted_iff {template : String} :
    (∃ ps, Accepted ps ∧ template.toList = text ps) ↔
      IsSimpleTemplate template ∨ HasStrayBrace template := by
  constructor
  · rintro ⟨ps, hps, htext⟩
    by_cases hstray : literal '}' ∈ ps
    · exact .inr ⟨ps, hps, hstray, htext⟩
    · refine .inl ⟨ps, fun p hp => isSimple_iff.2 ⟨hps.plain p hp, ?_⟩, htext⟩
      rintro rfl
      exact hstray hp
  · rintro (⟨ps, hps, htext⟩ | ⟨ps, hps, -, htext⟩)
    · exact ⟨ps, accepted_of_simple hps, htext⟩
    · exact ⟨ps, hps, htext⟩

theorem not_stray_of_simple {template : String} (h : IsSimpleTemplate template) :
    ¬ HasStrayBrace template := by
  rintro ⟨qs, hqs, hstray, htext'⟩
  obtain ⟨ps, hps, htext⟩ := h
  obtain rfl := eq_of_text_eq (accepted_of_simple hps).plain hqs.plain (htext.symm.trans htext')
  exact (isSimple_iff.1 (hps _ hstray)).2 rfl

/-- A template is accepted, whatever its names stand for, exactly if it is simple or a closing brace
stands alone before an expression; it is never both. A refusal carries the template. What is accepted
is expanded piece by piece. -/
theorem expand_accepts_iff (template : String) :
    (∀ lookup, (∃ u, expand lookup template = .ok u) ↔
      IsSimpleTemplate template ∨ HasStrayBrace template) ∧
    (IsSimpleTemplate template → ¬ HasStrayBrace template) ∧
    (∀ lookup e, expand lookup template = .error e →
      ∃ fault : TemplateFault, e = .badTemplate template fault.describe) ∧
    ∀ lookup ps, Accepted ps → template.toList = text ps →
      expand lookup template = .ok (String.ofList (ps.flatMap (expanded lookup))) := by
  refine ⟨fun lookup => ?_, not_stray_of_simple, fun lookup e h => ?_,
    fun lookup ps hps htext => expand_of_text lookup hps htext⟩
  · rw [← exists_accepted_iff]
    constructor
    · rintro ⟨u, h⟩
      exact exists_text_of_expand lookup h
    · rintro ⟨ps, hps, htext⟩
      exact ⟨_, expand_of_text lookup hps htext⟩
  · unfold expand at h
    cases hrun : expandFrom lookup (.literal false) template.toList with
    | ok cs =>
      rw [hrun] at h
      cases h
    | error fault =>
      rw [hrun] at h
      exact ⟨fault, (Except.error.inj h).symm⟩

theorem expand_accepts_summoner :
    let template := "/summoner/\x7bid\x7d"
    IsSimpleTemplate template ∧ (∃ u, expand (fun _ => none) template = .ok u) ∧
      ¬ HasStrayBrace template := by
  have h : IsSimpleTemplate "/summoner/\x7bid\x7d" := by
    refine ⟨"/summoner/".toList.map literal ++ [expression ['i', 'd']], fun p hp => ?_, by decide⟩
    rcases List.mem_append.1 hp with hp | hp
    · obtain ⟨c, hc, rfl⟩ := List.mem_map.1 hp
      refine ⟨?_, ?_⟩ <;> rintro rfl <;> exact absurd hc (by decide)
    · rw [List.mem_singleton.1 hp]
      exact ⟨by decide, List.all_eq_true.1 (by decide)⟩
  have haccepts := expand_accepts_iff "/summoner/\x7bid\x7d"
  exact ⟨h, (haccepts.1 _).2 (.inl h), haccepts.2.1 h⟩

theorem expand_stray_brace :
    expand (fun _ => some "b") "\x7d\x7ba\x7d" = .ok "\x7db" ∧
      ¬ IsSimpleTemplate "\x7d\x7ba\x7d" := by
  refine ⟨by decide +kernel, fun h => not_stray_of_simple h ?_⟩
  refine ⟨[literal '}', expression ['a']], ?_, List.mem_cons_self, by decide⟩
  refine accepted_cons_literal.2 ⟨by decide, fun _ => hasExpression_cons_expression ['a'] [], ?_⟩
  exact accepted_cons_expression.2 ⟨⟨by decide, List.all_eq_true.1 (by decide)⟩, accepted_nil⟩

end TypedClient.Wire.UriTemplate
