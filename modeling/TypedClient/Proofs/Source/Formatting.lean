import TypedClient.Proofs.Source.Undocumented

namespace TypedClient.Source

open Text

/-- All that documents a source consists of comments. -/
def Model.CommentsOnly (m : Model) : Prop :=
  ∀ text ∈ m.documentation, ∀ line ∈ docs text, ∃ body, documentationOf? line.toList = some body

/-- What is known of the tools that read a source and lay it out. If its names are proper, lines that are meant as
comments and are none are refused, and what comments say makes no difference. -/
structure Formatter.IgnoresComments (format : Formatter) : Prop where
  refuses : ∀ m : Model, m.hasProperNames → ¬ m.CommentsOnly → format m = none
  ignores : ∀ m w : Model, m.hasProperNames → m.undocumented = w.undocumented → m.CommentsOnly →
    w.CommentsOnly → ((format m).isSome ↔ (format w).isSome)

variable {config : Config} {r : Registry} {m w : Model} {format : Formatter}

theorem commentsOnly_iff : m.CommentsOnly ↔ m.documentation.all isComment := by
  rw [List.all_eq_true]
  exact forall₂_congr fun _ _ => docs_readable_iff.trans isComment_iff.symm

theorem hasProperNames_undocumented : m.undocumented.hasProperNames = m.hasProperNames := by
  simp only [Model.hasProperNames, Model.undocumented, List.all_map]
  have hclass : isClass ∘ ClassView.undocumented = isClass := by
    funext v
    simp only [Function.comp_apply, isClass, ClassView.undocumented, List.all_map]
    rfl
  have hoperation : isOperation ∘ OperationView.undocumented = isOperation := by
    funext v
    simp only [Function.comp_apply, isOperation, OperationView.undocumented, List.all_map]
    rfl
  rw [hclass, hoperation]

theorem hasProperNames_congr (h : m.undocumented = w.undocumented) : m.hasProperNames = w.hasProperNames := by
  rw [← hasProperNames_undocumented, h, hasProperNames_undocumented]

theorem formatted?_ignoresComments : Formatter.IgnoresComments Model.formatted? where
  refuses m _ hcomments := by
    rw [commentsOnly_iff] at hcomments
    rw [Model.formatted?, if_neg (by simp [hcomments])]
  ignores m w hnames hsame hm hw := by
    have hwnames : w.hasProperNames := hasProperNames_congr hsame ▸ hnames
    rw [formatted?_eq_text hnames (commentsOnly_iff.1 hm), formatted?_eq_text hwnames (commentsOnly_iff.1 hw)]
    exact iff_of_true rfl rfl

theorem Formatter.IgnoresComments.isSome_congr (h : format.IgnoresComments) (hnames : m.hasProperNames)
    (hsame : m.undocumented = w.undocumented) (hcomments : m.CommentsOnly ↔ w.CommentsOnly) :
    (format m).isSome ↔ (format w).isSome := by
  by_cases hm : m.CommentsOnly
  · exact h.ignores m w hnames hsame hm (hcomments.1 hm)
  · have hwnames : w.hasProperNames := hasProperNames_congr hsame ▸ hnames
    rw [h.refuses m hnames hm, h.refuses w hwnames fun hw => hm (hcomments.2 hw)]

theorem map_generate_of_ok (hm : Model.ofRegistry config r = .ok m) :
    (generate config r format).map (fun _ => ()) =
      if (format m).isSome then .ok () else .error (.generation .invalidSource) := by
  rw [generate_of_ok format hm]
  cases format m <;> rfl

/-- Documentation without carriage returns does not decide whether there is a source, nor why there is none. -/
theorem generate_undocumented (hformat : format.IgnoresComments)
    (hnames : ∀ m, Model.ofRegistry config r = .ok m → m.hasProperNames)
    (h : ∀ s ∈ r.documentation, FreeOfReturns s) :
    (generate config r format).map (fun _ => ()) = (generate config r.undocumented format).map fun _ => () := by
  have hrun := ofRegistry_undocumented config h
  generalize hw : Model.ofRegistry config r.undocumented = y at hrun
  cases hm : Model.ofRegistry config r with
  | error e =>
    rw [hm] at hrun
    cases hrun with
    | error hfailure => rw [generate, generate, hm, hw, hfailure]
  | ok m =>
    rw [hm] at hrun
    cases hrun with
    | @ok _ w hmodels =>
      obtain ⟨hsame, hdocs⟩ := hmodels
      have hcomments : m.CommentsOnly ↔ w.CommentsOnly := by rw [commentsOnly_iff, commentsOnly_iff, hdocs]
      have hsome := hformat.isSome_congr (hnames m hm) hsame hcomments
      rw [map_generate_of_ok hm, map_generate_of_ok hw]
      exact if_congr hsome rfl rfl

/-- Documentation stays in its comments. Blank texts are left out, and any other text is written line by line,
on lines of their own that leave the code after them as it is. They are comments exactly if the text has no
stray carriage return. Texts without carriage returns change nothing in a source but what its comments say, and
whether they can be read depends on names. Where names are proper, all that documents a source that is made
consists of comments, and texts without carriage returns do not decide whether it is made. -/
theorem documentation_contained (config : Config) (r : Registry) :
    (∀ text, documentation text = "" ↔ isBlankText text) ∧
    (∀ text, docs text = (lines (trim text.toList)).map fun line => comment (trimEnd line)) ∧
    (∀ text, ∀ line ∈ docs text, '\n' ∉ line.toList) ∧
    (∀ text code, ¬ isBlankText text → splitAt '\n' ((documentation text).toList ++ '\n' :: code) =
      (docs text).map String.toList ++ splitAt '\n' code) ∧
    (∀ text, (∀ line ∈ docs text, ∃ body, documentationOf? line.toList = some body) ↔
      ¬ StrayReturn (trim text.toList)) ∧
    ((∀ s ∈ r.documentation, FreeOfReturns s) →
      Lockstep Eq (fun m w => m.undocumented = w.undocumented ∧ (m.CommentsOnly ↔ w.CommentsOnly))
        (Model.ofRegistry config r) (Model.ofRegistry config r.undocumented)) ∧
    ∀ format : Formatter, format.IgnoresComments →
      (∀ m, Model.ofRegistry config r = .ok m → m.hasProperNames) →
      (∀ source, generate config r format = .ok source →
        ∃ m, Model.ofRegistry config r = .ok m ∧ format m = some source ∧ m.CommentsOnly) ∧
      ((∀ s ∈ r.documentation, FreeOfReturns s) →
        (generate config r format).map (fun _ => ()) = (generate config r.undocumented format).map fun _ => ()) := by
  refine ⟨fun _ => documentation_eq_empty_iff, docs_eq, fun _ => newline_not_mem_docs,
    fun _ code h => splitAt_documentation h code, fun _ => docs_readable_iff, fun h => ?_,
    fun format hformat hnames => ⟨fun source h => ?_, generate_undocumented hformat hnames⟩⟩
  · refine (ofRegistry_undocumented config h).mono fun m w hmodels => ⟨hmodels.1, ?_⟩
    rw [commentsOnly_iff, commentsOnly_iff, hmodels.2]
  · obtain ⟨m, hm, hsource⟩ := generate_eq_ok_iff.1 h
    refine ⟨m, hm, hsource, ?_⟩
    by_contra hcomments
    rw [hformat.refuses m (hnames m hm) hcomments] at hsource
    cases hsource

/-- A registry with one class, described by the text. -/
def described (text : String) : Registry where
  resources := [⟨"team", "v2.4", 1, [], none, true, []⟩]
  classes := [⟨0, "TeamDto", "Team", text, [], []⟩]

theorem hasProperNames_described (text : String) :
    ∀ m, Model.ofRegistry {} (described text) = .ok m → m.hasProperNames := by
  intro m hm
  cases hm
  rw [← hasProperNames_undocumented]
  change Model.hasProperNames ⟨"lolgen_runtime", [], [⟨"Team", "", [], []⟩], []⟩
  decide +kernel

theorem documentation_contained_closing :
    docs "*/ \x7d\n\n#![x]\n///" = ["/// */ \x7d", "///", "/// #![x]", "/// ///"] ∧
      (generate {} (described "*/ \x7d\n\n#![x]\n///")).map (fun _ => ()) =
        (generate {} (described "")).map fun _ => () := by
  obtain ⟨-, -, -, -, -, -, hsame⟩ := documentation_contained {} (described "*/ \x7d\n\n#![x]\n///")
  exact ⟨by decide, (hsame _ formatted?_ignoresComments (hasProperNames_described _)).2 (by decide)⟩

/-- A carriage return within a line ends up in a comment, and with it nothing is generated. -/
theorem documentation_return_refused :
    docs "a\rb" = ["/// a\rb"] ∧ documentationOf? "/// a\rb".toList = none ∧
      ∀ format : Formatter, format.IgnoresComments →
        generate {} (described "a\rb") format = .error (.generation .invalidSource) := by
  have hmodel : (Model.ofRegistry {} (described "a\rb")).toOption.map (·.documentation.all isComment) =
      some false := by decide +kernel
  obtain ⟨m, hm, hrefused⟩ := Outcome.exists_ok_of_map_toOption hmodel
  have hcomments : ¬ m.CommentsOnly := by simp [commentsOnly_iff, hrefused]
  refine ⟨by decide, by decide, fun format hformat => ?_⟩
  rw [generate_of_ok format hm, hformat.refuses m (hasProperNames_described _ m hm) hcomments]
  rfl

end TypedClient.Source
