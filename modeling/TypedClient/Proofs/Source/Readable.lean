import TypedClient.Proofs.Extraction.Origins
import TypedClient.Proofs.Region
import TypedClient.Source.Generate

namespace TypedClient.Source

variable {config config' : Config} {doc : Document} {r : Registry} {m : Model}

theorem generate_of_ok (format : Formatter) (hm : Model.ofRegistry config r = .ok m) :
    generate config r format = (format m).elim (.error (.generation .invalidSource)) .ok := by
  rw [generate, hm, Outcome.ok_bind]
  cases format m <;> rfl

theorem generate_eq_ok_iff {format : Formatter} {source : String} : generate config r format = .ok source ↔
    ∃ m, Model.ofRegistry config r = .ok m ∧ format m = some source := by
  constructor
  · intro h
    obtain ⟨m, hm, -⟩ := Outcome.bind_eq_ok.1 h
    rw [generate_of_ok format hm] at h
    cases hsource : format m with
    | none =>
      rw [hsource] at h
      cases h
    | some s =>
      rw [hsource] at h
      cases h
      exact ⟨m, hm, hsource⟩
  · rintro ⟨m, hm, hsource⟩
    rw [generate_of_ok format hm, hsource]
    rfl

theorem formatted?_eq_text (hnames : m.hasProperNames) (hcomments : m.documentation.all isComment) :
    m.formatted? = some m.text := by
  rw [Model.formatted?, hnames, hcomments]
  rfl

end TypedClient.Source
