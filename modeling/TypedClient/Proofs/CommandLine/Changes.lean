import TypedClient.Proofs.CommandLine.Sessions
import TypedClient.Proofs.Extraction.RuntimePath
import TypedClient.Proofs.Files.Tree
import TypedClient.Proofs.Source.Readable

namespace TypedClient

open FileTree (access)

variable {t t' : FileTree} {path : Path} {config : Config} {r : Registry}

/-- A text is written at a path, after the directories around it are made. -/
def FileTree.Stores (t : FileTree) (path : Path) (text : String) (t' : FileTree) : Prop :=
  (t.makeParent path).1 = .ok () ∧ (t.makeParent path).2.write path text = .ok t'

theorem FileTree.Stores.written {text : String} (h : t.Stores path text t') :
    t'.bytes? path = some (Text.Utf8.encode text.toList) ∧
    (∀ place, t'.place? path ≠ some place → t'.file? place = t.file? place) ∧
    t.directories <+: t'.directories := by
  obtain ⟨-, hwrite⟩ := h
  have hgrown := t.grown_makeParent path
  have hwritten := FileTree.written_of_write hwrite
  refine ⟨hwritten.bytes, fun place hplace => ?_, hwritten.directories ▸ hgrown.directories⟩
  rw [hwritten.others place hplace, FileTree.file?, hgrown.files, FileTree.file?]

/-- A wanted text is stored, or else nothing is wanted that could be, and no file is changed. -/
def FileTree.Delivers {ε : Type} (t : FileTree) (wanted : String → Prop) (path : Path) :
    Except ε Unit → FileTree → Prop
  | .ok (), t' => ∃ text, wanted text ∧ t.Stores path text t'
  | .error _, t' => t.Grown t' ∧ ∀ text t'', wanted text → ¬ t.Stores path text t''

theorem FileTree.Delivers.congr {ε ε' : Type} {wanted wanted' : String → Prop} {outcome : Except ε Unit}
    {f : ε → ε'} (h : t.Delivers wanted path outcome t') (hsame : ∀ text, wanted text ↔ wanted' text) :
    t.Delivers wanted' path (outcome.mapError f) t' := by
  cases outcome with
  | error e =>
    obtain ⟨hgrown, hnone⟩ := h
    exact ⟨hgrown, fun text t'' htext => hnone text t'' ((hsame text).2 htext)⟩
  | ok _ =>
    obtain ⟨text, htext, hstores⟩ := h
    exact ⟨text, (hsame text).1 htext, hstores⟩

namespace CommandLine

variable {words : List String} {format : Source.Formatter} {result : Result}

end CommandLine

end TypedClient
