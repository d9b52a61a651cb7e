import TypedClient.Extraction.Operations
import TypedClient.Proofs.Document.Relabel
import TypedClient.Proofs.Outcome

namespace TypedClient.Extraction

open Node Text

variable {config : Config} {types : String → Option ClassId} {ctx : Context}

section Relabel

variable (f : Nat → Nat)

theorem cells_map (row : Document) : cells (row.map f) = cells row := by
  simp [cells, childrenOfKind_map, flatText_map]

theorem tableRows_map (n : Document) : tableRows (n.map f) = (tableRows n).map (Node.map f) := by
  rw [tableRows, tableRows, childOfKind?_map]
  cases n.childOfKind? "table" with
  | none => rfl
  | some table => exact childrenOfKind_map f table "row"

theorem readField_map (c : PendingClass) (row : Document) :
    readField config types c (row.map f) = readField config types c row := by
  rw [readField, readField, cells_map]

theorem readFields_map (c : PendingClass) :
    readFields config types { c with body := c.body.map f } = readFields config types c := by
  have hrow : readField config types { c with body := c.body.map f } ∘ Node.map f =
      readField config types c := funext (readField_map f c)
  rw [readFields, tableRows_map, List.mapM_map, hrow, readFields]

theorem readParameter_map (row : Document) : readParameter ctx (row.map f) = readParameter ctx row := by
  rw [readParameter, readParameter, cells_map]

theorem readParameters_map (table : Document) :
    readParameters ctx (table.map f) = readParameters ctx table := by
  have hrow : readParameter ctx ∘ Node.map f = readParameter ctx := funext (readParameter_map f)
  rw [readParameters, childrenOfKind_map, List.mapM_map, hrow, readParameters]

theorem readError_map (row : Document) : readError ctx (row.map f) = readError ctx row := by
  rw [readError, readError, cells_map]

theorem readPathBlock_map (d : Details) (block : Document) :
    readPathBlock ctx d (block.map f) = readPathBlock ctx d block := by
  unfold readPathBlock
  rw [childrenOfKind_map, childOfKind?_map]
  cases block.childrenOfKind "table" with
  | nil => rfl
  | cons first more =>
    cases block.childOfKind? "title" with
    | none => simp [orFault, Outcome.ok_bind, readParameters_map]
    | some title =>
      cases more <;> simp [orFault, Outcome.ok_bind, readParameters_map, flatText_map]

theorem operationDescription_map (n : Document) :
    operationDescription (n.map f) = operationDescription n := by
  rw [operationDescription, operationDescription, childOfKind?_map]
  cases n.childOfKind? "description" with
  | none => rfl
  | some description => simp [flatText_map]

end Relabel

theorem bodyDescription_map_add (title body : Document) (k : Nat) :
    bodyDescription (title.map (· + k)) (body.map (· + k)) = bodyDescription title body := by
  unfold bodyDescription
  dsimp only
  rw [textExcluding_map, childOfKind?_map]
  congr 2
  funext l
  cases body.childOfKind? "table" with
  | none => simp
  | some table => simp

/-- What stands in a response body outside its title. -/
def resultText (body : Document) : String :=
  body.textExcluding fun l => (body.childOfKind? "title").any (·.label == l)

theorem resultText_map_add (body : Document) (k : Nat) :
    resultText (body.map (· + k)) = resultText body := by
  rw [resultText, textExcluding_map, childOfKind?_map, resultText]
  congr 1
  funext l
  cases body.childOfKind? "title" with
  | none => rfl
  | some title => simp

theorem readReturnType_map_add (block : Document) (k : Nat) :
    readReturnType ctx (block.map (· + k)) = readReturnType ctx block := by
  unfold readReturnType
  rw [descendantsOfKind_map, List.head?_map]
  cases (block.descendantsOfKind "response_body").head? with
  | none => rfl
  | some body =>
    have htext := resultText_map_add body k
    rw [resultText, resultText] at htext
    have hheading : ((body.map (· + k)).childOfKind? "title").elim "" (·.flatText) =
        (body.childOfKind? "title").elim "" (·.flatText) := by
      rw [childOfKind?_map]
      cases body.childOfKind? "title" with
      | none => rfl
      | some title => exact flatText_map _ title
    simp only [Option.map_some, orFault, Outcome.ok_bind, htext, hheading]

theorem readBlock_map_add (d : Details) (block : Document) (k : Nat) :
    readBlock ctx d (block.map (· + k)) = readBlock ctx d block := by
  have herror : readError ctx ∘ Node.map (· + k) = readError ctx := funext (readError_map _)
  unfold readBlock
  rw [isBlank_map, attr?_map, flatText_map, readReturnType_map_add, readPathBlock_map, descendantsOfKind_map,
    List.mapM_map, herror, childOfKind?_map]
  cases block.childOfKind? "table" with
  | none => rfl
  | some table => simp only [Option.map_some, orFault, Outcome.ok_bind, readParameters_map]

theorem readBlocks_map_add (d : Details) (n : Document) (k : Nat) :
    ((n.map (· + k)).childrenOfKind "block").foldlM (readBlock ctx) d =
      (n.childrenOfKind "block").foldlM (readBlock ctx) d := by
  have hblock : (fun d block => readBlock ctx d (Node.map (· + k) block)) = readBlock ctx :=
    funext fun d => funext fun block => readBlock_map_add d block k
  rw [childrenOfKind_map, List.foldlM_map, hblock]

end TypedClient.Extraction
