import Mathlib.Logic.Relation
import TypedClient.Proofs.Document.Written
import TypedClient.Proofs.Extraction.FieldTypes
import TypedClient.Proofs.Extraction.Origins
import TypedClient.Proofs.Source.TypeExpr
import TypedClient.Proofs.Source.TypeNames

namespace TypedClient.Source

/-- The generic types that keep their arguments elsewhere. -/
def shelters : List String := ["Box", "Vec", "HashMap"]

/-- The names that a field of some type may have in place besides `Option`. -/
def fieldHeads : List String :=
  shelters ++ ["String", "bool", "i32", "i64", "f32", "f64", "rt::SpellRange"]

namespace TypeExpr

def head : TypeExpr → String
  | path name => name
  | one head _ => head
  | two head _ _ => head

/-- The names in a type that are not among the arguments of a shelter. -/
def inPlace : TypeExpr → List String
  | path name => [name]
  | one head argument => head :: if shelters.contains head then [] else argument.inPlace
  | two head first second =>
    head :: if shelters.contains head then [] else first.inPlace ++ second.inPlace

theorem inPlace_optional (e : TypeExpr) : e.optional.inPlace = "Option" :: e.inPlace := rfl

end TypeExpr

/-- A type of a field: it is optional, and has one of some names in place. -/
def IsFieldType (e : TypeExpr) : Prop :=
  ∃ inner : TypeExpr, e = inner.optional ∧ inner.inPlace = [inner.head] ∧ inner.head ∈ fieldHeads

theorem isFieldType_one {head : String} (h : head ∈ shelters) (argument : TypeExpr) :
    IsFieldType (TypeExpr.one head argument).optional :=
  ⟨_, rfl, by simp [TypeExpr.inPlace, TypeExpr.head, h], List.mem_append_left _ h⟩

theorem isFieldType_two {head : String} (h : head ∈ shelters) (first second : TypeExpr) :
    IsFieldType (TypeExpr.two head first second).optional :=
  ⟨_, rfl, by simp [TypeExpr.inPlace, TypeExpr.head, h], List.mem_append_left _ h⟩

theorem isFieldType_path {name : String} (h : name ∈ fieldHeads) :
    IsFieldType (TypeExpr.path name).optional :=
  ⟨.path name, rfl, rfl, h⟩

theorem mem_inPlace_optional {inner : TypeExpr} (h : IsFieldType inner.optional) {name : String} :
    name ∈ inner.optional.inPlace ↔ name = "Option" ∨ name = inner.head := by
  obtain ⟨inner, heq, hinPlace, -⟩ := h
  cases heq
  simp [TypeExpr.inPlace_optional, hinPlace]

variable {r : Registry}

theorem mem_fieldHeads_scalarName (s : Scalar) : scalarName s ∈ fieldHeads := by
  cases s <;> decide

theorem isFieldType_of_fieldExpr {t : ValueType} (ht : t.Indirect) {e : TypeExpr}
    (h : fieldExpr r t = .ok e) : IsFieldType e := by
  -- The name of a class is only rendered below a pointer, which is boxed if it is all of the type and
  -- stands below a list or a map if not.
  cases ht with
  | toClass c =>
    cases h
    exact isFieldType_one (by decide) _
  | scalar s =>
    cases h
    exact isFieldType_path (mem_fieldHeads_scalarName s)
  | dynamicMap =>
    cases h
    exact isFieldType_two (by decide) _ _
  | spellRange =>
    cases h
    exact isFieldType_path (by decide)
  | list _ =>
    rw [fieldExpr_eq_bind (by simp), Outcome.bind_eq_ok] at h
    obtain ⟨inner, hinner, h⟩ := h
    obtain ⟨element, -, hinner⟩ := Outcome.bind_eq_ok.1 hinner
    rw [← Outcome.pure_eq_ok.1 h, ← Outcome.pure_eq_ok.1 hinner]
    exact isFieldType_one (by decide) _
  | map _ _ =>
    rw [fieldExpr_eq_bind (by simp), Outcome.bind_eq_ok] at h
    obtain ⟨inner, hinner, h⟩ := h
    obtain ⟨key, element, -, -, rfl⟩ := typeExpr_map_eq_ok.1 hinner
    rw [← Outcome.pure_eq_ok.1 h]
    exact isFieldType_two (by decide) _ _

/-- The struct of one class has that of another one in place: a field has its name in place. -/
def Holds (r : Registry) (c d : ResponseClass) : Prop :=
  c ∈ r.classes ∧ d ∈ r.classes ∧
    ∃ f ∈ c.fields, ∃ e, fieldExpr r f.type = .ok e ∧ d.name ∈ e.inPlace

def Sheltered (r : Registry) : Prop := ∀ c d, ¬ Holds r c d

theorem Sheltered.acyclic (h : Sheltered r) (c : ResponseClass) : ¬ Relation.TransGen (Holds r) c c := by
  intro hc
  obtain ⟨d, hd, -⟩ := Relation.TransGen.head'_iff.1 hc
  exact h c d hd

variable {config : Config} {doc : Document}

theorem indirect_of_extract (hr : extract config doc = .ok r) {c : ResponseClass} (hc : c ∈ r.classes) :
    ∀ f ∈ c.fields, f.type.Indirect := by
  obtain ⟨pending, hfields, -⟩ := Extraction.exists_readFields hr hc
  exact fun f hf => (Extraction.ofFieldTypes_indirect.readFields hfields f hf).2

theorem holds_iff (hr : extract config doc = .ok r) {c d : ResponseClass} : Holds r c d ↔
    c ∈ r.classes ∧ d ∈ r.classes ∧ ∃ f ∈ c.fields, ∃ inner,
      fieldExpr r f.type = .ok (.optional inner) ∧ (d.name = "Option" ∨ d.name = inner.head) := by
  constructor
  · rintro ⟨hc, hd, f, hf, e, he, hname⟩
    have htype := isFieldType_of_fieldExpr (indirect_of_extract hr hc f hf) he
    have ⟨inner, heq, _⟩ := htype
    rw [heq] at he hname htype
    exact ⟨hc, hd, f, hf, inner, he, (mem_inPlace_optional htype).1 hname⟩
  · rintro ⟨hc, hd, f, hf, inner, he, hname⟩
    have htype := isFieldType_of_fieldExpr (indirect_of_extract hr hc f hf) he
    exact ⟨hc, hd, f, hf, _, he, (mem_inPlace_optional htype).2 hname⟩

theorem sheltered_of_names (hr : extract config doc = .ok r)
    (h : ∀ d ∈ r.classes, d.name ∉ "Option" :: fieldHeads) : Sheltered r := by
  intro c d hcd
  obtain ⟨hc, hd, f, hf, inner, he, hname⟩ := (holds_iff hr).1 hcd
  obtain ⟨inner', heq, -, hhead⟩ := isFieldType_of_fieldExpr (indirect_of_extract hr hc f hf) he
  cases heq
  refine h d hd ?_
  rcases hname with hname | hname
  · exact hname ▸ List.mem_cons_self
  · exact hname ▸ List.mem_cons_of_mem _ hhead

/-- What a field has in place is `Option` and one more name, which is never written for a class that the
field refers to. So the structs are sheltered from each other, and none contains itself, exactly if no
class takes one of these names; in a source that is generated, only six of them can be taken. -/
theorem sheltered_iff (hr : extract config doc = .ok r) :
    (∀ c ∈ r.classes, ∀ f ∈ c.fields, f.type.Indirect ∧
      ∀ e, fieldExpr r f.type = .ok e → ∃ inner : TypeExpr, e = inner.optional ∧
        e.inPlace = ["Option", inner.head] ∧ inner.head ∈ fieldHeads) ∧
    (Sheltered r ↔ ∀ c ∈ r.classes, ∀ f ∈ c.fields, ∀ inner,
      fieldExpr r f.type = .ok (.optional inner) →
        ∀ d ∈ r.classes, d.name ≠ "Option" ∧ d.name ≠ inner.head) ∧
    (Sheltered r → ∀ c, ¬ Relation.TransGen (Holds r) c c) ∧
    ∀ m, Model.ofRegistry config r = .ok m →
      (∀ c ∈ m.classes, c.name ∉ ["bool", "i32", "i64", "f32", "f64", "rt::SpellRange"]) →
        Sheltered r := by
  refine ⟨fun c hc f hf => ?_, ?_, Sheltered.acyclic, fun m hm hnames => ?_⟩
  · have hindirect := indirect_of_extract hr hc f hf
    refine ⟨hindirect, fun e he => ?_⟩
    obtain ⟨inner, rfl, hinPlace, hhead⟩ := isFieldType_of_fieldExpr hindirect he
    exact ⟨inner, rfl, by rw [TypeExpr.inPlace_optional, hinPlace], hhead⟩
  · constructor
    · intro h c hc f hf inner he d hd
      have hnot := mt (holds_iff hr).2 (h c d)
      exact not_or.1 fun hname => hnot ⟨hc, hd, f, hf, inner, he, hname⟩
    · intro h c d hcd
      obtain ⟨hc, hd, f, hf, inner, he, hname⟩ := (holds_iff hr).1 hcd
      obtain ⟨hoption, hhead⟩ := h c hc f hf inner he d hd
      exact hname.elim hoption hhead
  · refine sheltered_of_names hr fun d hd hmem => ?_
    have hname : d.name ∈ m.classes.map (·.name) :=
      (typeNames_of_ofRegistry hm).1 ▸ List.mem_map_of_mem hd
    obtain ⟨c, hc, hcname⟩ := List.mem_map.1 hname
    have hfree := not_mem_reservedTypes hm d.name (List.mem_append_left _ hname)
    have hheads : ∀ name ∈ "Option" :: fieldHeads, name ∉ reservedTypes →
        name ∈ ["bool", "i32", "i64", "f32", "f64", "rt::SpellRange"] := by decide
    exact hnames c hc (hcname ▸ hheads _ hmem hfree)

open RawNode in
def chained : RawNode :=
  branch "document" [] [
    resource "resource_1" "champion-v1.2" [operation "/champion" [responseClasses [
      returnValue "LinkDto",
      responseBody "LinkDto" [["next", "LinkDto", ""], ["others", "List[LinkDto]", ""]]]]]]

theorem sheltered_chained :
    ∃ r, extract {} chained.number = .ok r ∧
      (∃ c ∈ r.classes, ∃ f ∈ c.fields, f.type = .pointer (.reference 0)) ∧
      Sheltered r ∧ ∀ c, ¬ Relation.TransGen (Holds r) c c := by
  have hrun : (extract {} chained.number).toOption.map (fun r =>
      ((Model.ofRegistry {} r).toOption.map fun m => m.classes.map (·.name),
        r.classes.flatMap fun c => c.fields.map (·.type))) =
      some (some ["Link"], [.pointer (.reference 0), .list (.pointer (.reference 0))]) := by
    decide +kernel
  obtain ⟨r, hr, heq⟩ := Outcome.exists_ok_of_map_toOption hrun
  obtain ⟨hmodel, htypes⟩ := Prod.mk.inj heq
  obtain ⟨m, hm, hnames⟩ := Outcome.exists_ok_of_map_toOption hmodel
  obtain ⟨-, -, hacyclic, hgenerated⟩ := sheltered_iff hr
  have hfree : ∀ name ∈ ["Link"],
      name ∉ ["bool", "i32", "i64", "f32", "f64", "rt::SpellRange"] := by decide
  have hsheltered : Sheltered r :=
    hgenerated m hm fun c hc => hfree _ (hnames ▸ List.mem_map_of_mem hc)
  have hself : .pointer (.reference 0) ∈ r.classes.flatMap fun c => c.fields.map (·.type) :=
    htypes ▸ List.mem_cons_self
  obtain ⟨c, hc, hself⟩ := List.mem_flatMap.1 hself
  obtain ⟨f, hf, htype⟩ := List.mem_map.1 hself
  exact ⟨r, hr, ⟨c, hc, f, hf, htype⟩, hsheltered, hacyclic hsheltered⟩

open RawNode in
def selfNamed : RawNode :=
  branch "document" [] [
    resource "resource_1" "champion-v1.2" [operation "/champion" [responseClasses [
      returnValue "bool", responseBody "bool" [["free", "boolean", ""]]]]]]

theorem holds_selfNamed :
    ∃ r m c, extract {} selfNamed.number = .ok r ∧ Model.ofRegistry {} r = .ok m ∧ Holds r c c := by
  have hrun : (extract {} selfNamed.number).toOption.map (fun r =>
      (Model.ofRegistry {} r).isOk && r.classes.any fun c => c.fields.any fun f =>
        (fieldExpr r f.type).toOption.any (·.inPlace.contains c.name)) = some true := by
    decide +kernel
  obtain ⟨r, hr, hany⟩ := Outcome.exists_ok_of_map_toOption hrun
  rw [Bool.and_eq_true] at hany
  obtain ⟨m, hm⟩ := Outcome.isOk_iff.1 hany.1
  obtain ⟨c, hc, hfields⟩ := List.any_eq_true.1 hany.2
  obtain ⟨f, hf, htype⟩ := List.any_eq_true.1 hfields
  obtain ⟨e, he, hname⟩ := (Option.any_eq_true _ _).1 htype
  exact ⟨r, m, c, hr, hm, hc, hc, f, hf, e, Outcome.toOption_eq_some.1 he, by simpa using hname⟩

end TypedClient.Source
