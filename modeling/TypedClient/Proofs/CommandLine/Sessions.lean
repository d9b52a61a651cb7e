import TypedClient.CommandLine.Run
import TypedClient.Files.Tree
import TypedClient.Proofs.Outcome

namespace TypedClient.CommandLine

variable {α β : Type} {t t' : FileTree}

/-- From a tree, a session comes to an outcome and a tree with some property. -/
def Ends (act : Session (StateM FileTree) α) (t : FileTree)
    (P : Except Trouble α → FileTree → Prop) : Prop :=
  ∀ printed, ∃ outcome printed' t', (act.run.run printed).run t = ((outcome, printed'), t') ∧ P outcome t'

namespace Ends

variable {x : Session (StateM FileTree) α} {f : α → Session (StateM FileTree) β}
  {P : Except Trouble α → FileTree → Prop} {Q : Except Trouble β → FileTree → Prop}

theorem pure {a : α} (h : P (.ok a) t) : Ends (pure a) t P :=
  fun printed => ⟨_, printed, t, rfl, h⟩

theorem throw {e : Trouble} (h : P (.error e) t) : Ends (throw e) t P :=
  fun printed => ⟨_, printed, t, rfl, h⟩

theorem say {lines : List String} {P : Except Trouble Unit → FileTree → Prop} (h : P (.ok ()) t) :
    Ends (Session.say lines) t P :=
  fun printed => ⟨_, printed ++ lines, t, rfl, h⟩

theorem detail {isVerbose : Bool} {lines : List String} {P : Except Trouble Unit → FileTree → Prop}
    (h : P (.ok ()) t) : Ends (Session.detail isVerbose lines) t P := by
  cases isVerbose with
  | false => exact Ends.pure h
  | true => exact Ends.say h

theorem bind (hx : Ends x t P) (hok : ∀ a t', P (.ok a) t' → Ends (f a) t' Q)
    (herror : ∀ e t', P (.error e) t' → Q (.error e) t') : Ends (x >>= f) t Q := by
  intro printed
  obtain ⟨outcome, printed', t', hrun, hP⟩ := hx printed
  cases outcome with
  | ok a =>
    obtain ⟨outcome, printed'', t'', hrest, hQ⟩ := hok a t' hP printed'
    refine ⟨outcome, printed'', t'', ?_, hQ⟩
    rw [ExceptT.run_bind, StateT.run_bind, StateT.run_bind, hrun]
    exact hrest
  | error e =>
    refine ⟨.error e, printed', t', ?_, herror e t' hP⟩
    rw [ExceptT.run_bind, StateT.run_bind, StateT.run_bind, hrun]
    rfl

theorem lift {act : StateM FileTree α} {a : α} (hact : act.run t = (a, t')) (h : P (.ok a) t') :
    Ends (liftM (act : StateT (List String) (StateM FileTree) α)) t P := by
  intro printed
  refine ⟨.ok a, printed, t', ?_, h⟩
  have hlift : ((liftM (act : StateT (List String) (StateM FileTree) α) :
      Session (StateM FileTree) α).run.run printed).run t =
        ((.ok (act.run t).1, printed), (act.run t).2) := rfl
  rw [hlift, hact]

theorem step {name : String} {act : StateM FileTree (Except Failure α)} {outcome : Except Failure α}
    (hact : act.run t = (outcome, t')) (h : P (outcome.mapError (⟨name, ·⟩)) t') :
    Ends (Session.step name act) t P := by
  refine bind (P := fun o s => o = .ok outcome ∧ s = t') (lift hact ⟨rfl, rfl⟩) ?_ ?_
  · rintro a s ⟨ha, rfl⟩
    cases ha
    cases outcome with
    | ok a => exact Ends.pure h
    | error cause => exact Ends.throw h
  · rintro e s ⟨he, -⟩
    cases he

end Ends

end TypedClient.CommandLine
