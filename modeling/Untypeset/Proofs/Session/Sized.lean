import Untypeset.Proofs.Latex.Sizing
import Untypeset.Proofs.Session.Remembered

/-!
No bare parenthesis is ever answered. The converter sizes the parentheses of all LaTeX (`sized_convert`), clean-up leaves them
sized, and so does the memory of a session: one request keeps it free of bare parentheses (`sized_answer`), hence any run
does (`sized_outcomes`).
-/

namespace Untypeset

open Untypeset.Markup Untypeset.Rendering Untypeset.Symbol

/-- if there is LaTeX, all its parentheses are sized -/
def Outcome.Sized (outcome : Outcome) : Prop :=
  outcome.ok = true → Latex.AllSized outcome.text

theorem Outcome.sized_of_not_ok {outcome : Outcome} (h : outcome.ok = false) : outcome.Sized := by
  intro hok
  rw [h] at hok
  cases hok

/-- the converter sizes all parentheses -/
theorem sized_convert (converter : Converter) (place : Option Located) : (converter.convert place).value.Sized := by
  unfold Converter.convert
  split
  · exact Outcome.sized_of_not_ok rfl
  · unfold Converter.convertAs
    dsimp only
    split
    · exact Outcome.sized_of_not_ok rfl
    · intro _
      exact Latex.allSized_sized _

namespace Session

variable {session : Session}

theorem sized_tidy {outcome : Outcome} (h : outcome.Sized) : (session.tidy outcome).Sized := by
  cases outcome with
  | converted shape latex => exact fun _ => (h rfl).cleaned _ _
  | notFound | invalidInput | unreadable | broken => exact h

/-- nothing with a bare parenthesis is remembered -/
def RemembersSized (session : Session) : Prop :=
  ∀ markup outcome, session.remembered = some (markup, outcome) → outcome.Sized

theorem sized_convertMarkup (h : session.RemembersSized) (markup : Option String) :
    (session.convert markup).2.value.Sized := by
  have hconverts := session.converts markup
  generalize (session.convert markup).1 = next, (session.convert markup).2.value = outcome at hconverts ⊢
  cases hconverts with
  | rejected | unreadable | notFound => exact Outcome.sized_of_not_ok rfl
  | reused _ _ hremembered => exact h _ _ hremembered
  | converted => exact sized_tidy (sized_convert _ _)

/-- **one request**: its LaTeX has no bare parenthesis, and none is remembered behind it -/
theorem sized_answer (h : session.RemembersSized) (request : Request) :
    (∀ outcome, (session.answer request).2.value = some outcome → outcome.Sized) ∧
      (session.answer request).1.RemembersSized := by
  have houtcome : ∀ outcome, (session.answer request).2.value = some outcome → outcome.Sized := by
    intro outcome houtcome
    cases request with
    | convert markup =>
      cases houtcome
      exact sized_convertMarkup h markup
    | convertNode place =>
      cases houtcome
      exact sized_tidy (sized_convert _ _)
    | clear | configure | setFault => cases houtcome
  exact ⟨houtcome, Remembers.answer h (fun markup _ => sized_convertMarkup h (some markup)) request⟩

theorem sized_outcomes (h : session.RemembersSized) (requests : List Request) :
    ∀ outcome, some outcome ∈ session.outcomes requests → outcome.Sized := by
  induction requests generalizing session with
  | nil => exact nofun
  | cons request rest ih =>
    intro outcome houtcome
    obtain ⟨hhere, hnext⟩ := sized_answer h request
    rcases List.mem_cons.1 houtcome with hfirst | hrest
    · exact hhere outcome hfirst.symm
    · exact ih hnext outcome hrest

end Session

/-- **sizing is complete, idempotent and loses nothing**, and no bare parenthesis is left in any LaTeX of a conversion or of a
session, remembered or fresh -/
theorem parentheses_sized (s : Latex) (converter : Converter) (place : Option Located) (settings : Settings)
    (symbols : SymbolTable) (requests : List Request) :
    Latex.AllSized (Latex.sized s) ∧ Latex.sized (Latex.sized s) = Latex.sized s ∧
      (Latex.sized s = s ↔ Latex.AllSized s) ∧ Latex.unsized (Latex.sized s) = Latex.unsized s ∧
      ((converter.convert place).value.ok = true → Latex.AllSized (converter.convert place).value.text) ∧
      ∀ outcome, some outcome ∈ (Session.start settings symbols).outcomes requests → outcome.ok = true →
        Latex.AllSized outcome.text := by
  refine ⟨Latex.allSized_sized s, ?_, Latex.sized_eq_self_iff, Latex.unsized_sized s, sized_convert converter place, ?_⟩
  · exact Latex.sized_eq_self_iff.2 (Latex.allSized_sized s)
  · apply Session.sized_outcomes
    intro markup outcome hremembered
    cases hremembered

/-- a group in parentheses that ends a sentence, and the same again, which is remembered by then -/
def groupTwice : List Request :=
  List.replicate 2 (.convert (some "<math><mo>(</mo><mi>x</mi><mo>)</mo><mo>.</mo></math>"))

theorem parentheses_sized_of_groupTwice :
    let outcome := Outcome.converted .mathml "\\left(x\\right)".toList
    (Session.start .default .default).outcomes groupTwice = [some outcome, some outcome] ∧ outcome.ok = true ∧
      Latex.AllSized outcome.text := by
  intro outcome
  have houtcomes : (Session.start .default .default).outcomes groupTwice = [some outcome, some outcome] := by
    decide +kernel
  have hmem : some outcome ∈ (Session.start .default .default).outcomes groupTwice := by
    rw [houtcomes]
    exact List.mem_cons_self
  obtain ⟨-, -, -, -, -, hsession⟩ :=
    parentheses_sized [] (Session.start .default .default).converter none .default .default groupTwice
  exact ⟨houtcomes, rfl, hsession outcome hmem rfl⟩

end Untypeset
