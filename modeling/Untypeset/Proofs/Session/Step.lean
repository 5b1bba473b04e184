import Untypeset.Session

/-!
What one request can do to a session. A conversion of markup ends in one of five ways (`Converts`); only one of them hands a
node to the converter, and only that one can change what is remembered.
-/

namespace Untypeset

open Untypeset.Markup Untypeset.Rendering Untypeset.Text

namespace Session

/-- no markup at all, or nothing but blanks -/
def IsRejected (markup : Option String) : Prop :=
  ∀ text, markup = some text → allBlank text.toList = true

/-- what a session does with markup: the session afterwards and the outcome -/
inductive Converts (session : Session) : Option String → Session → Outcome → Prop
  | rejected {markup : Option String} : IsRejected markup → Converts session markup session .invalidInput
  | reused {text : String} {outcome : Outcome} : allBlank text.toList = false → session.caching = true →
    session.remembered = some (text, outcome) → Converts session (some text) session outcome
  | unreadable {text : String} {fault : Fault} : allBlank text.toList = false → session.reusable? text = none →
    parse text = .error fault → Converts session (some text) session (.unreadable fault)
  | notFound {text : String} {document : Node} : allBlank text.toList = false → session.reusable? text = none →
    parse text = .ok document → mathRoot? (.top document) = none → Converts session (some text) session .notFound
  | converted {text : String} {document : Node} {root : Located} : allBlank text.toList = false →
    session.reusable? text = none → parse text = .ok document → mathRoot? (.top document) = some root →
    Converts session (some text)
      ((session.convertNode (some root)).1.remember text (session.convertNode (some root)).2.value)
      (session.convertNode (some root)).2.value

variable {session : Session} {text : String} {outcome : Outcome}

theorem reusable?_eq_some_iff :
    session.reusable? text = some outcome ↔ session.caching = true ∧ session.remembered = some (text, outcome) := by
  unfold reusable?
  split
  · rename_i hcaching
    split
    · rename_i known stored hremembered
      split
      · rename_i hknown
        subst hknown
        simp [hcaching, hremembered]
      · rename_i hknown
        simp [hremembered, hknown]
    · rename_i hremembered
      simp [hremembered]
  · rename_i hcaching
    simp [hcaching]

theorem convert_of_rejected {markup : Option String} (h : IsRejected markup) :
    session.convert markup = (session, ⟨.invalidInput, [.rejectedMarkup]⟩) := by
  have hfilter : markup.filter (fun text => !allBlank text.toList) = none := by
    cases markup with
    | none => rfl
    | some text => simp [h text rfl]
  rw [convert, hfilter]

theorem convert_of_visible (h : allBlank text.toList = false) :
    session.convert (some text) =
      match session.reusable? text with
      | some outcome => (session, ⟨outcome, [.reused]⟩)
      | none => session.convertFresh text := by
  have hfilter : (some text).filter (fun text => !allBlank text.toList) = some text := by simp [h]
  cases hreusable : session.reusable? text <;> simp only [convert, hfilter, hreusable]

theorem converts (session : Session) (markup : Option String) :
    session.Converts markup (session.convert markup).1 (session.convert markup).2.value := by
  by_cases hrejected : IsRejected markup
  · rw [convert_of_rejected hrejected]
    exact .rejected hrejected
  · obtain ⟨text, rfl, hvisible⟩ : ∃ text, markup = some text ∧ allBlank text.toList = false := by
      simpa [IsRejected] using hrejected
    rw [convert_of_visible hvisible]
    cases hreusable : session.reusable? text with
    | some outcome =>
      obtain ⟨hcaching, hremembered⟩ := reusable?_eq_some_iff.1 hreusable
      exact .reused hvisible hcaching hremembered
    | none =>
      simp only [convertFresh]
      cases hparse : parse text with
      | error fault => exact .unreadable hvisible hreusable hparse
      | ok document =>
        cases hroot : mathRoot? (.top document) with
        | none =>
          simp only [hroot]
          exact .notFound hvisible hreusable hparse hroot
        | some root =>
          simp only [hroot]
          exact .converted hvisible hreusable hparse hroot

end Session

end Untypeset
