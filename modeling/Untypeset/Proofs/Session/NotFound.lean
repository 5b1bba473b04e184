import Untypeset.Proofs.Rendering.Roots
import Untypeset.Proofs.Session.Remembered

/-!
When a session answers that there is no formula. Only markup in which a formula was found is remembered, and whether one is
found does not depend on what a session prefers; so after any run the answer is that of the document alone
(`convert_eq_notFound_iff`). A document with a root is turned down exactly if its first container holds no formula
(`notFound_iff_container`), even if there is a formula elsewhere (`empty_container_hides_formula`).
-/

namespace Untypeset

open Untypeset.Markup Untypeset.Rendering Untypeset.Symbol Untypeset.Text

/-- whether a formula is found in a document -/
def Recognises (preferAssistive : Bool) (document : Node) : Prop :=
  (mathRoot? (.top document)).bind (detect? preferAssistive) ≠ none

theorem recognises_iff {s : String} {document : Node} (h : parse s = .ok document) (a b : Bool) :
    Recognises a document ↔ Recognises b document := by
  have hfolded := foldedBelow_of_parse h
  rw [Recognises, Recognises, Ne, Ne, rejected_iff hfolded, rejected_iff hfolded]

namespace Session

variable {session : Session} {text : String} {document : Node}

theorem value_convertNode_eq_notFound_iff (session : Session) (root : Located) :
    (session.convertNode (some root)).2.value = .notFound ↔ detect? session.converter.preferAssistive root = none := by
  unfold convertNode Converter.convert
  rw [Option.bind_some]
  cases detect? session.converter.preferAssistive root with
  | none => exact iff_of_true rfl rfl
  | some found =>
    obtain ⟨shape, start⟩ := found
    refine iff_of_false ?_ nofun
    unfold Converter.convertAs
    cases session.converter.fault <;> exact nofun

/-- the outcome for this markup is a success, and a formula is found in it -/
def IsFormula (markup : String) (outcome : Outcome) : Prop :=
  outcome.ok = true ∧ ∃ document preferAssistive, parse markup = .ok document ∧ Recognises preferAssistive document

theorem remembers_start (settings : Settings) (symbols : SymbolTable) : (start settings symbols).Remembers IsFormula := by
  intro markup outcome hremembered
  cases hremembered

/-- **one request**: only markup in which a formula is found is remembered -/
theorem remembers_answer (h : session.Remembers IsFormula) (request : Request) :
    (session.answer request).1.Remembers IsFormula := by
  refine h.answer ?_ request
  intro markup hok
  have hconverts := session.converts (some markup)
  generalize (session.convert (some markup)).1 = next, (session.convert (some markup)).2.value = outcome at hconverts hok ⊢
  cases hconverts with
  | rejected | unreadable | notFound => cases hok
  | reused _ _ hremembered => exact h markup outcome hremembered
  | @converted _ document root _ _ hparse hroot =>
    refine ⟨hok, document, session.converter.preferAssistive, hparse, ?_⟩
    rw [Recognises, hroot, Option.bind_some, Ne, ← value_convertNode_eq_notFound_iff]
    intro hnotFound
    rw [hnotFound] at hok
    cases hok

theorem remembers_after (h : session.Remembers IsFormula) (requests : List Request) :
    (session.after requests).Remembers IsFormula := by
  induction requests generalizing session with
  | nil => exact h
  | cons request rest ih => exact ih (remembers_answer h request)

/-- nothing is found in visible markup if no formula is found in its document -/
theorem convert_eq_notFound_iff (h : session.Remembers IsFormula) (hparse : parse text = .ok document) :
    (session.convert (some text)).2.value = .notFound ↔
      allBlank text.toList = false ∧ ¬ Recognises session.converter.preferAssistive document := by
  have hconverts := session.converts (some text)
  generalize (session.convert (some text)).1 = next, (session.convert (some text)).2.value = outcome at hconverts
  cases hconverts with
  | rejected hrejected => simp [hrejected text rfl]
  | reused hvisible _ hremembered =>
    obtain ⟨hok, found, preferAssistive, hfound, hrecognised⟩ := h text outcome hremembered
    rw [hparse] at hfound
    cases hfound
    refine iff_of_false ?_ fun hnone => hnone.2 ((recognises_iff hparse _ _).1 hrecognised)
    rintro rfl
    cases hok
  | unreadable _ _ hfault =>
    rw [hparse] at hfault
    cases hfault
  | notFound hvisible _ hfound hroot =>
    rw [hparse] at hfound
    cases hfound
    simp [hvisible, Recognises, hroot]
  | converted hvisible _ hfound hroot =>
    rw [hparse] at hfound
    cases hfound
    rw [value_convertNode_eq_notFound_iff]
    simp [hvisible, Recognises, hroot]

end Session

/-- **which documents with a formula are turned down**: after any run, and with whatever a session prefers and remembers, a
document that has a root is answered by "not found" exactly if the first container in it holds nothing that is recognised -/
theorem notFound_iff_container (settings : Settings) (symbols : SymbolTable) (requests : List Request) {text : String}
    {document : Node} (hparse : parse text = .ok document)
    (hroot : ∃ place ∈ (Located.top document).descendants, IsRoot place.node) :
    let session := (Session.start settings symbols).after requests
    (session.convert (some text)).2.value = .notFound ↔
      ∃ container, (Located.top document).selectNamed? "mjx-container" = some container ∧
        detect? session.converter.preferAssistive container = none := by
  intro session
  obtain ⟨place, hplace, hisRoot⟩ := hroot
  have hfolded := foldedBelow_of_parse hparse
  have hremembers : session.Remembers Session.IsFormula :=
    Session.remembers_after (Session.remembers_start settings symbols) requests
  have hnone : mathRoot? (.top document) ≠ none := Option.isSome_iff_ne_none.1 (isSome_mathRoot? hfolded hplace hisRoot)
  have hvisible : allBlank text.toList = false :=
    visible_of_isElement hparse (Located.node_mem_nodesOf hplace) (isElement_of_isRoot hisRoot)
  rw [Session.convert_eq_notFound_iff hremembers hparse, Recognises, Ne, not_not, rejected_iff hfolded]
  simp only [hvisible, hnone, true_and, false_or]
  refine exists_congr fun container => and_congr_right fun hcontainer => ?_
  exact (detect?_of_selected hfolded hcontainer _).symm

/-- two containers, the first with a formula -/
def fullThenEmpty : String :=
  "<mjx-container><math><mi>x</mi></math></mjx-container><mjx-container></mjx-container>"

theorem notFound_iff_container_of_full : ∃ document, parse fullThenEmpty = .ok document ∧
    (∃ place ∈ (Located.top document).descendants, IsRoot place.node) ∧
      ¬ ∃ container, (Located.top document).selectNamed? "mjx-container" = some container ∧ detect? true container = none := by
  have hclear : (tokens fullThenEmpty.toList).findSome? Token.fault? = none := by decide +kernel
  have hparse : parse fullThenEmpty = .ok (documentOf (tokens fullThenEmpty.toList)) := by rw [parse, hclear]
  have hany : (Located.top (documentOf (tokens fullThenEmpty.toList))).descendants.any
      (fun place => decide (IsRoot place.node)) = true := by decide +kernel
  obtain ⟨place, hplace, hisRoot⟩ := List.any_eq_true.1 hany
  have hroot : ∃ place ∈ (Located.top (documentOf (tokens fullThenEmpty.toList))).descendants, IsRoot place.node :=
    ⟨place, hplace, of_decide_eq_true hisRoot⟩
  refine ⟨documentOf (tokens fullThenEmpty.toList), hparse, hroot, fun hrejected => ?_⟩
  have hnotFound := (notFound_iff_container .default .default [] hparse hroot).2 hrejected
  have hfound : (((Session.start .default .default).after []).convert (some fullThenEmpty)).2.value =
      .converted .mathml ['x'] := by decide +kernel
  rw [hnotFound] at hfound
  cases hfound

/-- an empty container, and MathML behind it -/
def emptyThenMath : String :=
  "<mjx-container></mjx-container><math><mi>x</mi></math>"

/-- the formula behind an empty container is recognised on its own, but the document is turned down -/
theorem empty_container_hides_formula : ∃ document, parse emptyThenMath = .ok document ∧
    (∃ place ∈ (Located.top document).descendants, IsRoot place.node ∧ (detect? true place).isSome = true) ∧
      ((Session.start .default .default).convert (some emptyThenMath)).2.value = .notFound := by
  have hclear : (tokens emptyThenMath.toList).findSome? Token.fault? = none := by decide +kernel
  have hany : (Located.top (documentOf (tokens emptyThenMath.toList))).descendants.any
      (fun place => decide (IsRoot place.node) && (detect? true place).isSome) = true := by decide +kernel
  obtain ⟨place, hplace, hfound⟩ := List.any_eq_true.1 hany
  obtain ⟨hisRoot, hdetected⟩ := Bool.and_eq_true_iff.1 hfound
  refine ⟨documentOf (tokens emptyThenMath.toList), ?_, ⟨place, hplace, of_decide_eq_true hisRoot, hdetected⟩, ?_⟩
  · rw [parse, hclear]
  · decide +kernel

end Untypeset
