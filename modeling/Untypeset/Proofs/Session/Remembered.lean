import Mathlib.Data.List.Induction
import Untypeset.Proofs.Session.Step

/-!
What a session remembers, read off its history. After any run it is the markup and the outcome of the last successful
conversion that was made with caching on since the memory was last cleared, and nothing if there is none.

Results:
- `remembered_answer`: one request clears the memory, or puts its own pair there, or leaves it alone;
- `remembered_after`: so after a run the memory is what its history says (`lastKept?`);
- `conversions_answer`: the converter is asked for a node, and for markup that is visible, not remembered and holds a formula.
-/

namespace Untypeset

open Untypeset.Markup Untypeset.Rendering Untypeset.Text

/-- one step of a run: whether caching was on when it was made, what was asked, and what came of it -/
structure Exchange where
  caching : Bool
  request : Request
  outcome : Option Outcome

namespace Exchange

/-- the markup and the outcome of a successful conversion that was made with caching on -/
def kept? : Exchange → Option (String × Outcome)
  | ⟨true, .convert (some markup), some outcome⟩ => if outcome.ok then some (markup, outcome) else none
  | _ => none

/-- whether the memory was cleared -/
def clears (exchange : Exchange) : Bool :=
  match exchange.request with
  | .clear => true
  | .convert _ | .convertNode _ | .configure .. | .setFault _ => false

theorem of_kept? {exchange : Exchange} {markup : String} {outcome : Outcome} (h : exchange.kept? = some (markup, outcome)) :
    exchange = ⟨true, .convert (some markup), some outcome⟩ ∧ outcome.ok = true := by
  unfold kept? at h
  split at h
  · split at h
    · rename_i hok
      cases h
      exact ⟨rfl, hok⟩
    · cases h
  · cases h

end Exchange

/-- the pair of the latest successful conversion that was made with caching on since the memory was last cleared -/
def lastKept? (history : List Exchange) : Option (String × Outcome) :=
  (history.reverse.takeWhile fun exchange => !exchange.clears).findSome? Exchange.kept?

theorem lastKept?_concat (history : List Exchange) (exchange : Exchange) :
    lastKept? (history ++ [exchange]) = if exchange.clears then none else exchange.kept?.or (lastKept? history) := by
  rw [lastKept?, List.reverse_concat, List.takeWhile_cons]
  cases hclears : exchange.clears with
  | true => rfl
  | false =>
    simp only [Bool.not_false, if_true, Bool.false_eq_true, if_false]
    rw [List.findSome?_cons]
    cases exchange.kept? <;> rfl

namespace Session

variable {session : Session}

/-- the step of a run in which a session answers a request -/
def exchange (session : Session) (request : Request) : Exchange :=
  ⟨session.caching, request, (session.answer request).2.value⟩

/-- the steps of a run -/
def exchanges (session : Session) : List Request → List Exchange
  | [] => []
  | request :: rest => session.exchange request :: (session.answer request).1.exchanges rest

theorem after_concat (session : Session) (requests : List Request) (request : Request) :
    session.after (requests ++ [request]) = ((session.after requests).answer request).1 :=
  List.foldl_append

theorem exchanges_concat (session : Session) (requests : List Request) (request : Request) :
    session.exchanges (requests ++ [request]) =
      session.exchanges requests ++ [(session.after requests).exchange request] := by
  induction requests generalizing session with
  | nil => rfl
  | cons first rest ih =>
    rw [List.cons_append, exchanges, ih, exchanges, List.cons_append]
    rfl

/-! ## One request -/

/-- a failure puts nothing into the memory -/
theorem kept?_of_not_ok {caching : Bool} {markup : Option String} {outcome : Outcome} (h : outcome.ok = false) :
    Exchange.kept? ⟨caching, .convert markup, some outcome⟩ = none := by
  cases caching with
  | false => rfl
  | true =>
    cases markup with
    | none => rfl
    | some text => simp [Exchange.kept?, h]

theorem remembered_remember (session : Session) (markup : String) (outcome : Outcome) :
    (session.remember markup outcome).remembered =
      if session.caching && outcome.ok then some (markup, outcome) else session.remembered := by
  unfold remember
  split <;> rfl

theorem remembered_convert (session : Session) (markup : Option String) :
    (session.convert markup).1.remembered =
      (session.exchange (.convert markup)).kept?.or session.remembered := by
  have hconverts := session.converts markup
  have hexchange : session.exchange (.convert markup) =
      ⟨session.caching, .convert markup, some (session.convert markup).2.value⟩ := rfl
  rw [hexchange]
  generalize (session.convert markup).1 = next, (session.convert markup).2.value = outcome at hconverts
  cases hconverts with
  | rejected | unreadable | notFound => rw [kept?_of_not_ok rfl, Option.none_or]
  | reused _ hcaching hremembered =>
    -- what is reused is put where it is already
    rw [hcaching, hremembered, Exchange.kept?]
    split <;> rfl
  | @converted text _ root =>
    have hcaching : (session.convertNode (some root)).1.caching = session.caching := rfl
    have hremembered : (session.convertNode (some root)).1.remembered = session.remembered := rfl
    rw [remembered_remember, hcaching, hremembered]
    cases session.caching with
    | false => rfl
    | true =>
      cases hok : (session.convertNode (some root)).2.value.ok with
      | false =>
        rw [kept?_of_not_ok hok]
        rfl
      | true => simp [Exchange.kept?, hok]

/-- **one request clears the memory, puts its own pair there, or leaves it alone** -/
theorem remembered_answer (session : Session) (request : Request) :
    (session.answer request).1.remembered =
      if (session.exchange request).clears then none else (session.exchange request).kept?.or session.remembered := by
  cases request with
  | convert markup => exact remembered_convert session markup
  | convertNode | clear | configure | setFault =>
    cases hcaching : session.caching <;> simp [exchange, Exchange.clears, Exchange.kept?, hcaching] <;> rfl

theorem remembered_eq_of_kept? {request : Request} (hclears : (session.exchange request).clears = false)
    (hkept : (session.exchange request).kept? = none) :
    (session.answer request).1.remembered = session.remembered := by
  rw [remembered_answer, hclears, hkept]
  rfl

/-- whether `P` holds of the markup and the outcome that are remembered -/
def Remembers (P : String → Outcome → Prop) (session : Session) : Prop :=
  ∀ markup outcome, session.remembered = some (markup, outcome) → P markup outcome

/-- what holds of every success, as long as it holds of what is remembered, holds of what is remembered after a request -/
theorem Remembers.answer {P : String → Outcome → Prop} (h : session.Remembers P)
    (hconvert : ∀ markup, (session.convert (some markup)).2.value.ok = true → P markup (session.convert (some markup)).2.value)
    (request : Request) : (session.answer request).1.Remembers P := by
  intro markup outcome hremembered
  rw [remembered_answer] at hremembered
  split at hremembered
  · cases hremembered
  · rcases Option.or_eq_some_iff.1 hremembered with hkept | ⟨-, hbefore⟩
    · obtain ⟨hexchange, hok⟩ := Exchange.of_kept? hkept
      injection hexchange with _ hrequest houtcome
      subst hrequest
      cases houtcome
      exact hconvert markup hok
    · exact h markup outcome hbefore

/-! ## Runs -/

theorem remembered_after (session : Session) (hempty : session.remembered = none) (requests : List Request) :
    (session.after requests).remembered = lastKept? (session.exchanges requests) := by
  induction requests using List.reverseRecOn with
  | nil => exact hempty
  | append_singleton requests request ih =>
    rw [after_concat, exchanges_concat, lastKept?_concat, remembered_answer, ih]

/-- what is remembered is a success -/
theorem ok_of_lastKept? {history : List Exchange} {markup : String} {outcome : Outcome}
    (h : lastKept? history = some (markup, outcome)) : outcome.ok = true := by
  obtain ⟨exchange, -, hkept⟩ := List.exists_of_findSome?_eq_some h
  exact (Exchange.of_kept? hkept).2

/-! ## The converter -/

/-- whether a request hands a node to the converter: a node does, and so does visible markup that is not reused and in which
a formula is found -/
def Reaches (session : Session) : Request → Prop
  | .convertNode _ => True
  | .convert markup => ∃ text document root, markup = some text ∧ allBlank text.toList = false ∧
    ¬ (session.caching = true ∧ ∃ outcome, session.remembered = some (text, outcome)) ∧
      parse text = .ok document ∧ mathRoot? (.top document) = some root
  | .clear | .configure .. | .setFault _ => False

theorem conversions_remember (session : Session) (markup : String) (outcome : Outcome) :
    (session.remember markup outcome).conversions = session.conversions := by
  unfold remember
  split <;> rfl

/-- a conversion of markup asks the converter once or not at all -/
theorem conversions_convert (session : Session) (markup : Option String) :
    session.Reaches (.convert markup) ∧ (session.convert markup).1.conversions = session.conversions + 1 ∨
      ¬ session.Reaches (.convert markup) ∧ (session.convert markup).1.conversions = session.conversions := by
  have hconverts := session.converts markup
  generalize (session.convert markup).1 = next, (session.convert markup).2.value = outcome at hconverts
  cases hconverts with
  | rejected hrejected =>
    refine .inr ⟨?_, rfl⟩
    rintro ⟨text, document, root, hmarkup, hvisible, -⟩
    rw [hrejected text hmarkup] at hvisible
    cases hvisible
  | reused _ hcaching hremembered =>
    refine .inr ⟨?_, rfl⟩
    rintro ⟨_, document, root, ⟨⟩, -, hfresh, -⟩
    exact hfresh ⟨hcaching, _, hremembered⟩
  | unreadable _ _ hparse =>
    refine .inr ⟨?_, rfl⟩
    rintro ⟨_, document, root, ⟨⟩, -, -, hdocument, -⟩
    rw [hparse] at hdocument
    cases hdocument
  | notFound _ _ hparse hroot =>
    refine .inr ⟨?_, rfl⟩
    rintro ⟨_, document, root, ⟨⟩, -, -, hdocument, hfound⟩
    rw [hparse] at hdocument
    cases hdocument
    rw [hroot] at hfound
    cases hfound
  | converted hvisible hreusable hparse hroot =>
    refine .inl ⟨⟨_, _, _, rfl, hvisible, ?_, hparse, hroot⟩, conversions_remember _ _ _⟩
    rintro ⟨hcaching, outcome, hremembered⟩
    rw [reusable?_eq_some_iff.2 ⟨hcaching, hremembered⟩] at hreusable
    cases hreusable

theorem conversions_answer (session : Session) (request : Request) :
    session.Reaches request ∧ (session.answer request).1.conversions = session.conversions + 1 ∨
      ¬ session.Reaches request ∧ (session.answer request).1.conversions = session.conversions := by
  cases request with
  | convert markup => exact conversions_convert session markup
  | convertNode place => exact .inl ⟨trivial, rfl⟩
  | clear | configure | setFault => exact .inr ⟨id, rfl⟩

/-- **the memory is the last success**: after any run a session remembers the pair of the latest successful conversion that
was made with caching on since the memory was last cleared; a failure, a conversion of a node and a change of settings leave
the memory as it is, and the converter is asked exactly where nothing can be reused -/
theorem remembers_last_success (settings : Settings) (symbols : Symbol.SymbolTable) (requests : List Request) :
    let session := (start settings symbols).after requests
    session.remembered = lastKept? ((start settings symbols).exchanges requests) ∧
      (∀ markup outcome, session.remembered = some (markup, outcome) → outcome.ok = true) ∧
      (∀ markup outcome, (session.answer (.convert markup)).2.value = some outcome → outcome.ok = false →
        (session.answer (.convert markup)).1.remembered = session.remembered) ∧
      (∀ place, (session.answer (.convertNode place)).1.remembered = session.remembered) ∧
      (∀ caching preferAssistive,
        (session.answer (.configure caching preferAssistive)).1.remembered = session.remembered) ∧
      (∀ message, (session.answer (.setFault message)).1.remembered = session.remembered) ∧
      ∀ request, ((session.answer request).1.conversions = session.conversions + 1 ↔ session.Reaches request) ∧
        ((session.answer request).1.conversions = session.conversions ↔ ¬ session.Reaches request) := by
  intro session
  have hremembered : session.remembered = lastKept? ((start settings symbols).exchanges requests) :=
    remembered_after _ rfl requests
  refine ⟨hremembered, ?_, ?_, fun _ => rfl, fun _ _ => rfl, fun _ => rfl, ?_⟩
  · intro markup outcome hsome
    rw [hremembered] at hsome
    exact ok_of_lastKept? hsome
  · intro markup outcome houtcome hfailed
    apply remembered_eq_of_kept? rfl
    rw [exchange, houtcome]
    exact kept?_of_not_ok hfailed
  · intro request
    rcases session.conversions_answer request with ⟨hreaches, hconversions⟩ | ⟨hreaches, hconversions⟩
    · simp [hreaches, hconversions]
    · simp [hreaches, hconversions]

/-- a success, and conversions that break off from then on -/
def interruptedRequests : List Request :=
  [.convert (some "<math><mi>x</mi></math>"), .setFault (some "interrupted")]

theorem remembers_last_success_of_interrupted :
    let session := (start .default .default).after interruptedRequests
    let failing : Request := .convert (some "<math><mi>y</mi></math>")
    (session.answer failing).2.value = some (.broken .mathml "interrupted".toList) ∧
      (session.answer failing).1.remembered = some ("<math><mi>x</mi></math>", .converted .mathml ['x']) := by
  intro session failing
  have hfailed : (session.answer failing).2.value = some (.broken .mathml "interrupted".toList) := by decide +kernel
  have hbefore : session.remembered = some ("<math><mi>x</mi></math>", .converted .mathml ['x']) := by decide +kernel
  obtain ⟨-, -, hkept, -⟩ := remembers_last_success .default .default interruptedRequests
  exact ⟨hfailed, (hkept _ _ hfailed rfl).trans hbefore⟩

end Session

end Untypeset
