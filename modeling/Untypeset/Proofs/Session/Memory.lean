import Mathlib.Data.List.Zip
import Untypeset.Web.Service

/-!
What a session remembers cannot be told from its outcomes. As long as its converter is left alone, a request comes to what it
comes to in a session that remembers nothing, whatever was asked before it and however often caching was switched on and off.

Results:
- `Recalls.answer`: one request has the outcome it has alone, and leaves a session that remembers nothing false;
- `Recalls.outcomes`: so has every request of a run;
- `caching_unobservable`: sessions with and without a memory have the same outcomes and the same responses, and the order of
  the requests does not matter to any of them.

A request for the text alone gets the text of the outcome (`Outcome.text`), so nothing need be said about it.
-/

namespace Untypeset

open Untypeset.Markup Untypeset.Rendering

namespace Request

/-- the same request, except that it switches caching off where it would switch it on -/
def uncached : Request → Request
  | .configure caching preferAssistive => .configure (caching.map fun _ => false) preferAssistive
  | request => request

/-- whether the converter is the same after a request -/
def Spares (converter : Converter) : Request → Prop
  | .configure _ preferAssistive => preferAssistive.getD converter.preferAssistive = converter.preferAssistive
  | .setFault message => message.map (·.toList) = converter.fault
  | .convert _ | .convertNode _ | .clear => True

end Request

namespace Session

/-- the session with nothing remembered and with caching switched off -/
def forgetful (session : Session) : Session :=
  { session with caching := false, remembered := none }

/-- the outcome of a request on its own -/
def alone (session : Session) (request : Request) : Option Outcome :=
  (session.forgetful.answer request).2.value

/-- the second session converts like the first, and the outcome it remembers is the one that the first comes to -/
structure Recalls (reference session : Session) : Prop where
  converter : session.converter = reference.converter
  normalizeSpaces : session.normalizeSpaces = reference.normalizeSpaces
  dropPeriod : session.dropPeriod = reference.dropPeriod
  remembered : ∀ markup outcome, session.remembered = some (markup, outcome) →
    (reference.convertFresh markup).2.value = outcome

variable {reference session : Session}

theorem Recalls.of_empty (h : session.remembered = none) : Recalls session session where
  converter := rfl
  normalizeSpaces := rfl
  dropPeriod := rfl
  remembered := by
    intro markup outcome hremembered
    rw [h] at hremembered
    cases hremembered

theorem Recalls.forgetful (h : Recalls reference session) : Recalls reference session.forgetful where
  converter := h.converter
  normalizeSpaces := h.normalizeSpaces
  dropPeriod := h.dropPeriod
  remembered := by
    intro markup outcome hremembered
    cases hremembered

theorem Recalls.refl_forgetful (reference : Session) : Recalls reference reference.forgetful where
  converter := rfl
  normalizeSpaces := rfl
  dropPeriod := rfl
  remembered := by
    intro markup outcome hremembered
    cases hremembered

/-! ## One request -/

theorem Recalls.value_convertNode (h : Recalls reference session) (place : Option Located) :
    (session.convertNode place).2.value = (reference.convertNode place).2.value := by
  simp only [convertNode, h.converter]
  cases (reference.converter.convert place).value with
  | converted shape latex => simp only [tidy, h.normalizeSpaces, h.dropPeriod]
  | notFound | invalidInput | unreadable | broken => rfl

theorem Recalls.value_convertFresh (h : Recalls reference session) (markup : String) :
    (session.convertFresh markup).2.value = (reference.convertFresh markup).2.value := by
  unfold convertFresh
  cases parse markup with
  | error fault => rfl
  | ok document =>
    cases hroot : mathRoot? (Located.top document) with
    | none => simp only [hroot]
    | some root =>
      simp only [hroot]
      exact h.value_convertNode (some root)

/-- what is reused is what would be found again -/
theorem Recalls.value_reusable (h : Recalls reference session) {markup : String} {outcome : Outcome}
    (hreusable : session.reusable? markup = some outcome) : (reference.convertFresh markup).2.value = outcome := by
  unfold reusable? at hreusable
  split at hreusable
  · split at hreusable
    · rename_i known stored hremembered
      split at hreusable
      · rename_i hknown
        cases hreusable
        rw [← hknown]
        exact h.remembered known _ hremembered
      · cases hreusable
    · cases hreusable
  · cases hreusable

theorem reusable?_forgetful (session : Session) (markup : String) : session.forgetful.reusable? markup = none := rfl

theorem Recalls.value_convert (h : Recalls reference session) (markup : Option String) :
    (session.convert markup).2.value = (reference.forgetful.convert markup).2.value := by
  unfold convert
  split
  · rfl
  · rename_i text _
    rw [reusable?_forgetful]
    have hfresh := (refl_forgetful reference).value_convertFresh text
    cases hreusable : session.reusable? text with
    | none =>
      calc (session.convertFresh text).2.value
          = (reference.convertFresh text).2.value := h.value_convertFresh text
        _ = (reference.forgetful.convertFresh text).2.value := hfresh.symm
    | some outcome =>
      calc outcome
          = (reference.convertFresh text).2.value := (h.value_reusable hreusable).symm
        _ = (reference.forgetful.convertFresh text).2.value := hfresh.symm

theorem Recalls.convertNode (h : Recalls reference session) (place : Option Located) :
    Recalls reference (session.convertNode place).1 :=
  ⟨h.converter, h.normalizeSpaces, h.dropPeriod, h.remembered⟩

/-- only what a markup comes to is remembered with it -/
theorem Recalls.remember (h : Recalls reference session) {markup : String} {outcome : Outcome}
    (houtcome : (reference.convertFresh markup).2.value = outcome) : Recalls reference (session.remember markup outcome) := by
  unfold Session.remember
  split
  · refine ⟨h.converter, h.normalizeSpaces, h.dropPeriod, ?_⟩
    intro known remembered hremembered
    cases hremembered
    exact houtcome
  · exact h

/-- a conversion remembers its own outcome or nothing new -/
theorem session_convertFresh (session : Session) (markup : String) :
    (session.convertFresh markup).1 = session ∨
      ∃ root, (session.convertFresh markup).1 =
        (session.convertNode root).1.remember markup (session.convertFresh markup).2.value := by
  unfold Session.convertFresh
  cases parse markup with
  | error fault => exact .inl rfl
  | ok document =>
    cases hroot : mathRoot? (Located.top document) with
    | none =>
      left
      simp only [hroot]
    | some root =>
      right
      refine ⟨some root, ?_⟩
      simp only [hroot]

theorem Recalls.convertFresh (h : Recalls reference session) (markup : String) :
    Recalls reference (session.convertFresh markup).1 := by
  rcases session_convertFresh session markup with hsame | ⟨root, hnew⟩
  · rw [hsame]
    exact h
  · rw [hnew]
    exact (h.convertNode root).remember (h.value_convertFresh markup).symm

theorem Recalls.convert (h : Recalls reference session) (markup : Option String) :
    Recalls reference (session.convert markup).1 := by
  unfold Session.convert
  split
  · exact h
  · split
    · exact h
    · exact h.convertFresh _

/-- **a request has the outcome it has alone, and nothing false is remembered behind it** -/
theorem Recalls.answer (h : Recalls reference session) {request : Request} (hspares : request.Spares reference.converter) :
    (session.answer request).2.value = reference.alone request ∧ Recalls reference (session.answer request).1 := by
  cases request with
  | convert markup => exact ⟨congrArg some (h.value_convert markup), h.convert markup⟩
  | convertNode place =>
    have hvalue : (session.convertNode place).2.value = (reference.forgetful.convertNode place).2.value :=
      calc (session.convertNode place).2.value
          = (reference.convertNode place).2.value := h.value_convertNode place
        _ = (reference.forgetful.convertNode place).2.value := ((refl_forgetful reference).value_convertNode place).symm
    exact ⟨congrArg some hvalue, h.convertNode place⟩
  | clear => exact ⟨rfl, h.converter, h.normalizeSpaces, h.dropPeriod, h.forgetful.remembered⟩
  | configure caching preferAssistive =>
    refine ⟨rfl, ?_, h.normalizeSpaces, h.dropPeriod, h.remembered⟩
    have hprefer : preferAssistive.getD reference.converter.preferAssistive = reference.converter.preferAssistive := hspares
    simp only [Session.answer, h.converter, hprefer]
  | setFault message =>
    refine ⟨rfl, ?_, h.normalizeSpaces, h.dropPeriod, h.remembered⟩
    have hfault : message.map (·.toList) = reference.converter.fault := hspares
    simp only [Session.answer, h.converter, hfault]

/-! ## Runs -/

theorem Recalls.outcomes (h : Recalls reference session) {requests : List Request}
    (hspares : ∀ request ∈ requests, request.Spares reference.converter) :
    session.outcomes requests = requests.map reference.alone := by
  induction requests generalizing session with
  | nil => rfl
  | cons request rest ih =>
    obtain ⟨hvalue, hnext⟩ := h.answer (hspares request List.mem_cons_self)
    rw [Session.outcomes, List.map_cons, hvalue, ih hnext fun other hother => hspares other (List.mem_cons_of_mem _ hother)]

theorem spares_uncached {converter : Converter} {request : Request} (h : request.Spares converter) :
    request.uncached.Spares converter := by
  cases request <;> exact h

theorem alone_uncached (session : Session) (request : Request) : session.alone request.uncached = session.alone request := by
  cases request <;> rfl

end Session

/-! ## Requests to the service -/

namespace Web

/-- the response to a request on its own -/
def responseAlone (session : Session) (request : HttpRequest) : Response :=
  (respond session.forgetful request).2.value

/-- the response that an outcome of a conversion is told in -/
def Response.ofOutcome : Outcome → Response
  | .converted shape latex => .converted shape latex
  | .unreadable fault => .failed fault
  | outcome => .refused outcome.text

theorem value_convertMarkup (session : Session) (markup : String) :
    (convertMarkup session markup).2.value = Response.ofOutcome (session.convert (some markup)).2.value := by
  unfold convertMarkup
  cases h : (session.convert (some markup)).2.value <;> simp only [h] <;> rfl

theorem session_convertMarkup (session : Session) (markup : String) :
    (convertMarkup session markup).1 = (session.convert (some markup)).1 := by
  unfold convertMarkup
  cases h : (session.convert (some markup)).2.value <;> simp only [h]

end Web

namespace Session

open Untypeset.Web

variable {reference session : Session}

/-- a request to the service has the response it has alone, and nothing false is remembered behind it -/
theorem Recalls.respond (h : Recalls reference session) (request : HttpRequest) :
    (respond session request).2.value = responseAlone reference request ∧ Recalls reference (respond session request).1 := by
  unfold responseAlone Web.respond
  split
  · exact ⟨rfl, h⟩
  · split
    · exact ⟨rfl, h⟩
    · split
      · exact ⟨rfl, h⟩
      · exact ⟨rfl, h⟩
      · split
        · exact ⟨rfl, h⟩
        · rename_i markup _
          rw [value_convertMarkup, value_convertMarkup, session_convertMarkup, h.value_convert]
          exact ⟨rfl, h.convert (some markup)⟩

theorem Recalls.responses (h : Recalls reference session) (requests : List HttpRequest) :
    responses session requests = requests.map (responseAlone reference) := by
  induction requests generalizing session with
  | nil => rfl
  | cons request rest ih =>
    obtain ⟨hvalue, hnext⟩ := h.respond request
    rw [Web.responses, List.map_cons, hvalue, ih hnext]

end Session

/-- **caching cannot be observed**: a session that starts with nothing remembered has, request by request, the outcomes of a
session that never remembers, and each of them depends on its own request only; the same holds of the responses of the
service, which therefore go with their requests in whatever order these come -/
theorem caching_unobservable (session : Session) (hempty : session.remembered = none) (requests : List Request)
    (hspares : ∀ request ∈ requests, request.Spares session.converter) (calls : List Web.HttpRequest) :
    session.outcomes requests = session.forgetful.outcomes (requests.map Request.uncached) ∧
      session.outcomes requests = requests.map session.alone ∧
      Web.responses session calls = Web.responses session.forgetful calls ∧
      Web.responses session calls = calls.map (Web.responseAlone session) ∧
      ∀ reordered, calls.Perm reordered →
        (calls.zip (Web.responses session calls)).Perm (reordered.zip (Web.responses session reordered)) := by
  have hrecalls : Session.Recalls session session := .of_empty hempty
  have huncached : session.forgetful.outcomes (requests.map Request.uncached) = requests.map session.alone := by
    rw [hrecalls.forgetful.outcomes, List.map_map]
    · exact List.map_congr_left fun request _ => session.alone_uncached request
    · intro request hrequest
      obtain ⟨original, horiginal, rfl⟩ := List.mem_map.1 hrequest
      exact Session.spares_uncached (hspares original horiginal)
  have hresponses := hrecalls.responses
  refine ⟨?_, hrecalls.outcomes hspares, ?_, hresponses calls, ?_⟩
  · calc session.outcomes requests
        = requests.map session.alone := hrecalls.outcomes hspares
      _ = session.forgetful.outcomes (requests.map Request.uncached) := huncached.symm
  · rw [hresponses, hrecalls.forgetful.responses]
  · intro reordered hperm
    rw [hresponses, hresponses, ← List.map_prod_left_eq_zip, ← List.map_prod_left_eq_zip]
    exact hperm.map _

/-- a session with the default settings and tables -/
def defaultSession : Session :=
  .start .default .default

/-- the same markup twice with caching switched off and on in between, something that is no text, and a node -/
def repeatedRequests : List Request :=
  [.convert (some "<math><mi>x</mi></math>"), .configure (some false) none, .convert none, .configure (some true) (some true),
    .convert (some "<math><mi>x</mi></math>"), .clear, .convertNode (some (.top (.element "math" [] [])))]

/-- a request for a conversion and a question for another resource -/
def twoCalls : List Web.HttpRequest :=
  [⟨"POST", "/convert", "\x7b\"markup\": \"<math><mi>x</mi></math>\"\x7d".toUTF8.toList⟩, ⟨"GET", "/health", []⟩]

theorem caching_unobservable_of_repeated :
    defaultSession.remembered = none ∧ (∀ request ∈ repeatedRequests, request.Spares defaultSession.converter) ∧
      defaultSession.outcomes repeatedRequests =
        defaultSession.forgetful.outcomes (repeatedRequests.map Request.uncached) ∧
      defaultSession.outcomes repeatedRequests = repeatedRequests.map defaultSession.alone ∧
      Web.responses defaultSession twoCalls = Web.responses defaultSession.forgetful twoCalls ∧
      Web.responses defaultSession twoCalls = twoCalls.map (Web.responseAlone defaultSession) ∧
      ∀ reordered, twoCalls.Perm reordered →
        (twoCalls.zip (Web.responses defaultSession twoCalls)).Perm
          (reordered.zip (Web.responses defaultSession reordered)) := by
  have hspares : ∀ request ∈ repeatedRequests, request.Spares defaultSession.converter := by
    simp [repeatedRequests, Request.Spares, defaultSession, Session.start, Settings.default]
  exact ⟨rfl, hspares, caching_unobservable defaultSession rfl repeatedRequests hspares twoCalls⟩

end Untypeset
