import Untypeset.Formula.Basic
import Untypeset.Note

/-!
Walks through a formula. A walk has a value and leaves a trace: the nodes it enters and leaves, and the notes it makes
on the way. Counts of nodes and depths are read off the trace, from whatever they are when the walk begins.
-/

namespace Untypeset

open Untypeset.Markup

/-- a step of a walk -/
inductive Step where
  | enter (position : Path)
  | leave
  | note (note : Note)
  deriving DecidableEq, Repr, Inhabited

/-- a value together with the steps taken to reach it -/
structure Walk (α : Type) where
  value : α
  trace : List Step

namespace Walk

/-- a value that takes no step -/
def still {α : Type} (value : α) : Walk α :=
  ⟨value, []⟩

/-- one walk after another -/
def andThen {α β : Type} (first : Walk α) (next : α → Walk β) : Walk β :=
  ⟨(next first.value).value, first.trace ++ (next first.value).trace⟩

instance : Monad Walk where
  pure := still
  bind := andThen

/-- makes a note -/
def note (note : Note) : Walk Unit :=
  ⟨(), [.note note]⟩

/-- walks inside a node -/
def inside {α : Type} (position : Path) (walk : Walk α) : Walk α :=
  ⟨walk.value, .enter position :: walk.trace ++ [.leave]⟩

/-- several walks one after the other, their sources joined -/
def concat : List (Walk Latex) → Walk Latex
  | [] => still []
  | walk :: rest => ⟨walk.value ++ (concat rest).value, walk.trace ++ (concat rest).trace⟩

/-- the notes of a walk -/
def notes {α : Type} (walk : Walk α) : List Note :=
  walk.trace.filterMap fun step =>
    match step with
    | .note note => some note
    | _ => none

/-- the positions of the nodes that a walk enters -/
def entered {α : Type} (walk : Walk α) : List Path :=
  walk.trace.filterMap fun step =>
    match step with
    | .enter position => some position
    | _ => none

@[simp] theorem value_pure {α : Type} (a : α) : (pure a : Walk α).value = a := rfl

@[simp] theorem trace_pure {α : Type} (a : α) : (pure a : Walk α).trace = [] := rfl

@[simp] theorem value_bind {α β : Type} (walk : Walk α) (next : α → Walk β) :
    (walk >>= next).value = (next walk.value).value := rfl

@[simp] theorem trace_bind {α β : Type} (walk : Walk α) (next : α → Walk β) :
    (walk >>= next).trace = walk.trace ++ (next walk.value).trace := rfl

@[simp] theorem value_note (n : Note) : (note n).value = () := rfl

@[simp] theorem trace_note (n : Note) : (note n).trace = [.note n] := rfl

@[simp] theorem value_inside {α : Type} (position : Path) (walk : Walk α) : (inside position walk).value = walk.value :=
  rfl

@[simp] theorem trace_inside {α : Type} (position : Path) (walk : Walk α) :
    (inside position walk).trace = .enter position :: walk.trace ++ [.leave] := rfl

@[simp] theorem value_concat (walks : List (Walk Latex)) : (concat walks).value = (walks.map (·.value)).flatten := by
  induction walks with
  | nil => rfl
  | cons walk rest ih => simp [concat, ih]

@[simp] theorem trace_concat (walks : List (Walk Latex)) : (concat walks).trace = (walks.map (·.trace)).flatten := by
  induction walks with
  | nil => rfl
  | cons walk rest ih => simp [concat, ih]

end Walk

/-- counts kept over a conversion -/
structure Tally where
  depth : Nat
  maxDepth : Nat
  visited : Nat
  deriving DecidableEq, Repr, Inhabited

namespace Tally

/-- the counts before anything is walked -/
def start : Tally :=
  ⟨0, 0, 0⟩

/-- the counts after one more step -/
def after (tally : Tally) : Step → Tally
  | .enter _ => ⟨tally.depth + 1, max tally.maxDepth (tally.depth + 1), tally.visited + 1⟩
  | .leave => { tally with depth := tally.depth - 1 }
  | .note _ => tally

/-- the counts after a walk -/
def follow {α : Type} (tally : Tally) (walk : Walk α) : Tally :=
  walk.trace.foldl after tally

end Tally

end Untypeset
