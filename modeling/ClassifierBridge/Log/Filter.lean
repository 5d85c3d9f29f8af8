import ClassifierBridge.Log.Directive

/-!
# `ClassifierBridge.Log.Filter`: which events are recorded

A filter is a list of directives. Of those that concern an event the narrowest
one decides, and of two that are equally narrow the later one counts. An event
that no directive concerns is not recorded.

In a text, directives are separated by commas. What makes no sense is left out,
and a text without any directive stands for errors only.
-/

set_option autoImplicit false

namespace ClassifierBridge

/-- What is recorded, by the directives in the order in which they were given. -/
structure Filter where
  directives : List Directive
deriving DecidableEq, Repr

namespace Filter

/-- The parts of a text between its commas. -/
def parts : List Char → List (List Char)
  | [] => [[]]
  | c :: rest =>
    if c = ',' then [] :: parts rest
    else
      match parts rest with
      | [] => [[c]]
      | part :: others => (c :: part) :: others

/-- Reads a filter. -/
def ofText (text : String) : Filter :=
  match (parts text.toList).filterMap Directive.ofText? with
  | [] => ⟨[{ most := Level.error.rank }]⟩
  | directives => ⟨directives⟩

/-- The filter for hosts that name none. -/
def standard : Filter := ofText "info"

/-- Of two directives, the one that decides; `next` comes later in the filter. -/
def decisive (best : Option Directive) (next : Directive) : Option Directive :=
  match best with
  | none => some next
  | some d => if d.isNarrower next then some d else some next

/-- The directive that decides about an event. -/
def directiveFor (filter : Filter) (e : Event) : Option Directive :=
  (filter.directives.filter fun d => d.concerns e).foldl decisive none

/-- Whether an event is recorded. -/
def records (filter : Filter) (e : Event) : Bool :=
  match filter.directiveFor e with
  | none => false
  | some d => decide (e.level.rank ≤ d.most)

end Filter

/-- The lines that are recorded of a run's events. Without a filter there is no
log and nothing is recorded. -/
def logLines (filter : Option Filter) (events : List Event) : List String :=
  match filter with
  | none => []
  | some filter => (events.filter filter.records).map Event.line

end ClassifierBridge
