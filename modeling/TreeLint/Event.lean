import TreeLint.Config.Problem
import TreeLint.Span.Unwind

/-!
# Events

What a run notes while it works: the causes, with the level, the component and the wording of each.
A computation that notes events is a value together with the events in order.

## Main definitions

* `Level`, `Component`: the levels of events and the parts of the program that note them
* `Event`: what can be noted
* `Logged`: a value with the events noted while computing it
* `SpanGraph.notedSite`: the user-visible site of a span, noting what prevents one
-/

namespace TreeLint

/-- The levels of events. -/
inductive Level where
  | debug
  | info
  | warning
  deriving DecidableEq, Repr

namespace Level

/-- The word for a level. -/
def name : Level → String
  | .debug => "DEBUG"
  | .info => "INFO"
  | .warning => "WARNING"

/-- Whether the level is at least a warning. -/
def isWarning : Level → Bool
  | .warning => true
  | _ => false

end Level

/-- The parts of the program that note events. -/
inductive Component where
  | span
  | config
  | registry
  | walker
  | engine
  | cli
  deriving DecidableEq, Repr

/-- The name of a component in the log. -/
def Component.name : Component → String
  | .span => "seclint.span"
  | .config => "seclint.config"
  | .registry => "seclint.registry"
  | .walker => "seclint.walker"
  | .engine => "seclint.engine"
  | .cli => "seclint.cli"

/-- What a run notes. -/
inductive Event where
  /-- A chain of call sites cannot be unwound, so its first span stands for it. -/
  | unwindFailed (start : Region) (fault : UnwindFault Region)
  /-- The settings of a rule have a problem. -/
  | settingsProblem (problem : ConfigProblem)
  /-- The configuration names a rule that does not exist. -/
  | unknownRule (problem : ConfigProblem)
  /-- The configuration disables a rule. -/
  | ruleDisabled (rule : String)
  /-- A rule cannot classify a node. -/
  | unclassified (rule kindName reason : String)
  /-- A rule fails on a node, or its diagnostics cannot be recorded. -/
  | ruleFailed (rule kindName : String)
  /-- The children of a node are not known. -/
  | childrenSkipped (kindName reason : String)
  /-- A unit was linted. -/
  | unitLinted (name : String) (rules diagnostics : Nat)
  /-- The dump of a file is linted next. -/
  | lintingFile (path : String)
  deriving DecidableEq, Repr

namespace Event

/-- The level of an event. -/
def level : Event → Level
  | .unwindFailed .. => .debug
  | .settingsProblem .. => .warning
  | .unknownRule .. => .warning
  | .ruleDisabled .. => .debug
  | .unclassified .. => .debug
  | .ruleFailed .. => .warning
  | .childrenSkipped .. => .warning
  | .unitLinted .. => .debug
  | .lintingFile .. => .info

/-- The component that notes an event. -/
def component : Event → Component
  | .unwindFailed .. => .span
  | .settingsProblem .. => .config
  | .unknownRule .. => .registry
  | .ruleDisabled .. => .registry
  | .unclassified .. => .walker
  | .ruleFailed .. => .walker
  | .childrenSkipped .. => .walker
  | .unitLinted .. => .engine
  | .lintingFile .. => .cli

/-- The wording of an event. -/
def message : Event → String
  | .unwindFailed start fault =>
    "Falling back to innermost span " ++ start.location ++ ": " ++ fault.message
  | .settingsProblem problem => problem.message
  | .unknownRule problem => problem.message
  | .ruleDisabled rule => "Rule " ++ rule ++ " disabled by configuration"
  | .unclassified rule kindName reason =>
    "Rule " ++ rule ++ " could not classify " ++ kindName ++ ": " ++ reason
  | .ruleFailed rule kindName => "Rule " ++ rule ++ " failed on " ++ kindName
  | .childrenSkipped kindName reason => "Skipping children of " ++ kindName ++ ": " ++ reason
  | .unitLinted name rules diagnostics =>
    "Linted unit " ++ name ++ " with " ++ toString rules ++ " rules: " ++ toString diagnostics ++
      " diagnostics"
  | .lintingFile path => "Linting " ++ path

end Event

/-- A value with the events noted while computing it, in order. -/
structure Logged (α : Type) where
  value : α
  events : List Event := []

namespace Logged

variable {α β : Type}

/-- Notes an event. -/
def note (event : Event) : Logged Unit := ⟨(), [event]⟩

instance : Monad Logged where
  pure a := ⟨a, []⟩
  bind x f := ⟨(f x.value).value, x.events ++ (f x.value).events⟩

@[simp]
theorem value_pure (a : α) : (pure a : Logged α).value = a := rfl

@[simp]
theorem events_pure (a : α) : (pure a : Logged α).events = [] := rfl

@[simp]
theorem value_bind (x : Logged α) (f : α → Logged β) : (x >>= f).value = (f x.value).value := rfl

@[simp]
theorem events_bind (x : Logged α) (f : α → Logged β) :
    (x >>= f).events = x.events ++ (f x.value).events := rfl

end Logged

/-- The user-visible site of a span of a graph. A chain that cannot be unwound is noted. -/
def SpanGraph.notedSite {n : Nat} (g : SpanGraph n) (limit : Option Int) (i : Fin n) :
    Logged (Fin n) :=
  match g.userSite limit i with
  | (site, none) => pure site
  | (site, some fault) => ⟨site, [.unwindFailed (g.region i) (fault.map g.region)]⟩

end TreeLint
