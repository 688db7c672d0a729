/-!
# Placeholder scopes

A scope says which placeholders a method asks for. It is attached to a method as a marker.
-/

namespace MessageDispatch

/-- Which placeholders are asked for. -/
inductive Scope where
  | global
  | audience
  | audienceGlobal
  | relational
  | relationalGlobal
  deriving DecidableEq, Repr

namespace Scope

/-- Every scope, in the order of declaration. -/
def all : List Scope :=
  [.global, .audience, .audienceGlobal, .relational, .relationalGlobal]

/-- The label of a scope. -/
def label : Scope → String
  | .global => "global"
  | .audience => "audience"
  | .audienceGlobal => "audience_global"
  | .relational => "relational"
  | .relationalGlobal => "relational_global"

theorem mem_all (s : Scope) : s ∈ all := by
  cases s <;> decide

end Scope

end MessageDispatch
