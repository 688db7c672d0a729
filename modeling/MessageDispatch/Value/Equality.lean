import MessageDispatch.Value

/-!
# Equality of texts and inputs

Texts and template inputs are compared by structure, floating numbers in them by value, and raw
arguments and targets by identity alone: two that were built apart differ whatever they hold, and a
copy equals what it was copied from.
-/

namespace MessageDispatch

/-- Equality of targets: the same object. -/
def Target.eqB : Target → Target → Bool
  | ⟨_, i⟩, ⟨_, j⟩ => i == j

mutual

/-- Equality of texts. -/
def Text.eqB : Text → Text → Bool
  | .literal a, .literal b => a == b
  | .translatable a, .translatable b => a.eqB b
  | .composite as, .composite bs => Text.eqListB as bs
  | _, _ => false
termination_by structural x => x

/-- Equality of lists of texts, place by place. -/
def Text.eqListB : List Text → List Text → Bool
  | [], [] => true
  | a :: as, b :: bs => a.eqB b && Text.eqListB as bs
  | _, _ => false
termination_by structural x => x

/-- Equality of translatable nodes: the same key and equal inputs. -/
def Translatable.eqB : Translatable → Translatable → Bool
  | ⟨k, is⟩, ⟨l, js⟩ => k == l && Input.eqListB is js
termination_by structural x => x

/-- Equality of lists of inputs, place by place. -/
def Input.eqListB : List Input → List Input → Bool
  | [], [] => true
  | a :: as, b :: bs => a.eqB b && Input.eqListB as bs
  | _, _ => false
termination_by structural x => x

/-- Equality of inputs. -/
def Input.eqB : Input → Input → Bool
  | .positional a, .positional b => a.eqB b
  | .named m a, .named n b => m == n && a.eqB b
  | .tag m a, .tag n b => m == n && a.eqB b
  | .bundle a, .bundle b => a.eqB b
  | .target a, .target b => a.eqB b
  | _, _ => false
termination_by structural x => x

/-- Equality of arguments. -/
def Argument.eqB : Argument → Argument → Bool
  | .component a, .component b => a.eqB b
  | .numeric a, .numeric b => a.eqB b
  | .boolean a, .boolean b => a == b
  | .raw _ i, .raw _ j => i == j
  | _, _ => false
termination_by structural x => x

/-- Equality of tags. -/
def Tag.eqB : Tag → Tag → Bool
  | .inserting a, .inserting b => a.eqB b
  | .preprocessed a, .preprocessed b => a == b
  | _, _ => false
termination_by structural x => x

/-- Equality of bundles: the same names in the same order, with equal tags. -/
def TagBundle.eqB : TagBundle → TagBundle → Bool
  | ⟨as⟩, ⟨bs⟩ => TagBundle.eqListB as bs
termination_by structural x => x

/-- Equality of lists of named tags, place by place. -/
def TagBundle.eqListB : List (String × Tag) → List (String × Tag) → Bool
  | [], [] => true
  | (m, a) :: as, (n, b) :: bs => m == n && a.eqB b && TagBundle.eqListB as bs
  | _, _ => false
termination_by structural x => x

end

end MessageDispatch
