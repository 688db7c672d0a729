import MessageDispatch.Arguments.Positional
import MessageDispatch.Naming

/-!
# Named arguments

The named policy gives each argument a route by its parameter alone: conversion by the adapter under
a name; else, for three kinds of parameter that the adapter does not know, a tag under a name, a
bundle of tags, or the target. Names that are claimed must be distinct, and at most one target may
be supplied. Acceptance and adaptation share the routes (`NamedArguments.route?`), so a method that
was accepted has no argument without one.
-/

namespace MessageDispatch

/-- What is done with an argument. -/
inductive ArgumentRoute where
  | registry
  | tag
  | bundle
  | target
  deriving DecidableEq, Repr

/-- Arguments by name. -/
structure NamedArguments where
  adapter : Adapter
  naming : Naming

/-- The names claimed and the target seen among the arguments before a position. -/
structure Claims where
  names : List String
  target : Bool

/-- Nothing claimed yet. -/
def Claims.none : Claims :=
  ⟨[], false⟩

namespace NamedArguments

/-- The route of a parameter. -/
def route? (p : NamedArguments) (q : Parameter) : Option ArgumentRoute :=
  if p.adapter.supports q.type then some .registry
  else if q.type = .tag then some .tag
  else if q.type = .tagBundle then some .bundle
  else if q.isTarget then some .target
  else none

/-- Claims the name of an argument. -/
def claim (p : NamedArguments) (method : String) (claims : Claims) (a : Supplied) :
    Except InvocationError (String × Claims) :=
  match p.naming.resolve a.parameter with
  | none => .error (.unresolvableName method a.index)
  | some name =>
    if name ∈ claims.names then .error (.duplicateName method name)
    else .ok (name, { claims with names := name :: claims.names })

/-- The input that an argument adds, if any, and the claims after it. -/
def input (p : NamedArguments) (id : Identity) (method : String) (claims : Claims) (a : Supplied) :
    Except InvocationError (Option Input × Claims) :=
  match a.present method with
  | .error e => .error e
  | .ok v =>
    match p.route? a.parameter with
    | none => .error (.unsupportedParameter method a.index a.parameter.type)
    | some .registry =>
      match p.claim method claims a with
      | .error e => .error e
      | .ok (name, claims) =>
        match p.adapter.adaptSupplied id method a v with
        | .error e => .error e
        | .ok argument => .ok (some (.named name argument), claims)
    | some .tag =>
      match p.claim method claims a with
      | .error e => .error e
      | .ok (name, claims) =>
        match v with
        | none => .ok (none, claims)
        | some (.tag tag) => .ok (some (.tag name tag), claims)
        | some _ => .error (.typeMismatch method a.index a.parameter.type)
    | some .bundle =>
      match v with
      | none => .ok (none, claims)
      | some (.tagBundle tags) => .ok (some (.bundle tags), claims)
      | some _ => .error (.typeMismatch method a.index a.parameter.type)
    | some .target =>
      match v with
      | none => .ok (none, claims)
      | some v =>
        if claims.target then .error (.multipleTargets method)
        else
          match a.parameter.toTarget (id.part a.index) v with
          | none => .error (.typeMismatch method a.index a.parameter.type)
          | some target => .ok (some (.target target), { claims with target := true })

/-- The inputs of a list of arguments, up to the first that fails. -/
def inputs (p : NamedArguments) (id : Identity) (method : String) :
    Claims → List Supplied → Except InvocationError (List Input)
  | _, [] => .ok []
  | claims, a :: as =>
    match p.input id method claims a with
    | .error e => .error e
    | .ok (i, claims) =>
      match p.inputs id method claims as with
      | .error e => .error e
      | .ok is => .ok (i.toList ++ is)

/-- The inputs of a call. -/
def adapt (p : NamedArguments) (c : Call) : Except InvocationError (List Input) :=
  p.inputs c.identity c.method.name .none c.arguments

/-- Accepts a parameter after others; gives the claims after it. -/
def acceptParameter (p : NamedArguments) (method : String) (claims : Claims) (i : Nat)
    (q : Parameter) : Except ValidationError Claims :=
  match p.route? q with
  | none => .error (.unsupportedParameter method i q.type)
  | some .bundle => .ok claims
  | some .target =>
    if claims.target then .error (.multipleTargets method)
    else .ok { claims with target := true }
  | some .registry | some .tag =>
    match p.naming.resolve q with
    | none => .error (.unresolvableName method i q.label)
    | some name =>
      if name ∈ claims.names then .error (.duplicateName method name)
      else .ok { claims with names := name :: claims.names }

/-- Accepts the parameters from position `i` on. -/
def acceptFrom (p : NamedArguments) (method : String) :
    Claims → Nat → List Parameter → Except ValidationError Unit
  | _, _, [] => .ok ()
  | claims, i, q :: qs =>
    match p.acceptParameter method claims i q with
    | .error e => .error e
    | .ok claims => p.acceptFrom method claims (i + 1) qs

/-- Accepts the methods whose parameters have routes and distinct names, and at most one target. -/
def accept (p : NamedArguments) (m : Signature) : Except ValidationError Unit :=
  p.acceptFrom m.name .none 0 m.parameters

/-- How the policy is shown in diagnostics. -/
def describe (p : NamedArguments) : String :=
  s!"NamedArgumentPolicy \x7b adapter: {p.adapter.describe}, names: {p.naming.describe} \x7d"

end NamedArguments

end MessageDispatch
