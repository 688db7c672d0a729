import MessageDispatch.Contract.Body

/-!
# Contracts

A contract is a list of methods with distinct names. Message methods go through the policies, the
three identity methods are answered by the dispatcher itself, and provided methods run their body.
Building a contract adds the identity methods that were not declared; a name that occurs twice is an
error.
-/

namespace MessageDispatch

/-- The methods that every dispatcher answers about itself. -/
inductive IdentityMethod where
  | equals
  | hash
  | display
  deriving DecidableEq, Repr

namespace IdentityMethod

/-- Every identity method, in the order in which missing ones are added. -/
def all : List IdentityMethod :=
  [.equals, .hash, .display]

/-- The name of the method. -/
def name : IdentityMethod → String
  | .equals => "equals"
  | .hash => "hash_code"
  | .display => "to_string"

/-- How the method is shown in diagnostics. -/
def describe : IdentityMethod → String
  | .equals => "Equals"
  | .hash => "Hash"
  | .display => "Display"

/-- The type of the answer. -/
def produces : IdentityMethod → Ty
  | .equals => .bool
  | .hash => .integer ⟨false, .w64⟩
  | .display => .string

/-- The parameters: equality takes the other dispatcher, or null. -/
def parameters : IdentityMethod → List Parameter
  | .equals => [{ type := .dispatcher, identifier := some "other", nullable := true }]
  | .hash => []
  | .display => []

end IdentityMethod

/-- How a method is answered. -/
inductive MethodKind where
  | message
  | identity (which : IdentityMethod)
  | provided (body : Body)

namespace MethodKind

/-- Equality of kinds; bodies are compared by identity. -/
def eqB : MethodKind → MethodKind → Bool
  | .message, .message => true
  | .identity a, .identity b => a == b
  | .provided a, .provided b => a.identity == b.identity
  | _, _ => false

/-- How a kind is shown in diagnostics. -/
def describe : MethodKind → String
  | .message => "Message"
  | .identity which => s!"Identity({which.describe})"
  | .provided _ => "Provided(ProvidedBody)"

end MethodKind

/-- A method of a contract. -/
structure Method where
  signature : Signature
  kind : MethodKind

namespace Method

/-- The name of a method. -/
def name (m : Method) : String :=
  m.signature.name

/-- The method goes through the policies. -/
def isMessage (m : Method) : Bool :=
  match m.kind with
  | .message => true
  | _ => false

/-- A message method. -/
def message (s : Signature) : Method :=
  ⟨s, .message⟩

/-- An identity method, as it is declared when nothing else is said. -/
def identity (which : IdentityMethod) : Method :=
  ⟨{ name := which.name, parameters := which.parameters, returns := which.produces },
    .identity which⟩

/-- A method with a body; it is declared to return what the body produces. -/
def provided (name : String) (body : Body) : Method :=
  ⟨{ name := name, returns := body.produces }, .provided body⟩

end Method

/-- Methods of distinct names. -/
structure Contract where
  name : String
  methods : List Method
  distinct : (methods.map (·.name)).Nodup

/-- The first string of a list that occurs before it as well, or in `seen`. -/
def firstRepeat? (seen : List String) : List String → Option String
  | [] => none
  | s :: rest => if s ∈ seen then some s else firstRepeat? (s :: seen) rest

theorem firstRepeat?_eq_none_iff {seen names : List String} :
    firstRepeat? seen names = none ↔ names.Nodup ∧ ∀ s ∈ names, s ∉ seen := by
  induction names generalizing seen with
  | nil => simp [firstRepeat?]
  | cons s rest ih =>
    by_cases h : s ∈ seen
    · simp [firstRepeat?, h]
    · simp only [firstRepeat?, h, if_false, ih, List.nodup_cons, List.mem_cons, not_or,
        forall_eq_or_imp, not_false_eq_true, true_and]
      constructor
      · rintro ⟨hn, hs⟩
        exact ⟨⟨fun hm => (hs s hm).1 rfl, hn⟩, fun a ha => (hs a ha).2⟩
      · rintro ⟨⟨hm, hn⟩, hs⟩
        exact ⟨hn, fun a ha => ⟨fun e => hm (e ▸ ha), hs a ha⟩⟩

namespace Contract

/-- The declared methods, followed by the identity methods that are missing among them. -/
def withIdentity (methods : List Method) : List Method :=
  IdentityMethod.all.foldl
    (fun ms which =>
      if ms.any (·.kind.eqB (.identity which)) then ms else ms ++ [Method.identity which])
    methods

/-- The contract of the declared methods. -/
def build (name : String) (declared : List Method) : Except ValidationError Contract :=
  match h : firstRepeat? [] ((withIdentity declared).map (·.name)) with
  | some method => .error (.duplicateMethod name method)
  | none => .ok ⟨name, withIdentity declared, (firstRepeat?_eq_none_iff.1 h).1⟩

/-- The method of a name. -/
def method? (c : Contract) (name : String) : Option Method :=
  c.methods.find? (·.name == name)

end Contract

end MessageDispatch
