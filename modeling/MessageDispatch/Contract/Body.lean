import MessageDispatch.Call

/-!
# Bodies of provided methods

A provided method comes with a body of its own. What a body does is a `Program`: it ends with a
result, or calls a method of the dispatcher it was called on and goes on with the outcome. A program
yields values of one type, which is fixed when the body is made.
-/

namespace MessageDispatch

/-- A computation that yields what values of type `t` hold, and may call methods on the way. -/
inductive Program (t : Ty) where
  | done (result : Except InvocationError t.Carrier)
  | call (method : String) (returns : Ty) (values : List (Option Value))
      (next : Except DispatchError returns.Carrier → Program t)

/-- What a body sees of the dispatcher it was called on. -/
structure Receiver where
  contract : String
  methods : List Signature
  address : UInt64

/-- The text by which a dispatcher shows itself: its contract and its address. -/
def Receiver.display (r : Receiver) : String :=
  s!"{r.contract}Impl@{String.ofList (Nat.toDigits 16 r.address.toNat)}"

/-- The body of a provided method. Bodies are told apart by identity. -/
structure Body where
  identity : Identity
  produces : Ty
  run : Receiver → Call → Program produces

/-- A body that hands its values on to another method returning a text, and fails as that fails. -/
def Body.delegate (id : Identity) (method : String) : Body where
  identity := id
  produces := .text
  run _ call := .call method .text call.values fun
    | .ok text => .done (.ok text)
    | .error e => .done (.error e.source)

end MessageDispatch
