import MessageDispatch.Dispatcher
import MessageDispatch.Proofs.Fault

/-!
# Tables of bound contracts

A contract binds when every message method is accepted, and its dispatcher is then the table that
`Dispatcher.layOut` lays out. Names of methods are distinct, so a name is found at the place of its
method, and a call by name or by place is a call by the route of that method
(`Dispatcher.invoke_eq`, `Dispatcher.invokeId_eq`).
-/

namespace MessageDispatch

/-- A check passes when every message method is accepted. -/
theorem Configuration.checkFrom_eq_ok_iff {cfg : Configuration} {t : Tally} {ms : List Method} :
    (cfg.checkFrom t ms).2 = .ok () ↔
      ∀ m ∈ ms, m.isMessage = true → cfg.accept m.signature = .ok () := by
  induction ms generalizing t with
  | nil => simp [checkFrom]
  | cons m ms ih =>
    rw [checkFrom, List.forall_mem_cons]
    cases hm : m.isMessage with
    | false => simp [ih]
    | true =>
      cases ha : cfg.accept m.signature with
      | error e => simp
      | ok => simp [ih]

/-- With distinct keys, what is found under a key is what is listed with it. -/
theorem lookup_eq_some_iff_mem {α β : Type} [BEq α] [LawfulBEq α] {entries : List (α × β)}
    (hd : (entries.map (·.1)).Nodup) {a : α} {b : β} :
    entries.lookup a = some b ↔ (a, b) ∈ entries := by
  constructor
  · intro h
    obtain ⟨before, after, rfl, -⟩ := List.lookup_eq_some_iff.1 h
    exact List.mem_append_right before List.mem_cons_self
  · intro h
    obtain ⟨before, after, rfl⟩ := List.append_of_mem h
    refine List.lookup_eq_some_iff.2 ⟨before, after, rfl, ?_⟩
    intro p hp
    rw [bne_iff_ne]
    -- An earlier entry with this key would repeat it.
    rintro rfl
    rw [List.map_append, List.map_cons, List.nodup_append] at hd
    exact hd.2.2 _ (List.mem_map_of_mem hp) _ List.mem_cons_self rfl

/-- With distinct keys, one thing at most is listed with a key. -/
theorem eq_of_mem_of_mem {α β : Type} [BEq α] [LawfulBEq α] {entries : List (α × β)}
    (hd : (entries.map (·.1)).Nodup) {a : α} {b c : β} (hb : (a, b) ∈ entries)
    (hc : (a, c) ∈ entries) : b = c := by
  have found := (lookup_eq_some_iff_mem hd).2 hb
  have again := (lookup_eq_some_iff_mem hd).2 hc
  exact Option.some.inj (found.symm.trans again)

namespace Dispatcher

variable {contract : Contract} {cfg : Configuration} {address : UInt64} {d : Dispatcher}

/-- What a bound dispatcher is, and what was checked of its contract. -/
theorem bind_eq_ok_iff :
    bind contract cfg address = .ok d ↔
      d = layOut contract cfg address ∧
        ∀ m ∈ contract.methods, m.isMessage = true → cfg.accept m.signature = .ok () := by
  rw [← Configuration.checkFrom_eq_ok_iff (t := ⟨0, 0⟩), bind, Configuration.check]
  rcases cfg.checkFrom ⟨0, 0⟩ contract.methods with ⟨tally, e | u⟩
  · simp
  · simp [eq_comm]

/-- A contract can be bound if every message method is accepted. -/
theorem exists_bind_iff :
    (∃ d, bind contract cfg address = .ok d) ↔
      ∀ m ∈ contract.methods, m.isMessage = true → cfg.accept m.signature = .ok () := by
  constructor
  · rintro ⟨d, hd⟩
    exact (bind_eq_ok_iff.1 hd).2
  · intro accepted
    exact ⟨layOut contract cfg address, bind_eq_ok_iff.2 ⟨rfl, accepted⟩⟩

theorem accept_of_bind (hd : bind contract cfg address = .ok d) {m : Method}
    (hm : m ∈ contract.methods) (hk : m.kind = .message) : cfg.accept m.signature = .ok () :=
  (bind_eq_ok_iff.1 hd).2 m hm (by simp [Method.isMessage, hk])

/-- How the calls that bodies make are answered. -/
def nested (d : Dispatcher) : Nat → Answering
  | 0 => fun _ _ _ _ s => (none, s)
  | depth + 1 => d.invoke depth

variable {m : Method} {i : Nat}

/-- A call by place is a call by the method's route. -/
theorem invokeId_eq (hd : bind contract cfg address = .ok d) (hi : contract.methods[i]? = some m)
    (depth : Nat) (id : Identity) (requested : Ty) (values : List (Option Value))
    (s : Installation) :
    d.invokeId depth i id requested values s =
      d.invokeRoute (d.nested depth) m.signature (cfg.route m) id requested values s := by
  obtain ⟨rfl, -⟩ := bind_eq_ok_iff.1 hd
  have hm : (layOut contract cfg address).contract.methods[i]? = some m := hi
  have hr : (layOut contract cfg address).routes[i]? = some (cfg.route m) := by
    simp [layOut, hi]
  cases depth <;> simp only [invokeId, invokeAt, hm, hr] <;> rfl

/-- The names of the table are the names of the methods. -/
theorem index_keys (hd : bind contract cfg address = .ok d) :
    d.index.map (·.1) = contract.methods.map (·.name) := by
  obtain ⟨rfl, -⟩ := bind_eq_ok_iff.1 hd
  calc (layOut contract cfg address).index.map (·.1)
    _ = (contract.methods.zipIdx.map Prod.fst).map (·.name) := by
        simp only [layOut, List.map_map]
        rfl
    _ = contract.methods.map (·.name) := by rw [List.zipIdx_map_fst]

theorem mem_index_iff (hd : bind contract cfg address = .ok d) {name : String} :
    (name, i) ∈ d.index ↔ ∃ m, contract.methods[i]? = some m ∧ m.name = name := by
  obtain ⟨rfl, -⟩ := bind_eq_ok_iff.1 hd
  simp [layOut, List.mem_zipIdx_iff_getElem?]

/-- The table finds a name at the place of the method of that name. -/
theorem methodId?_eq_some_iff (hd : bind contract cfg address = .ok d) {name : String} :
    d.methodId? name = some i ↔ ∃ m, contract.methods[i]? = some m ∧ m.name = name := by
  have distinct : (d.index.map (·.1)).Nodup := index_keys hd ▸ contract.distinct
  rw [methodId?, lookup_eq_some_iff_mem distinct, mem_index_iff hd]

theorem methodId?_eq (hd : bind contract cfg address = .ok d)
    (hi : contract.methods[i]? = some m) : d.methodId? m.name = some i :=
  (methodId?_eq_some_iff hd).2 ⟨m, hi, rfl⟩

/-- A call by name is a call by place. -/
theorem invoke_eq_invokeId (hd : bind contract cfg address = .ok d)
    (hi : contract.methods[i]? = some m) (depth : Nat) (id : Identity) (requested : Ty)
    (values : List (Option Value)) (s : Installation) :
    d.invoke depth id m.name requested values s = d.invokeId depth i id requested values s := by
  cases depth <;> simp only [invoke, invokeName, methodId?_eq hd hi] <;> rfl

/-- A call by name is a call by the method's route. -/
theorem invoke_eq (hd : bind contract cfg address = .ok d) (hm : m ∈ contract.methods)
    (depth : Nat) (id : Identity) (requested : Ty) (values : List (Option Value))
    (s : Installation) :
    d.invoke depth id m.name requested values s =
      d.invokeRoute (d.nested depth) m.signature (cfg.route m) id requested values s := by
  obtain ⟨i, hi⟩ := List.mem_iff_getElem?.1 hm
  rw [invoke_eq_invokeId hd hi, invokeId_eq hd hi]

end Dispatcher

end MessageDispatch
