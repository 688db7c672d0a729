import MessageDispatch.Value.Equality

/-!
# Equality up to numbers that are none

Texts, nodes, inputs, arguments, tags and bundles hold one another, and their equalities call one
another on what is held. Only at a number can a value differ from itself: one that is not a number
equals nothing. So the equalities are symmetric and transitive, and what equals itself is just what
has no such number inside (`LawfulAt`). These laws go from what is held to what holds it
(`LawfulAt.construct`), one constructor at a time, and the recursion over the nine kinds of values
applies this to each. Main statement: `eqB_isPartialEquivalence`.
-/

namespace MessageDispatch

section Numbers

mutual

/-- The numbers in the arguments inside a text. -/
def Text.numbers : Text → List Number
  | .literal _ => []
  | .translatable node => node.numbers
  | .composite children => Text.numbersList children
termination_by structural x => x

/-- The numbers inside a list of texts. -/
def Text.numbersList : List Text → List Number
  | [] => []
  | t :: ts => t.numbers ++ Text.numbersList ts
termination_by structural x => x

/-- The numbers inside a translatable node. -/
def Translatable.numbers : Translatable → List Number
  | ⟨_, inputs⟩ => Input.numbersList inputs
termination_by structural x => x

/-- The numbers inside a list of inputs. -/
def Input.numbersList : List Input → List Number
  | [] => []
  | i :: is => i.numbers ++ Input.numbersList is
termination_by structural x => x

/-- The numbers inside an input. A target is not looked into. -/
def Input.numbers : Input → List Number
  | .positional argument => argument.numbers
  | .named _ argument => argument.numbers
  | .tag _ tag => tag.numbers
  | .bundle tags => tags.numbers
  | .target _ => []
termination_by structural x => x

/-- The numbers inside an argument. A raw value is not looked into. -/
def Argument.numbers : Argument → List Number
  | .component text => text.numbers
  | .numeric n => [n]
  | .boolean _ => []
  | .raw _ _ => []
termination_by structural x => x

/-- The numbers inside a tag. -/
def Tag.numbers : Tag → List Number
  | .inserting text => text.numbers
  | .preprocessed _ => []
termination_by structural x => x

/-- The numbers inside a bundle. -/
def TagBundle.numbers : TagBundle → List Number
  | ⟨tags⟩ => TagBundle.numbersList tags
termination_by structural x => x

/-- The numbers inside a list of named tags. -/
def TagBundle.numbersList : List (String × Tag) → List Number
  | [] => []
  | (_, tag) :: tags => tag.numbers ++ TagBundle.numbersList tags
termination_by structural x => x

end

end Numbers

section Laws

variable {α β : Type}

/-- The laws of an equality at `a`, if what `numbers` finds is all that can keep a value from being
equal to itself. -/
structure LawfulAt (eq : α → α → Bool) (numbers : α → List Number) (a : α) : Prop where
  symm : ∀ b, eq a b = eq b a
  trans : ∀ b c, eq a b = true → eq b c = true → eq a c = true
  self : eq a a = true ↔ ∀ n ∈ numbers a, n.isNaN = false

/-- The constructor `k` is compared by what it holds, and with no other constructor. -/
structure ComparedInside (eq : α → α → Bool) (numbers : α → List Number) (eq' : β → β → Bool)
    (numbers' : β → List Number) (k : α → β) : Prop where
  apart : ∀ a y, (∃ b, y = k b) ∨ eq' (k a) y = false ∧ eq' y (k a) = false
  inside : ∀ a b, eq' (k a) (k b) = eq a b := by intros; rfl
  numbers : ∀ a, numbers' (k a) = numbers a := by intros; rfl

variable {eq : α → α → Bool} {numbers : α → List Number} {eq' : β → β → Bool}
  {numbers' : β → List Number} {k : α → β} {a : α}

theorem LawfulAt.of_beq [BEq α] [LawfulBEq α] (a : α) :
    LawfulAt (· == ·) (fun _ => []) a where
  symm b := BEq.comm
  trans b c hab hbc := by
    obtain rfl := eq_of_beq hab
    exact hbc
  self := by simp

theorem LawfulAt.number (n : Number) : LawfulAt Number.eqB (fun n => [n]) n where
  symm := n.eqB_comm
  trans _ _ := Number.eqB_trans
  self := by simp [Number.eqB_self]

theorem LawfulAt.construct (h : LawfulAt eq numbers a)
    (hk : ComparedInside eq numbers eq' numbers' k) : LawfulAt eq' numbers' (k a) where
  symm y := by
    obtain ⟨b, rfl⟩ | ⟨left, right⟩ := hk.apart a y
    · rw [hk.inside, hk.inside, h.symm]
    · rw [left, right]
  trans y z hy hz := by
    obtain ⟨b, rfl⟩ | ⟨left, -⟩ := hk.apart a y
    · obtain ⟨c, rfl⟩ | ⟨left, -⟩ := hk.apart b z
      · rw [hk.inside] at hy hz ⊢
        exact h.trans b c hy hz
      · rw [left] at hz
        cases hz
    · rw [left] at hy
      cases hy
  self := by rw [hk.inside, hk.numbers, h.self]

/-- What is compared by a part of it only. -/
theorem LawfulAt.through (f : β → α) {b : β} (h : LawfulAt eq numbers (f b)) :
    LawfulAt (fun x y => eq (f x) (f y)) (fun x => numbers (f x)) b where
  symm y := h.symm (f y)
  trans y z := h.trans (f y) (f z)
  self := h.self

/-- What is compared part by part. -/
theorem LawfulAt.pair (ha : LawfulAt eq numbers a) {b : β} (hb : LawfulAt eq' numbers' b) :
    LawfulAt (fun x y => eq x.1 y.1 && eq' x.2 y.2) (fun x => numbers x.1 ++ numbers' x.2)
      (a, b) where
  symm y := by rw [ha.symm, hb.symm]
  trans y z hy hz := by
    rw [Bool.and_eq_true] at hy hz ⊢
    exact ⟨ha.trans y.1 z.1 hy.1 hz.1, hb.trans y.2 z.2 hy.2 hz.2⟩
  self := by rw [Bool.and_eq_true, ha.self, hb.self, List.forall_mem_append]

end Laws

theorem Target.lawfulAt : ∀ t : Target, LawfulAt Target.eqB (fun _ => []) t
  | ⟨value, identity⟩ => ((LawfulAt.of_beq identity).through Prod.snd).construct
      (k := fun x : Value × Identity => Target.mk x.1 x.2) (a := (value, identity))
      { apart := fun _ y => by cases y; exact .inl ⟨(_, _), rfl⟩ }

-- The recursion is that of the equalities. Each case takes the laws of what the constructor holds and
-- carries them over it; a constructor that holds several things is one of their pair.
mutual

theorem Text.lawfulAt : ∀ t : Text, LawfulAt Text.eqB Text.numbers t
  | .literal content => (LawfulAt.of_beq content).construct
      { apart := fun _ y => by cases y <;> simp [Text.eqB] }
  | .translatable node => (Translatable.lawfulAt node).construct
      { apart := fun _ y => by cases y <;> simp [Text.eqB] }
  | .composite children => (Text.lawfulAt_list children).construct
      { apart := fun _ y => by cases y <;> simp [Text.eqB] }
termination_by structural t => t

theorem Text.lawfulAt_list : ∀ ts : List Text, LawfulAt Text.eqListB Text.numbersList ts
  | [] => (LawfulAt.of_beq ()).construct (k := fun _ => [])
      { apart := fun _ y => by cases y <;> simp [Text.eqListB] }
  | t :: ts => ((Text.lawfulAt t).pair (Text.lawfulAt_list ts)).construct
      (k := fun x : Text × List Text => x.1 :: x.2)
      { apart := fun _ y => by cases y <;> simp [Text.eqListB] }
termination_by structural ts => ts

theorem Translatable.lawfulAt : ∀ n : Translatable, LawfulAt Translatable.eqB Translatable.numbers n
  | ⟨key, inputs⟩ => ((LawfulAt.of_beq key).pair (Input.lawfulAt_list inputs)).construct
      (k := fun x : String × List Input => Translatable.mk x.1 x.2)
      { apart := fun _ y => by cases y; exact .inl ⟨(_, _), rfl⟩ }
termination_by structural n => n

theorem Input.lawfulAt_list : ∀ is : List Input, LawfulAt Input.eqListB Input.numbersList is
  | [] => (LawfulAt.of_beq ()).construct (k := fun _ => [])
      { apart := fun _ y => by cases y <;> simp [Input.eqListB] }
  | i :: is => ((Input.lawfulAt i).pair (Input.lawfulAt_list is)).construct
      (k := fun x : Input × List Input => x.1 :: x.2)
      { apart := fun _ y => by cases y <;> simp [Input.eqListB] }
termination_by structural is => is

theorem Input.lawfulAt : ∀ i : Input, LawfulAt Input.eqB Input.numbers i
  | .positional argument => (Argument.lawfulAt argument).construct
      { apart := fun _ y => by cases y <;> simp [Input.eqB] }
  | .named name argument => ((LawfulAt.of_beq name).pair (Argument.lawfulAt argument)).construct
      (k := fun x : String × Argument => Input.named x.1 x.2)
      { apart := fun _ y => by cases y <;> simp [Input.eqB] }
  | .tag name tag => ((LawfulAt.of_beq name).pair (Tag.lawfulAt tag)).construct
      (k := fun x : String × Tag => Input.tag x.1 x.2)
      { apart := fun _ y => by cases y <;> simp [Input.eqB] }
  | .bundle tags => (TagBundle.lawfulAt tags).construct
      { apart := fun _ y => by cases y <;> simp [Input.eqB] }
  | .target target => target.lawfulAt.construct
      { apart := fun _ y => by cases y <;> simp [Input.eqB] }
termination_by structural i => i

theorem Argument.lawfulAt : ∀ a : Argument, LawfulAt Argument.eqB Argument.numbers a
  | .component text => (Text.lawfulAt text).construct
      { apart := fun _ y => by cases y <;> simp [Argument.eqB] }
  | .numeric n => (LawfulAt.number n).construct
      { apart := fun _ y => by cases y <;> simp [Argument.eqB] }
  | .boolean b => (LawfulAt.of_beq b).construct
      { apart := fun _ y => by cases y <;> simp [Argument.eqB] }
  | .raw value identity => ((LawfulAt.of_beq identity).through Prod.snd).construct
      (k := fun x : Value × Identity => Argument.raw x.1 x.2) (a := (value, identity))
      { apart := fun _ y => by cases y <;> simp [Argument.eqB] }
termination_by structural a => a

theorem Tag.lawfulAt : ∀ t : Tag, LawfulAt Tag.eqB Tag.numbers t
  | .inserting text => (Text.lawfulAt text).construct
      { apart := fun _ y => by cases y <;> simp [Tag.eqB] }
  | .preprocessed template => (LawfulAt.of_beq template).construct
      { apart := fun _ y => by cases y <;> simp [Tag.eqB] }
termination_by structural t => t

theorem TagBundle.lawfulAt : ∀ b : TagBundle, LawfulAt TagBundle.eqB TagBundle.numbers b
  | ⟨tags⟩ => (TagBundle.lawfulAt_list tags).construct
      { apart := fun _ y => by cases y; exact .inl ⟨_, rfl⟩ }
termination_by structural b => b

theorem TagBundle.lawfulAt_list :
    ∀ tags : List (String × Tag), LawfulAt TagBundle.eqListB TagBundle.numbersList tags
  | [] => (LawfulAt.of_beq ()).construct (k := fun _ => [])
      { apart := fun _ y => by cases y <;> simp [TagBundle.eqListB] }
  | (name, tag) :: tags =>
    (((LawfulAt.of_beq name).pair (Tag.lawfulAt tag)).pair (TagBundle.lawfulAt_list tags)).construct
      (k := fun x : (String × Tag) × List (String × Tag) => x.1 :: x.2)
      { apart := fun _ y => by cases y <;> simp [TagBundle.eqListB] }
termination_by structural tags => tags

end

/-- **Equality is a partial equivalence.** The equalities of texts, nodes, inputs, arguments, tags
and bundles are symmetric and transitive. A value equals itself, and so a copy of it, which has the
same objects for raw values and targets, exactly if each number inside it is one, at whatever
depth. -/
theorem eqB_isPartialEquivalence :
    (∀ t, LawfulAt Text.eqB Text.numbers t) ∧
    (∀ n, LawfulAt Translatable.eqB Translatable.numbers n) ∧
    (∀ i, LawfulAt Input.eqB Input.numbers i) ∧
    (∀ a, LawfulAt Argument.eqB Argument.numbers a) ∧
    (∀ t, LawfulAt Tag.eqB Tag.numbers t) ∧
    ∀ b, LawfulAt TagBundle.eqB TagBundle.numbers b :=
  ⟨Text.lawfulAt, Translatable.lawfulAt, Input.lawfulAt, Argument.lawfulAt, Tag.lawfulAt,
    TagBundle.lawfulAt⟩

/-- A text with a number in a text, in a tag, in a bundle. -/
def score (x : Binary64) : Text :=
  let points : Translatable := ⟨"points", [.positional (.numeric (.float x))]⟩
  .translatable ⟨"score", [.bundle ⟨[("best", .inserting (.translatable points))]⟩]⟩

/-- Zeros of both signs are equal, deep inside as well; what is not a number is not. -/
theorem eqB_score :
    (score ⟨0⟩).eqB (score ⟨0x8000000000000000⟩) = true ∧
    (score ⟨0x8000000000000000⟩).eqB (score ⟨0⟩) = true ∧
    (score ⟨0⟩).eqB (score ⟨0⟩) = true ∧
    (score ⟨0x7FF8000000000000⟩).eqB (score ⟨0x7FF8000000000000⟩) = false := by
  obtain ⟨laws, -⟩ := eqB_isPartialEquivalence
  have zeros : (score ⟨0⟩).eqB (score ⟨0x8000000000000000⟩) = true := by decide +kernel
  have back : (score ⟨0x8000000000000000⟩).eqB (score ⟨0⟩) = true := by rw [← (laws _).symm, zeros]
  refine ⟨zeros, back, (laws _).trans _ _ zeros back, ?_⟩
  rw [Bool.eq_false_iff, ne_eq, (laws _).self]
  decide +kernel

end MessageDispatch
