import Mathlib.Data.List.Basic
import MessageDispatch.Text.SnakeCase

/-!
# Laws of snake case

The rule looks at a character and at what the one before it was, so it can be applied to the parts
of an identifier one by one, but for an underscore where they meet (`snakeCase_append`). A second
time it finds nothing to do (`snakeCase_snakeCase`). This rests on a few properties of lower-case
forms (`LowerForms`): every character has one, of characters that keep theirs, with no ASCII capital
among them, and the underscore is its own. The table of lower case has these properties
(`lowerForms_lowerCase`), since no form in it is a character that has another form. Main statement:
`snakeCase_isLocal`.
-/

namespace MessageDispatch

section BitSets

/-- The numbers of a list as the places of the one bits of a single number. -/
def bitSet (ns : List Nat) : Nat :=
  ns.foldr (fun n bits => 1 <<< n ||| bits) 0

/-- The numbers of several lists as bits. -/
def bitUnion (groups : List (List Nat)) : Nat :=
  groups.foldr (fun ns bits => bitSet ns ||| bits) 0

theorem testBit_bitSet_iff {ns : List Nat} {n : Nat} : (bitSet ns).testBit n = true ↔ n ∈ ns := by
  induction ns with
  | nil => simp [bitSet]
  | cons m ns ih =>
    have step : bitSet (m :: ns) = 1 <<< m ||| bitSet ns := rfl
    rw [step, Nat.testBit_or, Nat.one_shiftLeft, Nat.testBit_two_pow, Bool.or_eq_true, ih]
    simp [eq_comm]

theorem testBit_bitUnion_iff {groups : List (List Nat)} {n : Nat} :
    (bitUnion groups).testBit n = true ↔ ∃ ns ∈ groups, n ∈ ns := by
  induction groups with
  | nil => simp [bitUnion]
  | cons ms groups ih =>
    have step : bitUnion (ms :: groups) = bitSet ms ||| bitUnion groups := rfl
    rw [step, Nat.testBit_or, Bool.or_eq_true, testBit_bitSet_iff, ih, List.exists_mem_cons_iff]

/-- Numbers without a common bit are lists without a common element. -/
theorem not_exists_mem_of_land_eq_zero {as bs : List (List Nat)}
    (apart : bitUnion as &&& bitUnion bs = 0) {n : Nat} (h : ∃ ns ∈ as, n ∈ ns) :
    ¬ ∃ ns ∈ bs, n ∈ ns := by
  intro h'
  have both : (bitUnion as &&& bitUnion bs).testBit n = true := by
    rw [Nat.testBit_and, testBit_bitUnion_iff.2 h, testBit_bitUnion_iff.2 h', Bool.and_self]
  rw [apart, Nat.zero_testBit] at both
  exact Bool.noConfusion both

end BitSets

section Table

namespace CaseRun

/-- The characters that the run is about. -/
def members (r : CaseRun) : List Nat :=
  List.range' r.first ((r.last - r.first) / r.stride + 1) r.stride

/-- Their lower-case forms. -/
def forms (r : CaseRun) : List Nat :=
  r.members.map fun n : Nat => (Char.ofNat (n + r.shift : Int).toNat).toNat

theorem mem_of_find? {r : CaseRun} {n m : Nat} (h : r.find? n = some m) :
    n ∈ r.members ∧ (Char.ofNat m).toNat ∈ r.forms := by
  unfold find? at h
  split at h
  case isFalse => cases h
  case isTrue inRun =>
    obtain ⟨first, last, place⟩ := inRun
    have mem : n ∈ r.members := by
      refine List.mem_range'.2 ⟨(n - r.first) / r.stride, ?_, ?_⟩
      · exact Nat.lt_succ_of_le (Nat.div_le_div_right (by omega))
      · have whole := Nat.div_add_mod (n - r.first) r.stride
        omega
    obtain rfl := Option.some.inj h
    exact ⟨mem, List.mem_map_of_mem mem⟩

end CaseRun

/-- The numbers of the characters that have another character, or two, as their lower case. -/
def casedGroups : List (List Nat) :=
  [0x130] :: caseRuns.map CaseRun.members

/-- The numbers of the characters that are forms of such a one. -/
def formGroups : List (List Nat) :=
  [0x69, 0x307] :: caseRuns.map CaseRun.forms

/-- No form of a character has another form itself. The runs of the table are not compared in pairs:
as bits, all of them are compared in one step. -/
theorem caseForms_apart : bitUnion formGroups &&& bitUnion casedGroups = 0 := by
  decide +kernel

/-- The character is its own lower case: the table has no other one for it. -/
structure IsLowered (c : Char) : Prop where
  notDotted : c ≠ Char.ofNat 0x130
  notFound : ∀ r ∈ caseRuns, r.find? c.toNat = none

variable {c d : Char}

theorem lowerCase_of_isLowered (h : IsLowered c) : lowerCase c = [c] := by
  rw [lowerCase, if_neg h.notDotted, List.findSome?_eq_none_iff.2 h.notFound]

theorem isLowered_of_mem_formGroups (h : ∃ ns ∈ formGroups, c.toNat ∈ ns) : IsLowered c := by
  have uncased := not_exists_mem_of_land_eq_zero caseForms_apart h
  constructor
  · rintro rfl
    exact uncased ⟨_, List.mem_cons_self, List.mem_singleton.2 rfl⟩
  · intro r hr
    refine Option.eq_none_iff_forall_ne_some.2 fun m found => uncased ?_
    exact ⟨_, List.mem_cons_of_mem _ (List.mem_map_of_mem hr), (CaseRun.mem_of_find? found).1⟩

theorem isLowered_of_mem_lowerCase (h : d ∈ lowerCase c) : IsLowered d := by
  unfold lowerCase at h
  split at h
  case isTrue =>
    refine isLowered_of_mem_formGroups ⟨_, List.mem_cons_self, ?_⟩
    obtain rfl | rfl : d = 'i' ∨ d = Char.ofNat 0x307 := by simpa using h
    · decide
    · decide
  case isFalse notDotted =>
    split at h
    case h_1 m found =>
      obtain ⟨r, hr, hm⟩ := List.exists_of_findSome?_eq_some found
      obtain rfl := List.mem_singleton.1 h
      have mem : (Char.ofNat m).toNat ∈ r.forms := (CaseRun.mem_of_find? hm).2
      exact isLowered_of_mem_formGroups ⟨_, List.mem_cons_of_mem _ (List.mem_map_of_mem hr), mem⟩
    case h_2 notFound =>
      obtain rfl := List.mem_singleton.1 h
      exact ⟨notDotted, List.findSome?_eq_none_iff.1 notFound⟩

theorem isUpper_eq_false_of_isLowered (h : IsLowered c) : c.isUpper = false := by
  have first : (⟨0x41, 0x5A, 1, 32⟩ : CaseRun) ∈ caseRuns := List.mem_cons_self
  have missed := h.notFound _ first
  simp only [CaseRun.find?, Nat.mod_one, and_true, ite_eq_right_iff, reduceCtorEq, imp_false]
    at missed
  rw [Bool.eq_false_iff]
  intro upper
  exact missed (of_decide_eq_true upper)

/-- What the rule needs of lower-case forms. -/
structure LowerForms (lower : Char → List Char) : Prop where
  nonempty : ∀ c, lower c ≠ []
  settled : ∀ c, ∀ d ∈ lower c, lower d = [d]
  noCapital : ∀ c, ∀ d ∈ lower c, d.isUpper = false
  underscore : lower '_' = ['_']

theorem lowerForms_lowerCase : LowerForms lowerCase where
  nonempty := lowerCase_ne_nil
  settled _ _ h := lowerCase_of_isLowered (isLowered_of_mem_lowerCase h)
  noCapital _ _ h := isUpper_eq_false_of_isLowered (isLowered_of_mem_lowerCase h)
  underscore := by decide +kernel

end Table

section Rule

variable {lower : Char → List Char} {low : Bool} {cs : List Char}

/-- An identifier ends in an ASCII lower-case letter. -/
def endsLower (cs : List Char) : Bool :=
  cs.getLast?.any Char.isLower

/-- An identifier starts with an ASCII upper-case letter. -/
def startsUpper (cs : List Char) : Bool :=
  cs.head?.any Char.isUpper

/-- What was before an identifier decides on an underscore in front of it, and on nothing else. -/
theorem snakeCaseFrom_eq (low : Bool) (cs : List Char) : snakeCaseFrom lower low cs =
    (if low && startsUpper cs then ['_'] else []) ++ snakeCaseWith lower cs := by
  cases cs with
  | nil => simp [snakeCaseFrom, snakeCaseWith, startsUpper]
  | cons c cs => simp [snakeCaseFrom, snakeCaseWith, startsUpper]

/-- After a first part, the rule goes on with what the last character was. -/
theorem snakeCaseFrom_append (as bs : List Char) : snakeCaseFrom lower low (as ++ bs) =
    snakeCaseFrom lower low as ++
      snakeCaseFrom lower ((as.getLast?.map Char.isLower).getD low) bs := by
  induction as generalizing low with
  | nil => rfl
  | cons a as ih =>
    have last : ((a :: as).getLast?.map Char.isLower).getD low =
        (as.getLast?.map Char.isLower).getD a.isLower := by
      rw [List.getLast?_cons, Option.map_some, Option.getD_some, Option.getD_map]
    rw [List.cons_append, snakeCaseFrom, snakeCaseFrom, ih, last]
    simp only [List.append_assoc]

theorem snakeCaseWith_append (as bs : List Char) : snakeCaseWith lower (as ++ bs) =
    snakeCaseWith lower as ++ (if endsLower as && startsUpper bs then ['_'] else []) ++
      snakeCaseWith lower bs := by
  have flag : (as.getLast?.map Char.isLower).getD false = endsLower as := by
    unfold endsLower
    cases as.getLast? <;> rfl
  rw [snakeCaseWith, snakeCaseFrom_append, flag, snakeCaseFrom_eq (endsLower as), List.append_assoc]
  rfl

/-- Without underscores, only the lower case is left of the rule. -/
theorem filter_snakeCaseFrom : (snakeCaseFrom lower low cs).filter (· ≠ '_') =
    (cs.flatMap lower).filter (· ≠ '_') := by
  induction cs generalizing low with
  | nil => rfl
  | cons c cs ih =>
    rw [snakeCaseFrom, List.flatMap_cons, List.filter_append, List.filter_append,
      List.filter_append, ih]
    split <;> simp

/-- What comes out is an underscore or part of a form. -/
theorem mem_snakeCaseFrom {d : Char} (h : d ∈ snakeCaseFrom lower low cs) :
    d = '_' ∨ ∃ c ∈ cs, d ∈ lower c := by
  induction cs generalizing low with
  | nil => cases h
  | cons c cs ih =>
    rw [snakeCaseFrom, List.append_assoc, List.mem_append, List.mem_append] at h
    obtain h | h | h := h
    · split at h
      · exact .inl (List.mem_singleton.1 h)
      · cases h
    · exact .inr ⟨c, List.mem_cons_self, h⟩
    · obtain underscore | ⟨b, hb, hd⟩ := ih h
      · exact .inl underscore
      · exact .inr ⟨b, List.mem_cons_of_mem _ hb, hd⟩

/-- Characters that are settled come out as they went in. -/
theorem snakeCaseFrom_eq_self (h : ∀ c ∈ cs, lower c = [c] ∧ c.isUpper = false) :
    snakeCaseFrom lower low cs = cs := by
  induction cs generalizing low with
  | nil => rfl
  | cons c cs ih =>
    obtain ⟨⟨settled, small⟩, rest⟩ := List.forall_mem_cons.1 h
    rw [snakeCaseFrom, settled, small, Bool.and_false, ih rest]
    rfl

variable (h : LowerForms lower)
include h

theorem LowerForms.settled_of_mem_snakeCase {d : Char} (hd : d ∈ snakeCaseWith lower cs) :
    lower d = [d] ∧ d.isUpper = false := by
  obtain rfl | ⟨c, -, hc⟩ := mem_snakeCaseFrom hd
  · exact ⟨h.underscore, rfl⟩
  · exact ⟨h.settled c d hc, h.noCapital c d hc⟩

theorem LowerForms.snakeCase_snakeCase :
    snakeCaseWith lower (snakeCaseWith lower cs) = snakeCaseWith lower cs :=
  snakeCaseFrom_eq_self fun _ hd => h.settled_of_mem_snakeCase hd

end Rule

/-- An underscore belongs between the two parts of an identifier. -/
def isJoint (a b : String) : Bool :=
  endsLower a.toList && startsUpper b.toList

/-- The text without its underscores. -/
def withoutUnderscores (s : String) : String :=
  String.ofList (s.toList.filter (· ≠ '_'))

/-- The text with each character in lower case. -/
def lowerText (s : String) : String :=
  String.ofList (s.toList.flatMap lowerCase)

theorem snakeCase_append (a b : String) :
    snakeCase (a ++ b) = snakeCase a ++ (if isJoint a b then "_" else "") ++ snakeCase b := by
  rw [snakeCase, String.toList_append, snakeCaseWith_append, String.ofList_append,
    String.ofList_append, isJoint]
  split <;> rfl

theorem withoutUnderscores_snakeCase (a : String) :
    withoutUnderscores (snakeCase a) = withoutUnderscores (lowerText a) := by
  rw [withoutUnderscores, withoutUnderscores, snakeCase, lowerText, String.toList_ofList,
    String.toList_ofList, snakeCaseWith, filter_snakeCaseFrom]

theorem any_isUpper_snakeCase (a : String) : (snakeCase a).toList.any Char.isUpper = false := by
  rw [snakeCase, String.toList_ofList, List.any_eq_false]
  intro c hc
  simpa using (lowerForms_lowerCase.settled_of_mem_snakeCase hc).2

theorem snakeCase_snakeCase (a : String) : snakeCase (snakeCase a) = snakeCase a := by
  rw [snakeCase, snakeCase, String.toList_ofList, lowerForms_lowerCase.snakeCase_snakeCase]

/-- **Snake case is local and idempotent.** Two identifiers that are put together come out as they
do apart, with an underscore between them if they meet at a joint. But for underscores, the text is
the identifier in lower case; it has no ASCII capital, and is empty only if the identifier is. Taken
as an identifier itself, it does not change any more. -/
theorem snakeCase_isLocal (a b : String) :
    snakeCase (a ++ b) = snakeCase a ++ (if isJoint a b then "_" else "") ++ snakeCase b ∧
    withoutUnderscores (snakeCase a) = withoutUnderscores (lowerText a) ∧
    (snakeCase a).toList.any Char.isUpper = false ∧ (snakeCase a = "" ↔ a = "") ∧
    snakeCase (snakeCase a) = snakeCase a :=
  ⟨snakeCase_append a b, withoutUnderscores_snakeCase a, any_isUpper_snakeCase a,
    snakeCase_eq_empty_iff, snakeCase_snakeCase a⟩

/-- What counts is the character that was written: no joint comes after a dotted capital I, although
the form of it starts with a small letter. -/
example : snakeCase "userId\u0130Bus" = "user_idi\u0307bus" := by
  decide +kernel

end MessageDispatch
