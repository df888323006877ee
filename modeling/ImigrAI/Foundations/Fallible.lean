import Mathlib.Data.List.Forall2
import Mathlib.Tactic.Common

/-!
# Computations that may fail

Inversion rules for `Except`: what a successful sequence, a successful loop and a successful
map over a list have done.
-/

namespace ImigrAI.Fallible

universe u v w

variable {Error : Type u} {Source : Type v} {Result : Type v}

theorem bind_eq_ok_iff {first : Except Error Source} {next : Source → Except Error Result}
    {result : Result} :
    (first >>= next) = .ok result ↔ ∃ middle, first = .ok middle ∧ next middle = .ok result := by
  cases first with
  | error error => simp [bind, Except.bind]
  | ok middle => simp [bind, Except.bind]

@[simp]
theorem ok_bind (middle : Source) (next : Source → Except Error Result) :
    (Except.ok middle >>= next) = next middle := rfl

@[simp]
theorem error_bind (error : Error) (next : Source → Except Error Result) :
    (Except.error error >>= next) = .error error := rfl

theorem map_eq_ok_iff {computation : Except Error Source} {f : Source → Result} {result : Result} :
    computation.map f = .ok result ↔ ∃ middle, computation = .ok middle ∧ f middle = result := by
  cases computation <;> simp [Except.map]

theorem mapError_eq_ok_iff {OtherError : Type*} {computation : Except Error Result}
    {f : Error → OtherError} {result : Result} :
    computation.mapError f = .ok result ↔ computation = .ok result := by
  cases computation <;> simp [Except.mapError]

theorem mapError_eq_error_iff {OtherError : Type*} {computation : Except Error Result}
    {f : Error → OtherError} {error : OtherError} :
    computation.mapError f = .error error ↔ ∃ inner, computation = .error inner ∧ f inner = error := by
  cases computation <;> simp [Except.mapError]

theorem toOption_eq_some_iff {computation : Except Error Result} {result : Result} :
    computation.toOption = some result ↔ computation = .ok result := by
  cases computation <;> simp [Except.toOption]

theorem exists_of_isOk {computation : Except Error Result} (returns : computation.isOk) :
    ∃ result, computation = .ok result := by
  cases computation with
  | error error => simp [Except.isOk, Except.toBool] at returns
  | ok result => exact ⟨result, rfl⟩

/-- The value with the proof that it meets a condition, or an error. -/
def ensure (condition : Result → Prop) [DecidablePred condition] (error : Error) (value : Result) :
    Except Error {value : Result // condition value} :=
  if met : condition value then .ok ⟨value, met⟩ else .error error

theorem ensure_eq_ok_iff {condition : Result → Prop} [DecidablePred condition] {error : Error}
    {value : Result} {ensured : {value : Result // condition value}} :
    ensure condition error value = .ok ensured ↔ ensured.val = value := by
  unfold ensure
  split_ifs with met
  · rw [Except.ok.injEq, Subtype.ext_iff, eq_comm]
  · refine iff_of_false (by simp) ?_
    rintro rfl
    exact met ensured.property

theorem ensure_of_met {condition : Result → Prop} [DecidablePred condition] {error : Error}
    {value : Result} (met : condition value) :
    ensure condition error value = .ok ⟨value, met⟩ :=
  dif_pos met

variable {Element : Type w}

/-- A loop that collects results has succeeded on every element. -/
theorem mapM_eq_ok_iff {f : Element → Except Error Result} {elements : List Element}
    {results : List Result} :
    elements.mapM f = .ok results ↔
      List.Forall₂ (fun element result => f element = .ok result) elements results := by
  induction elements generalizing results with
  | nil => cases results <;> simp [pure, Except.pure]
  | cons element elements ih =>
      rw [List.mapM_cons, bind_eq_ok_iff]
      constructor
      · rintro ⟨result, first, after⟩
        rcases bind_eq_ok_iff.mp after with ⟨rest, tail, done⟩
        rcases Except.ok.inj done with rfl
        exact .cons first (ih.mp tail)
      · rintro (_ | ⟨first, tail⟩)
        exact ⟨_, first, bind_eq_ok_iff.mpr ⟨_, ih.mpr tail, rfl⟩⟩

/-- What a computation raises. -/
def errorOf : Except Error Result → Option Error
  | .error error => some error
  | .ok _ => none

theorem errorOf_eq_some_iff {computation : Except Error Result} {error : Error} :
    errorOf computation = some error ↔ computation = .error error := by
  cases computation <;> simp [errorOf]

theorem errorOf_eq_none_iff {computation : Except Error Result} :
    errorOf computation = none ↔ ∃ result, computation = .ok result := by
  cases computation <;> simp [errorOf]

/-- What comes after a computation and cannot fail does not raise. -/
theorem errorOf_bind_ok {first : Except Error Source} {next : Source → Result} :
    errorOf (first >>= fun middle => .ok (next middle)) = errorOf first := by
  cases first <;> rfl

/-- A loop raises what its first failing element raises. -/
theorem errorOf_mapM (f : Element → Except Error Result) (elements : List Element) :
    errorOf (elements.mapM f) = elements.findSome? fun element => errorOf (f element) := by
  induction elements with
  | nil => rfl
  | cons element rest ih =>
      rw [List.mapM_cons, List.findSome?_cons, ← ih]
      cases first : f element with
      | error error => rfl
      | ok result => cases rest.mapM f <;> rfl

/-- What a loop keeps of every element it keeps of the list. -/
theorem map_of_mapM_eq_ok {Kept : Type*} {f : Element → Except Error Result}
    {elements : List Element} {results : List Result} {ofResult : Result → Kept}
    {ofElement : Element → Kept} (done : elements.mapM f = .ok results)
    (keeps : ∀ element result, f element = .ok result → ofResult result = ofElement element) :
    results.map ofResult = elements.map ofElement := by
  have pairs := mapM_eq_ok_iff.mp done
  clear done
  induction pairs with
  | nil => rfl
  | cons head _ ih => rw [List.map_cons, List.map_cons, keeps _ _ head, ih]

/-- Every element of a list has a partner in a list that it is paired with. -/
theorem exists_mem_of_forall₂ {related : Element → Result → Prop} {elements : List Element}
    {results : List Result} (pairs : List.Forall₂ related elements results) :
    ∀ element ∈ elements, ∃ result ∈ results, related element result := by
  induction pairs with
  | nil => simp
  | @cons first result rest results head _ ih =>
      intro element elementMem
      rcases List.mem_cons.mp elementMem with rfl | elementMem
      · exact ⟨result, by simp, head⟩
      · rcases ih element elementMem with ⟨partner, partnerMem, paired⟩
        exact ⟨partner, by simp [partnerMem], paired⟩

theorem exists_of_mapM_eq_ok {f : Element → Except Error Result} {elements : List Element}
    {results : List Result} (done : elements.mapM f = .ok results) {element : Element}
    (elementMem : element ∈ elements) : ∃ result, f element = .ok result := by
  rcases exists_mem_of_forall₂ (mapM_eq_ok_iff.mp done) element elementMem with ⟨result, -, made⟩
  exact ⟨result, made⟩

/-- A loop whose every result is known returns the list of these results. -/
theorem mapM_eq_ok_map {f : Element → Except Error Result} {g : Element → Result}
    {elements : List Element} {results : List Result} (done : elements.mapM f = .ok results)
    (known : ∀ element ∈ elements, ∀ result, f element = .ok result → result = g element) :
    results = elements.map g := by
  have pairs := mapM_eq_ok_iff.mp done
  clear done
  induction pairs with
  | nil => rfl
  | @cons element result elements results first _ ih =>
      rw [List.map_cons, known element (by simp) result first, ih]
      intro other otherMem
      exact known other (by simp [otherMem])

/-- The computation raises an error of a kind. -/
def Raises (kind : Error → Prop) (computation : Except Error Result) : Prop :=
  ∃ error, computation = .error error ∧ kind error

section Kinds

variable {kind : Error → Prop}

@[simp] theorem raises_ok {result : Result} :
    Raises kind (.ok result : Except Error Result) ↔ False := by
  simp [Raises]

@[simp] theorem raises_error {error : Error} :
    Raises kind (.error error : Except Error Result) ↔ kind error := by
  simp [Raises]

theorem raises_iff_errorOf {computation : Except Error Result} :
    Raises kind computation ↔ ∃ error, errorOf computation = some error ∧ kind error := by
  simp only [Raises, errorOf_eq_some_iff]

/-- Of two steps the first one raises, or the second one after the first has returned. -/
theorem raises_bind {first : Except Error Source} {next : Source → Except Error Result} :
    Raises kind (first >>= next) ↔
      Raises kind first ∨ ∃ middle, first = .ok middle ∧ Raises kind (next middle) := by
  cases first with
  | error error => simp [Raises, bind, Except.bind]
  | ok middle => simp [Raises, bind, Except.bind]

/-- A loop raises at an element that only elements without an error precede. -/
theorem raises_mapM {f : Element → Except Error Result} {elements : List Element} :
    Raises kind (elements.mapM f) ↔
      ∃ before element after, elements = before ++ element :: after ∧
        (∀ earlier ∈ before, ∃ result, f earlier = .ok result) ∧ Raises kind (f element) := by
  constructor
  · rintro ⟨error, raised, isKind⟩
    rw [← errorOf_eq_some_iff, errorOf_mapM, List.findSome?_eq_some_iff] at raised
    rcases raised with ⟨before, element, after, split, here, earlier⟩
    refine ⟨before, element, after, split, ?_, error, errorOf_eq_some_iff.mp here, isKind⟩
    intro other otherMem
    exact errorOf_eq_none_iff.mp (earlier other otherMem)
  · rintro ⟨before, element, after, split, earlier, error, here, isKind⟩
    refine ⟨error, ?_, isKind⟩
    rw [← errorOf_eq_some_iff, errorOf_mapM, List.findSome?_eq_some_iff]
    refine ⟨before, element, after, split, errorOf_eq_some_iff.mpr here, ?_⟩
    intro other otherMem
    exact errorOf_eq_none_iff.mpr (earlier other otherMem)

end Kinds

universe x y

/-- Both computations fail with the same error, or both return, with related results. -/
def Agree {Left : Type x} {Right : Type y} (related : Left → Right → Prop) :
    Except Error Left → Except Error Right → Prop
  | .ok left, .ok right => related left right
  | .error left, .error right => left = right
  | _, _ => False

variable {Left LeftNext : Type x} {Right RightNext : Type y}

theorem Agree.bind {related : Left → Right → Prop} {relatedNext : LeftNext → RightNext → Prop}
    {left : Except Error Left} {right : Except Error Right}
    {leftNext : Left → Except Error LeftNext} {rightNext : Right → Except Error RightNext}
    (agree : Agree related left right)
    (next : ∀ leftResult rightResult, related leftResult rightResult →
      Agree relatedNext (leftNext leftResult) (rightNext rightResult)) :
    Agree relatedNext (left >>= leftNext) (right >>= rightNext) := by
  cases left with
  | error error =>
      cases right with
      | error other => exact agree
      | ok result => exact agree.elim
  | ok result =>
      cases right with
      | error other => exact agree.elim
      | ok other => exact next result other agree

theorem Agree.refl (computation : Except Error Left) :
    Agree (fun left right => left = right) computation computation := by
  cases computation <;> rfl

/-- Loops over related lists agree when their bodies do. -/
theorem Agree.mapM {LeftElement RightElement : Type w}
    {relatedElements : LeftElement → RightElement → Prop} {related : Left → Right → Prop}
    {f : LeftElement → Except Error Left} {g : RightElement → Except Error Right}
    (body : ∀ left right, relatedElements left right → Agree related (f left) (g right))
    {lefts : List LeftElement} {rights : List RightElement}
    (elements : List.Forall₂ relatedElements lefts rights) :
    Agree (List.Forall₂ related) (lefts.mapM f) (rights.mapM g) := by
  induction elements with
  | nil => exact List.Forall₂.nil
  | cons first _ ih =>
      rw [List.mapM_cons, List.mapM_cons]
      refine (body _ _ first).bind fun left right same => ?_
      exact ih.bind fun lefts rights rest => List.Forall₂.cons same rest

end ImigrAI.Fallible
