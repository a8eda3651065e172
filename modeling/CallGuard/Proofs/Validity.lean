/-
Signatures that can be guarded. Parameters are checked one after the other, each
against the names before it and the kind of the one right before it. Since the
kinds come in order, that is enough to keep all kinds in order and to find a
second variadic parameter of a kind, however far the first one is. So the check
accepts the parameters that are well-formed as a whole and no others, and
otherwise blames the parameter with which they stop being well-formed.
-/
import CallGuard.Signature
import Mathlib.Data.List.Nodup
import Mathlib.Data.List.Count

namespace CallGuard

open List

/-! ### Names -/

namespace Text

/-- A letter or an underscore, and then letters, numerals and underscores. -/
def IsIdentifier (name : String) : Prop :=
  ∃ first rest, name.toList = first :: rest ∧ (isLetter first = true ∨ first = '_') ∧
    ∀ c ∈ rest, isLetterOrNumeral c = true ∨ c = '_'

theorem isIdentifier_iff {name : String} : isIdentifier name = true ↔ IsIdentifier name := by
  unfold isIdentifier IsIdentifier
  cases name.toList with
  | nil => simp
  | cons first rest => simp

end Text

variable {parameter : Parameter}

theorem Parameter.nameFault?_eq_none_iff {taken : List String} :
    parameter.nameFault? taken = none ↔ Text.IsIdentifier parameter.name ∧
      ¬ reservedStart.toList <+: parameter.name.toList ∧ parameter.name ∉ taken := by
  rw [← Text.isIdentifier_iff, ← List.isPrefixOf_iff_prefix, nameFault?]
  cases Text.isIdentifier parameter.name with
  | false => simp
  | true => cases reservedStart.toList.isPrefixOf parameter.name.toList <;> simp

/-! ### Kinds -/

namespace ParameterKind

/-- A parameter of the one kind may stand before one of the other. -/
def Precedes (earlier later : ParameterKind) : Prop :=
  earlier.rank ≤ later.rank ∧ (earlier = later → earlier.isVariadic = false)

theorem Precedes.trans {a b c : ParameterKind} (first : a.Precedes b)
    (second : b.Precedes c) : a.Precedes c := by
  refine ⟨Nat.le_trans first.1 second.1, ?_⟩
  rintro rfl
  exact first.2 (rank_injective (Nat.le_antisymm first.1 second.1))

/-- Each kind may stand before the later ones if kinds come in order and no variadic one twice. -/
theorem pairwise_precedes_iff {kinds : List ParameterKind} :
    kinds.Pairwise Precedes ↔ kinds.Pairwise (fun earlier later => earlier.rank ≤ later.rank) ∧
      ∀ kind, kind.isVariadic = true → kinds.count kind ≤ 1 := by
  induction kinds with
  | nil => simp
  | cons first rest ih =>
    rw [pairwise_cons, pairwise_cons, ih]
    constructor
    · rintro ⟨head, ordered, single⟩
      refine ⟨⟨fun later member => (head later member).1, ordered⟩, fun kind variadic => ?_⟩
      by_cases same : first = kind
      · subst same
        have absent : first ∉ rest := fun member => by
          cases variadic.symm.trans ((head first member).2 rfl)
        exact Nat.le_of_eq (by rw [count_cons_self, count_eq_zero_of_not_mem absent])
      · rw [count_cons_of_ne same]
        exact single kind variadic
    · rintro ⟨⟨head, ordered⟩, single⟩
      refine ⟨fun later member => ⟨head later member, ?_⟩, ordered, fun kind variadic => ?_⟩
      · rintro rfl
        refine Bool.eq_false_iff.mpr fun variadic => ?_
        have twice := single first variadic
        rw [count_cons_self] at twice
        have := count_pos_iff.mpr member
        omega
      · exact Nat.le_trans count_le_count_cons (single kind variadic)

end ParameterKind

theorem Parameter.placeFault?_eq_none_iff
    {previous : Option ParameterKind} :
    parameter.placeFault? previous = none ↔
      ∀ kind, previous = some kind → kind.Precedes parameter.kind := by
  cases previous with
  | none => simp [placeFault?]
  | some previous =>
    simp only [placeFault?, ParameterKind.Precedes, Option.some.injEq, forall_eq']
    simp only [ite_eq_right_iff, reduceCtorEq, imp_false, not_or, Nat.not_lt, not_and,
      Bool.not_eq_true]
    exact and_congr_right fun _ => imp_congr_left eq_comm

theorem Parameter.hintFault?_eq_none_iff :
    parameter.hintFault? = none ↔ (parameter.kind = .variadicKeyword →
      ∀ hint, parameter.hint = some hint → hint.isIgnorable = true) := by
  unfold hintFault?
  cases parameter.hint <;> simp [Hint.checkable]

namespace Signature

/-- What it takes for parameters to be those of a function that can be guarded. -/
structure WellFormed (parameters : List Parameter) : Prop where
  identifiers : ∀ parameter ∈ parameters, Text.IsIdentifier parameter.name
  unreserved : ∀ parameter ∈ parameters, ¬ reservedStart.toList <+: parameter.name.toList
  distinct : (parameters.map Parameter.name).Nodup
  ordered : parameters.Pairwise fun earlier later => earlier.kind.rank ≤ later.kind.rank
  single : ∀ kind ∈ [ParameterKind.variadicPositional, .variadicKeyword],
    (parameters.map Parameter.kind).count kind ≤ 1
  unchecked : ∀ parameter ∈ parameters, parameter.kind = .variadicKeyword →
    ∀ hint, parameter.hint = some hint → hint.isIgnorable = true

theorem wellFormed_iff {parameters : List Parameter} :
    WellFormed parameters ↔ (∀ parameter ∈ parameters, Text.IsIdentifier parameter.name ∧
      ¬ reservedStart.toList <+: parameter.name.toList ∧ (parameter.kind = .variadicKeyword →
        ∀ hint, parameter.hint = some hint → hint.isIgnorable = true)) ∧
      (parameters.map Parameter.name).Nodup ∧
      (parameters.map Parameter.kind).Pairwise ParameterKind.Precedes := by
  have variadic (kind : ParameterKind) :
      kind ∈ [.variadicPositional, .variadicKeyword] ↔ kind.isVariadic = true := by
    cases kind <;> decide
  rw [ParameterKind.pairwise_precedes_iff, pairwise_map]
  simp only [← variadic]
  constructor
  · rintro ⟨identifiers, unreserved, distinct, ordered, single, unchecked⟩
    exact ⟨fun parameter member => ⟨identifiers parameter member, unreserved parameter member,
      unchecked parameter member⟩, distinct, ordered, single⟩
  · rintro ⟨each, distinct, ordered, single⟩
    exact ⟨fun parameter member => (each parameter member).1,
      fun parameter member => (each parameter member).2.1, distinct, ordered, single,
      fun parameter member => (each parameter member).2.2⟩

/-- Whether one more parameter may follow shows in the names before it and in the last kind. -/
theorem wellFormed_append {before : List Parameter} (formed : WellFormed before)
    (parameter : Parameter) :
    WellFormed (before ++ [parameter]) ↔
      parameter.nameFault? (before.map Parameter.name).reverse = none ∧
      parameter.placeFault? (before.getLast?.map Parameter.kind) = none ∧
      parameter.hintFault? = none := by
  rw [Parameter.nameFault?_eq_none_iff, Parameter.placeFault?_eq_none_iff,
    Parameter.hintFault?_eq_none_iff]
  rw [wellFormed_iff] at formed ⊢
  have last : (∀ kind, before.getLast?.map Parameter.kind = some kind →
      kind.Precedes parameter.kind) ↔
      ∀ kind ∈ before.map Parameter.kind, kind.Precedes parameter.kind := by
    rcases eq_nil_or_concat before with rfl | ⟨front, final, rfl⟩
    · simp
    · rw [concat_eq_append] at formed ⊢
      have kinds := formed.2.2
      rw [map_append, pairwise_append] at kinds
      simp only [getLast?_concat, Option.map_some, Option.some.injEq, forall_eq',
        map_append, map_singleton, forall_mem_append, forall_mem_singleton]
      refine ⟨fun next => ⟨fun kind member => ?_, next⟩, And.right⟩
      exact (kinds.2.2 kind member _ (mem_singleton_self _)).trans next
  obtain ⟨each, distinct, kinds⟩ := formed
  rw [last, map_append, map_append, nodup_append, pairwise_append]
  simp only [forall_mem_append, map_singleton, nodup_singleton,
    pairwise_singleton, forall_mem_singleton, mem_reverse, distinct, kinds, true_and]
  constructor
  · rintro ⟨⟨-, identifier, unreserved, unchecked⟩, fresh, ordered⟩
    exact ⟨⟨identifier, unreserved, fun taken => fresh _ taken rfl⟩, ordered, unchecked⟩
  · rintro ⟨⟨identifier, unreserved, fresh⟩, ordered, unchecked⟩
    refine ⟨⟨each, identifier, unreserved, unchecked⟩, fun name taken same => ?_, ordered⟩
    exact fresh (same ▸ taken)

theorem WellFormed.of_append {before after : List Parameter}
    (formed : WellFormed (before ++ after)) : WellFormed before := by
  rw [wellFormed_iff, map_append, map_append] at formed
  obtain ⟨each, distinct, kinds⟩ := formed
  exact wellFormed_iff.mpr ⟨(forall_mem_append.mp each).1, (nodup_append.mp distinct).1,
    (pairwise_append.mp kinds).1⟩

end Signature

/-- The failure says that the parameter of the function is at fault. -/
inductive Failure.Blames (function parameter : String) : Failure → Prop
  | name (fault : NameFault) : Blames function parameter (.parameterName function parameter fault)
  | place (fault : ParameterFault) :
    Blames function parameter (.malformedParameter function parameter fault)

namespace Signature

/-- The parameters are well-formed up to the one that the failure blames, but not with that one. -/
def FirstFault (function : String) (parameters : List Parameter) (failure : Failure) : Prop :=
  ∃ before parameter after, parameters = before ++ parameter :: after ∧ WellFormed before ∧
    ¬ WellFormed (before ++ [parameter]) ∧ failure.Blames function parameter.name

/-- The check of the rest after well-formed parameters comes to a verdict on all of them. -/
theorem validateFrom_cases {function : String} {before : List Parameter}
    (formed : WellFormed before) (rest : List Parameter) :
    (validateFrom function (before.map Parameter.name).reverse
      (before.getLast?.map Parameter.kind) rest = .ok () ∧ WellFormed (before ++ rest)) ∨
    ∃ failure, validateFrom function (before.map Parameter.name).reverse
      (before.getLast?.map Parameter.kind) rest = .error failure ∧
      FirstFault function (before ++ rest) failure := by
  induction rest generalizing before with
  | nil => exact .inl ⟨rfl, by rwa [append_nil]⟩
  | cons parameter rest ih =>
    have next := wellFormed_append formed parameter
    rw [validateFrom]
    cases named : parameter.nameFault? (before.map Parameter.name).reverse with
    | some fault =>
      refine .inr ⟨_, rfl, before, parameter, rest, rfl, formed, fun whole => ?_, .name fault⟩
      cases named.symm.trans (next.mp whole).1
    | none =>
      dsimp only
      cases placed : (parameter.placeFault? (before.getLast?.map Parameter.kind)).orElse
          fun _ => parameter.hintFault? with
      | some fault =>
        refine .inr ⟨_, rfl, before, parameter, rest, rfl, formed, fun whole => ?_, .place fault⟩
        rw [(next.mp whole).2.1, (next.mp whole).2.2] at placed
        cases placed
      | none =>
        have faultless : WellFormed (before ++ [parameter]) := by
          cases place : parameter.placeFault? (before.getLast?.map Parameter.kind) with
          | some fault =>
            rw [place] at placed
            cases placed
          | none =>
            rw [place] at placed
            exact next.mpr ⟨named, place, placed⟩
        have whole := ih faultless
        simpa using whole

theorem validate_cases (signature : Signature) :
    (signature.validate = .ok () ∧ WellFormed signature.parameters) ∨
      ∃ failure, signature.validate = .error failure ∧
        FirstFault signature.qualname signature.parameters failure :=
  validateFrom_cases (wellFormed_iff.mpr ⟨forall_mem_nil _, .nil, .nil⟩) signature.parameters

theorem wellFormed_of_validate {signature : Signature} (valid : signature.validate = .ok ()) :
    WellFormed signature.parameters := by
  obtain ⟨-, formed⟩ | ⟨failure, refused, -⟩ := signature.validate_cases
  · exact formed
  · cases valid.symm.trans refused

theorem isIdentifier_of_validate {signature : Signature} (valid : signature.validate = .ok ())
    {parameter : Parameter} (member : parameter ∈ signature.parameters) :
    Text.isIdentifier parameter.name = true :=
  Text.isIdentifier_iff.mpr ((wellFormed_of_validate valid).identifiers parameter member)

/-- Well-formed parameters are accepted and no others; where they are refused, the first one is
blamed with which they stop being well-formed. -/
theorem validate_iff_wellFormed (signature : Signature) :
    (signature.validate = .ok () ↔ WellFormed signature.parameters) ∧
      (WellFormed signature.parameters ∨ ∃ failure, signature.validate = .error failure ∧
        FirstFault signature.qualname signature.parameters failure) := by
  refine ⟨⟨wellFormed_of_validate, fun formed => ?_⟩, signature.validate_cases.imp_left And.right⟩
  obtain ⟨valid, -⟩ | ⟨failure, -, before, parameter, after, shown, -, ill, -⟩ :=
    signature.validate_cases
  · exact valid
  · rw [shown, List.append_cons] at formed
    exact absurd formed.of_append ill

end Signature

end CallGuard
