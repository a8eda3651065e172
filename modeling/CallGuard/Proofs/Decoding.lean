/-
What an imprint tells about a hint. An imprint is read back from its first mark
on; the number of members of a union is marked, that of the values of a literal
and of the validators of an annotated hint is not, so there the end is where
marks of another kind begin. This works out unless an annotated hint is what
another annotated hint ends with: then the validators of the two run together.
The class and the text of a literal are all that is left of it.
-/
import CallGuard.Proofs.Twin
import CallGuard.Registry

namespace CallGuard

open List

namespace Hint

open CallGuard.Action

/-! ### Lists whose items delimit themselves -/

/-- The rest does not go on with such a mark. -/
def Without (starts : Mark → Prop) (rest : List Mark) : Prop := ∀ mark ∈ rest.head?, ¬ starts mark

theorem without_cons {starts : Mark → Prop} {mark : Mark} (other : ¬ starts mark)
    (rest : List Mark) : Without starts (mark :: rest) := by
  rintro _ ⟨⟩
  exact other

theorem without_nil (starts : Mark → Prop) : Without starts [] := nofun

variable {rest rest' : List Mark}

/-- Lists that are written item after item can be read back if every item can, if each starts with
a certain kind of mark and if what follows the list does not. -/
theorem forall₂_of_flatMap {Item : Type} {linked : Item → Item → Prop} {write : Item → List Mark}
    {starts : Mark → Prop} (follows : List Mark → Prop)
    (opens : ∀ item, ∃ mark more, starts mark ∧ write item = mark :: more)
    (goesOn : ∀ mark more, starts mark → follows (mark :: more)) {items items' : List Item}
    (reads : ∀ item ∈ items, ∀ item' ∈ items', ∀ rest rest', follows rest → follows rest' →
      write item ++ rest = write item' ++ rest' → linked item item' ∧ rest = rest')
    (stops : Without starts rest) (stops' : Without starts rest')
    (ends : follows rest) (ends' : follows rest')
    (same : items.flatMap write ++ rest = items'.flatMap write ++ rest') :
    List.Forall₂ linked items items' ∧ rest = rest' := by
  have follow (items : List Item) {rest : List Mark} (ends : follows rest) :
      follows (items.flatMap write ++ rest) := by
    cases items with
    | nil => exact ends
    | cons item items =>
      obtain ⟨mark, more, start, opening⟩ := opens item
      rw [flatMap_cons, opening]
      exact goesOn mark _ start
  have differ (item : Item) (items : List Item) {rest rest' : List Mark}
      (stops' : Without starts rest') : (item :: items).flatMap write ++ rest ≠ rest' := by
    rintro rfl
    obtain ⟨mark, more, start, opening⟩ := opens item
    rw [flatMap_cons, opening] at stops'
    exact stops' mark rfl start
  induction items generalizing items' with
  | nil =>
    cases items' with
    | nil => exact ⟨.nil, same⟩
    | cons item' items' => exact absurd same.symm (differ item' items' stops)
  | cons item items ih =>
    cases items' with
    | nil => exact absurd same (differ item items stops')
    | cons item' items' =>
      rw [flatMap_cons, flatMap_cons, append_assoc, append_assoc] at same
      obtain ⟨link, same⟩ := reads item mem_cons_self item' mem_cons_self _ _
        (follow items ends) (follow items' ends') same
      obtain ⟨links, same⟩ := ih (fun item member item' member' =>
        reads item (mem_cons_of_mem _ member) item' (mem_cons_of_mem _ member')) same
      exact ⟨.cons link links, same⟩

/-! ### Literals and validators -/

/-- The marks that a literal value starts with. -/
def Mark.IsKind (mark : Mark) : Prop := ∃ c, mark = .kind c

/-- The marks that validators leave. -/
def Mark.IsIdentity (mark : Mark) : Prop := ∃ serial, mark = .identity serial

theorem forall₂_of_valueImprint {values values' : List Value}
    (stops : Without Mark.IsKind rest) (stops' : Without Mark.IsKind rest')
    (same : values.flatMap valueImprint ++ rest = values'.flatMap valueImprint ++ rest') :
    List.Forall₂ (fun a b : Value => a.kind = b.kind ∧ a.text = b.text) values values' ∧
      rest = rest' := by
  refine forall₂_of_flatMap (fun _ => True) (fun value => ⟨_, _, ⟨value.kind, rfl⟩, rfl⟩)
    (fun _ _ _ => trivial) ?_ stops stops' trivial trivial same
  intro value _ value' _ rest rest' _ _ same
  obtain ⟨kinds, same⟩ := cons.inj same
  obtain ⟨texts, same⟩ := cons.inj same
  exact ⟨⟨Mark.kind.inj kinds, Mark.name.inj texts⟩, same⟩

theorem forall₂_of_serials {validators validators' : List Validator}
    (stops : Without Mark.IsIdentity rest) (stops' : Without Mark.IsIdentity rest')
    (same : (validators.map fun validator => Mark.identity validator.serial) ++ rest =
      (validators'.map fun validator => Mark.identity validator.serial) ++ rest') :
    List.Forall₂ (fun a b : Validator => a.serial = b.serial) validators validators' ∧
      rest = rest' := by
  rw [map_eq_flatMap, map_eq_flatMap] at same
  refine forall₂_of_flatMap (fun _ => True) (fun validator => ⟨_, _, ⟨validator.serial, rfl⟩, rfl⟩)
    (fun _ _ _ => trivial) ?_ stops stops' trivial trivial same
  intro validator _ validator' _ rest rest' _ _ same
  obtain ⟨serials, same⟩ := cons.inj same
  exact ⟨Mark.identity.inj serials, same⟩

/-- Validators that their serial numbers stand for are the same if the numbers are. -/
theorem eq_of_serials {validators : Nat → Validator} {given given' : List Validator}
    (listed : ∀ validator ∈ given, validators validator.serial = validator)
    (listed' : ∀ validator ∈ given', validators validator.serial = validator)
    (serials : List.Forall₂ (fun a b : Validator => a.serial = b.serial) given given') :
    given = given' := by
  rw [← forall₂_eq_eq_eq]
  refine forall₂_imp_of_mem serials fun a member b member' same => ?_
  rw [← listed a member, same, listed' b member']

/-! ### Reading an imprint -/

/-- The hint ends with an annotated one, whose validators may be taken for those of a hint around
it. -/
inductive EndsOpen : Hint → Prop
  | annotated (inner : Hint) (validators : List Validator) : EndsOpen (annotated inner validators)
  | union {members : List Hint} {last : Hint} (found : members.getLast? = some last)
    (ends : EndsOpen last) : EndsOpen (union members)

/-- The literals in the hint are among the given ones, its validators are those that their serial
numbers stand for, and no annotated hint in it has an open end inside. -/
structure Orderly (validators : Nat → Validator) (literals : Value → Prop) (hint : Hint) :
    Prop where
  literals : ∀ values, (literal values).Inside hint → ∀ value ∈ values, literals value
  listed : ∀ inner given, (annotated inner given).Inside hint →
    ∀ validator ∈ given, validators validator.serial = validator
  closed : ∀ inner given, (annotated inner given).Inside hint → ¬ inner.EndsOpen

variable {validators : Nat → Validator} {literals : Value → Prop}

theorem Orderly.child {child hint : Hint} (orderly : hint.Orderly validators literals)
    (member : child ∈ hint.children) : child.Orderly validators literals :=
  ⟨fun values inside => orderly.literals values (.child member inside),
    fun inner given inside => orderly.listed inner given (.child member inside),
    fun inner given inside => orderly.closed inner given (.child member inside)⟩

/-- What may follow the imprint of a hint. -/
structure Follows (hint : Hint) (rest : List Mark) : Prop where
  noKind : Without Mark.IsKind rest
  noIdentity : hint.EndsOpen → Without Mark.IsIdentity rest

theorem imprint_eq_cons (hint : Hint) : ∃ number rest, hint.imprint = .variant number :: rest := by
  cases hint <;> exact ⟨_, _, rfl⟩

theorem follows_of_cons {mark : Mark} (noKind : ¬ mark.IsKind) (noIdentity : ¬ mark.IsIdentity)
    (hint : Hint) (rest : List Mark) : hint.Follows (mark :: rest) :=
  ⟨without_cons noKind rest, fun _ => without_cons noIdentity rest⟩

theorem follows_imprint (hint next : Hint) (rest : List Mark) :
    hint.Follows (next.imprint ++ rest) := by
  obtain ⟨number, more, start⟩ := next.imprint_eq_cons
  rw [start]
  exact follows_of_cons (by rintro ⟨_, ⟨⟩⟩) (by rintro ⟨_, ⟨⟩⟩) hint (more ++ rest)

theorem follows_flag (hint : Hint) (on : Bool) (rest : List Mark) :
    hint.Follows (.flag on :: rest) :=
  follows_of_cons (by rintro ⟨_, ⟨⟩⟩) (by rintro ⟨_, ⟨⟩⟩) hint rest

/-- The serial numbers of validators may follow a hint that does not end open. -/
theorem follows_serials {hint : Hint} (closed : ¬ hint.EndsOpen) (given : List Validator)
    {rest : List Mark} (noKind : Without Mark.IsKind rest) :
    hint.Follows (given.map (fun validator => Mark.identity validator.serial) ++ rest) := by
  refine ⟨?_, fun ends => absurd ends closed⟩
  cases given with
  | nil => exact noKind
  | cons first given => exact without_cons (by rintro ⟨_, ⟨⟩⟩) _

/-- The imprint of the hint can be read back up to twins. -/
def ReadBack (similar : World → World → Prop) (validators : Nat → Validator)
    (literals : Value → Prop) (hint : Hint) : Prop :=
  ∀ other : Hint, other.Orderly validators literals → Concordant similar hint other →
    ∀ rest rest', hint.Follows rest → other.Follows rest' →
      hint.imprint ++ rest = other.imprint ++ rest' →
      hint.Twin similar True other ∧ rest = rest'

variable {similar : World → World → Prop}

/-- As many hints are read back as were written. -/
theorem forall₂_of_imprints {hints others : List Hint} (size : hints.length = others.length)
    (each : ∀ hint ∈ hints, hint.ReadBack similar validators literals)
    (orderly : ∀ other ∈ others, other.Orderly validators literals)
    (concordant : ∀ hint ∈ hints, ∀ other ∈ others, Concordant similar hint other)
    (follows : ∀ last, hints.getLast? = some last → last.Follows rest)
    (follows' : ∀ last, others.getLast? = some last → last.Follows rest')
    (same : imprints hints ++ rest = imprints others ++ rest') :
    List.Forall₂ (Twin similar True) hints others ∧ rest = rest' := by
  have next (hint : Hint) (hints : List Hint) {rest : List Mark}
      (follows : ∀ last, (hint :: hints).getLast? = some last → last.Follows rest) :
      hint.Follows (imprints hints ++ rest) := by
    cases hints with
    | nil => exact follows hint rfl
    | cons second hints =>
      rw [imprints, append_assoc]
      exact follows_imprint hint second _
  have later (hint : Hint) {hints : List Hint} {last : Hint} (found : hints.getLast? = some last) :
      (hint :: hints).getLast? = some last := by
    rw [getLast?_cons, found, Option.getD_some]
  induction hints generalizing others with
  | nil =>
    cases eq_nil_of_length_eq_zero size.symm
    exact ⟨.nil, same⟩
  | cons hint hints ih =>
    cases others with
    | nil => cases size
    | cons other others =>
      rw [imprints, imprints, append_assoc, append_assoc] at same
      obtain ⟨twin, same⟩ := each hint mem_cons_self other (orderly other mem_cons_self)
        (concordant hint mem_cons_self other mem_cons_self) _ _ (next hint hints follows)
        (next other others follows') same
      obtain ⟨twins, same⟩ := ih (Nat.succ.inj size)
        (fun hint member => each hint (mem_cons_of_mem _ member))
        (fun other member => orderly other (mem_cons_of_mem _ member))
        (fun hint member other member' =>
          concordant hint (mem_cons_of_mem _ member) other (mem_cons_of_mem _ member'))
        (fun last found => follows last (later hint found))
        (fun last found => follows' last (later other found)) same
      exact ⟨.cons twin twins, same⟩

/-- An imprint can be read back if literals with one class and one text cannot be told apart. -/
theorem readBack (told : ∀ a b : Value, literals a → literals b → a.kind = b.kind →
      a.text = b.text → a.Twin True b) {hint : Hint} (orderly : hint.Orderly validators literals) :
    hint.ReadBack similar validators literals := by
  induction hint using induction_children with
  | step hint ih =>
    intro other orderly' concordant rest rest' follows follows' same
    have each (child : Hint) (member : child ∈ hint.children) :
        child.ReadBack similar validators literals :=
      ih child member (orderly.child member)
    have children (size : hint.children.length = other.children.length) {rest rest' : List Mark}
        (ends : ∀ last, hint.children.getLast? = some last → last.Follows rest)
        (ends' : ∀ last, other.children.getLast? = some last → last.Follows rest')
        (same : imprints hint.children ++ rest = imprints other.children ++ rest') :
        List.Forall₂ (Twin similar True) hint.children other.children ∧ rest = rest' :=
      forall₂_of_imprints size each (fun child member => orderly'.child member)
        (fun child member child' member' => concordant.child member member') ends ends' same
    obtain ⟨variant, inside⟩ : hint.imprint.head? = other.imprint.head? ∧
        hint.imprint.tail ++ rest = other.imprint.tail ++ rest' := by
      obtain ⟨number, more, start⟩ := hint.imprint_eq_cons
      obtain ⟨number', more', start'⟩ := other.imprint_eq_cons
      rw [start, start'] at same ⊢
      exact ⟨congrArg some (cons.inj same).1, (cons.inj same).2⟩
    cases hint with
    | any | null | never =>
      cases other <;> cases variant
      exact ⟨by constructor, inside⟩
    | instanceOf | structural | unknown =>
      cases other <;> cases variant
      obtain ⟨mark, remains⟩ := cons.inj inside
      cases mark
      exact ⟨by constructor, remains⟩
    | union members =>
      cases other with
      | union members' =>
        obtain ⟨size, same⟩ := cons.inj inside
        obtain ⟨each, same⟩ := children (Mark.count.inj size)
          (fun _ found => ⟨follows.noKind, fun ends => follows.noIdentity (.union found ends)⟩)
          (fun _ found => ⟨follows'.noKind, fun ends => follows'.noIdentity (.union found ends)⟩)
          same
        exact ⟨.union each, same⟩
      | _ => cases variant
    | generic origin arguments aliased =>
      cases other with
      | generic origin' arguments' aliased' =>
        obtain ⟨mark, more⟩ := cons.inj inside
        obtain ⟨size, more⟩ := cons.inj more
        obtain ⟨each, more⟩ := children (Mark.count.inj size)
          (fun last _ => follows_flag last aliased rest)
          (fun last _ => follows_flag last aliased' rest') (by simpa [Hint.children] using more)
        obtain ⟨mark', remains⟩ := cons.inj more
        cases mark
        cases mark'
        exact ⟨.generic each, remains⟩
      | _ => cases variant
    | tuple items variadic aliased =>
      cases other with
      | tuple items' variadic' aliased' =>
        obtain ⟨size, more⟩ := cons.inj inside
        obtain ⟨each, more⟩ := children (Mark.count.inj size)
          (fun last _ => follows_flag last variadic (.flag aliased :: rest))
          (fun last _ => follows_flag last variadic' (.flag aliased' :: rest'))
          (by simpa [Hint.children] using more)
        obtain ⟨mark, more⟩ := cons.inj more
        obtain ⟨mark', remains⟩ := cons.inj more
        cases mark
        cases mark'
        exact ⟨.tuple each, remains⟩
      | _ => cases variant
    | reference target =>
      cases other with
      | reference target' =>
        obtain ⟨name, same⟩ := cons.inj inside
        obtain ⟨scope, same⟩ := cons.inj same
        have names := Mark.name.inj name
        have scopes := Mark.scope.inj scope
        exact ⟨.reference ⟨names, scopes, concordant target target' .self .self names scopes⟩, same⟩
      | _ => cases variant
    | annotated inner given =>
      cases other with
      | annotated inner' given' =>
        have same : inner.imprint ++ (given.map (fun validator => Mark.identity validator.serial) ++
            rest) = inner'.imprint ++
              (given'.map (fun validator => Mark.identity validator.serial) ++ rest') := by
          rw [← append_assoc, ← append_assoc]
          exact inside
        obtain ⟨twin, same⟩ := each inner mem_cons_self inner' (orderly'.child mem_cons_self)
          (concordant.child mem_cons_self mem_cons_self) _ _
          (follows_serials (orderly.closed inner given .self) given follows.noKind)
          (follows_serials (orderly'.closed inner' given' .self) given' follows'.noKind) same
        obtain ⟨serials, remains⟩ := forall₂_of_serials (follows.noIdentity (.annotated inner given))
          (follows'.noIdentity (.annotated inner' given')) same
        obtain rfl : given = given' :=
          eq_of_serials (orderly.listed inner given .self)
            (orderly'.listed inner' given' .self) serials
        exact ⟨.annotated twin (forall₂_same.mpr fun _ _ => rfl), remains⟩
      | _ => cases variant
    | literal values =>
      cases other with
      | literal values' =>
        obtain ⟨texts, same⟩ := forall₂_of_valueImprint follows.noKind follows'.noKind inside
        refine ⟨.literal (forall₂_imp_of_mem texts fun a member b member' link => ?_), same⟩
        exact told a b (orderly.literals values .self a member)
          (orderly'.literals values' .self b member') link.1 link.2
      | _ => cases variant

/-- The imprints of hints that are trusted can be read back, whatever comes after them. -/
def Decodable (similar : World → World → Prop) (trusted : Hint → Prop) : Prop :=
  ∀ a b, trusted a → trusted b → ∀ rest rest', a.Follows rest → b.Follows rest' →
    a.imprint ++ rest = b.imprint ++ rest' → a.Twin similar True b ∧ rest = rest'

theorem decodable {trusted : Hint → Prop}
    (told : ∀ a b : Value, literals a → literals b → a.kind = b.kind → a.text = b.text →
      a.Twin True b)
    (orderly : ∀ hint, trusted hint → hint.Orderly validators literals)
    (concordant : ∀ a b, trusted a → trusted b → Concordant similar a b) :
    Decodable similar trusted :=
  fun a b known known' =>
    readBack told (orderly a known) b (orderly b known') (concordant a b known known')

variable {trusted : Hint → Prop}

/-- Trusted hints with one imprint are twins. -/
theorem Decodable.twin (decodable : Decodable similar trusted) {a b : Hint} (known : trusted a)
    (known' : trusted b) (same : a.imprint = b.imprint) : a.Twin similar True b := by
  have ends (hint : Hint) : hint.Follows [] := ⟨without_nil _, fun _ => without_nil _⟩
  exact (decodable a b known known' [] [] (ends a) (ends b) (by rw [same])).1

/-- What may follow a hint that may be missing. -/
structure Apart (rest : List Mark) : Prop where
  noKind : Without Mark.IsKind rest
  noIdentity : Without Mark.IsIdentity rest

theorem Apart.follows {rest : List Mark} (apart : Apart rest) (hint : Hint) : hint.Follows rest :=
  ⟨apart.noKind, fun _ => apart.noIdentity⟩

theorem apart_nil : Apart [] := ⟨without_nil _, without_nil _⟩

theorem Decodable.optional (decodable : Decodable similar trusted) {hint hint' : Option Hint}
    (known : ∀ given, hint = some given → trusted given)
    (known' : ∀ given, hint' = some given → trusted given)
    (apart : Apart rest) (apart' : Apart rest')
    (same : optionalImprint hint ++ rest = optionalImprint hint' ++ rest') :
    Option.Rel (Twin similar True) hint hint' ∧ rest = rest' := by
  cases hint with
  | none =>
    cases hint' with
    | none => exact ⟨.none, (cons.inj same).2⟩
    | some given' => cases (cons.inj same).1
  | some given =>
    cases hint' with
    | none => cases (cons.inj same).1
    | some given' =>
      obtain ⟨twin, remains⟩ := decodable given given' (known given rfl) (known' given' rfl) rest
        rest' (apart.follows given) (apart'.follows given') (cons.inj same).2
      exact ⟨.some twin, remains⟩

end Hint

/-! ### Signatures -/

open Hint

variable {similar : World → World → Prop} {trusted : Hint → Prop}

/-- Parameters that differ at most in that their hints are twins. -/
structure Parameter.Twin (similar : World → World → Prop) (a b : Parameter) : Prop where
  name : a.name = b.name
  kind : a.kind = b.kind
  hint : Option.Rel (Hint.Twin similar True) a.hint b.hint

/-- Signatures with the same names, parameters that are twins and results that are. -/
structure Signature.Twin (similar : World → World → Prop) (a b : Signature) : Prop where
  name : a.name = b.name
  qualname : a.qualname = b.qualname
  parameters : List.Forall₂ (Parameter.Twin similar) a.parameters b.parameters
  returns : Option.Rel (Hint.Twin similar True) a.returns b.returns

theorem Hint.Decodable.parameter (decodable : Decodable similar trusted) {a b : Parameter}
    (known : ∀ given, a.hint = some given → trusted given)
    (known' : ∀ given, b.hint = some given → trusted given) {rest rest' : List Mark}
    (apart : Apart rest) (apart' : Apart rest') (same : a.imprint ++ rest = b.imprint ++ rest') :
    a.Twin similar b ∧ rest = rest' := by
  obtain ⟨names, more⟩ := cons.inj same
  obtain ⟨ranks, more⟩ := cons.inj more
  obtain ⟨hints, remains⟩ := decodable.optional known known' apart apart' more
  exact ⟨⟨Mark.name.inj names, ParameterKind.rank_injective (Mark.variant.inj ranks), hints⟩,
    remains⟩

/-- All hints of the signature are trusted. -/
structure Signature.Trusted (trusted : Hint → Prop) (signature : Signature) : Prop where
  parameters : ∀ parameter ∈ signature.parameters, ∀ hint, parameter.hint = some hint → trusted hint
  returns : ∀ hint, signature.returns = some hint → trusted hint

/-- What a guarded function is filed under, apart from the settings. -/
def Function.imprint (function : Function) : List Mark :=
  .identity function.identity :: .name function.signature.qualname ::
    function.signature.parameters.flatMap Parameter.imprint ++
      optionalImprint function.signature.returns

/-- The imprint of a function tells its body, its qualified name and, up to twins, its parameters
and its result. -/
theorem Hint.Decodable.function (decodable : Decodable similar trusted) {a b : Function}
    (known : a.signature.Trusted trusted) (known' : b.signature.Trusted trusted)
    (names : a.identity = b.identity → a.signature.name = b.signature.name)
    (same : a.imprint = b.imprint) :
    a.identity = b.identity ∧ a.signature.Twin similar b.signature := by
  obtain ⟨identity, more⟩ := cons.inj same
  obtain ⟨qualname, more⟩ := cons.inj more
  have stops (hint : Option Hint) : Without (fun mark => ∃ text, mark = .name text)
      (optionalImprint hint) := by
    cases hint <;> exact without_cons (by rintro ⟨_, ⟨⟩⟩) _
  have apart (hint : Option Hint) : Apart (optionalImprint hint) := by
    cases hint <;>
      exact ⟨without_cons (by rintro ⟨_, ⟨⟩⟩) _, without_cons (by rintro ⟨_, ⟨⟩⟩) _⟩
  obtain ⟨parameters, more⟩ := forall₂_of_flatMap Apart
    (fun parameter => ⟨_, _, ⟨parameter.name, rfl⟩, rfl⟩)
    (by
      rintro _ more ⟨text, rfl⟩
      exact ⟨without_cons (by rintro ⟨_, ⟨⟩⟩) _, without_cons (by rintro ⟨_, ⟨⟩⟩) _⟩)
    (fun parameter member parameter' member' rest rest' apart apart' same =>
      decodable.parameter (known.parameters parameter member)
        (known'.parameters parameter' member') apart apart' same)
    (stops a.signature.returns) (stops b.signature.returns) (apart a.signature.returns)
    (apart b.signature.returns) more
  obtain ⟨returns, -⟩ := decodable.optional known.returns known'.returns apart_nil apart_nil
    (congrArg (· ++ []) more)
  have identity := Mark.identity.inj identity
  exact ⟨identity, names identity, Mark.name.inj qualname, parameters, returns⟩

end CallGuard
