/-
Searches for a cause side by side. A search in a hint corresponds to the search
in a twin of it, as long as the hint has a check, and, being an inquiry, to itself
in any case: the two visit the same items in the same order, ask the same
questions and word what they find in the same way.
-/
import CallGuard.Proofs.Agreement
import CallGuard.Proofs.Exchange

namespace CallGuard

open CallGuard.Action List

variable {similar : World → World → Prop} {legible : Prop}

/-- Every inquiry corresponds to itself. -/
theorem Action.Inquires.corresponds {Result : Type} (similarity : Similarity similar)
    {action : Action Result} (inquires : Inquires action) : Corresponds similar action action := by
  induction inquires with
  | pure value => exact corresponds_pure value
  | throw => exact corresponds_throw _
  | ask protocol c => exact similarity.ask protocol c
  | resolve reference => exact similarity.resolve reference
  | bind _ _ firstHypothesis restHypothesis =>
    exact corresponds_bind firstHypothesis restHypothesis

/-! ### Linked shapes -/

namespace Shape

variable {linked linked' : Hint → Hint → Prop} {linkage : Linkage} {shape shape' : Shape}

theorem optional_imp {hint hint' : Option Hint} (link : Option.Rel linked hint hint')
    (weaker : ∀ a ∈ hint.toList, ∀ b ∈ hint'.toList, linked a b → linked' a b) :
    Option.Rel linked' hint hint' := by
  cases link with
  | none => exact .none
  | some link => exact .some (weaker _ mem_cons_self _ mem_cons_self link)

/-- The link between parts may be replaced by one that holds of the parts. -/
theorem Linked.imp (shapes : Linked linked linkage shape shape')
    (weaker : ∀ a ∈ shape.parts, ∀ b ∈ shape'.parts, linked a b → linked' a b) :
    Linked linked' linkage shape shape' := by
  cases shapes with
  | unsupported obstacle obstacle' => exact .unsupported obstacle obstacle'
  | ignorable => exact .ignorable
  | null => exact .null
  | instanceOf c => exact .instanceOf c
  | union each => exact .union (forall₂_imp_of_mem each weaker)
  | sequence items => exact .sequence (optional_imp items weaker)
  | mapping keys entries =>
    refine .mapping (optional_imp keys fun a member b member' => ?_)
      (optional_imp entries fun a member b member' => ?_)
    · exact weaker a (mem_append_left _ member) b (mem_append_left _ member')
    · exact weaker a (mem_append_right _ member) b (mem_append_right _ member')
  | fixedTuple each => exact .fixedTuple (forall₂_imp_of_mem each weaker)
  | subclassOf base => exact .subclassOf base
  | structural protocol => exact .structural protocol
  | reference link => exact .reference link
  | annotated inside each =>
    exact .annotated (weaker _ mem_cons_self _ mem_cons_self inside) each
  | literal each => exact .literal each
  | never => exact .never

end Shape

namespace Cause

variable {settings : Settings} {random : UInt32} {value : Value}

/-! ### Shapes without parts -/

theorem ofProtocol_corresponds (similarity : Similarity similar) (protocol : Protocol)
    (value : Value) :
    Corresponds similar (ofProtocol protocol value) (ofProtocol protocol value) :=
  corresponds_ite (similarity.ask protocol value.kind) (corresponds_pure _) (corresponds_pure _)

/-- What is found for shapes without parts is the same for shapes that are linked and open to
checks. -/
theorem ofLeaf_corresponds (similarity : Similarity similar) {linked : Hint → Hint → Prop}
    {hint hint' : Hint} {shape shape' : Shape}
    (shapes : shape.Linked linked (.twin similar legible) shape') (texts : hint.text = hint'.text)
    (isOpen : shape.Open) :
    Corresponds similar (ofLeaf settings hint shape value) (ofLeaf settings hint' shape' value) := by
  cases shapes with
  | unsupported obstacle obstacle' => exact absurd rfl (isOpen.1 obstacle)
  | structural protocol => exact ofProtocol_corresponds similarity protocol value
  | @literal values values' each =>
    have same : ofLiterals hint values value = ofLiterals hint' values' value := by
      rw [ofLiterals, ofLiterals, Value.any_isLiteral_eq (each.imp fun _ _ link => link.alike),
        texts]
    rw [ofLeaf, ofLeaf, same]
    exact corresponds_pure _
  | ignorable | null | instanceOf | union | sequence | mapping | fixedTuple | subclassOf
  | reference | annotated | never => exact corresponds_pure _

/-! ### Unions -/

theorem ofSearches_corresponds {searches searches' : List (Action (Option Cause))}
    (each : List.Forall₂ (Corresponds similar) searches searches') (best : Option Cause) :
    Corresponds similar (ofSearches best searches) (ofSearches best searches') := by
  induction each generalizing best with
  | nil => exact corresponds_pure _
  | cons head _ ih =>
    refine corresponds_bind head fun found => ?_
    cases found with
    | none => exact corresponds_pure _
    | some cause => exact ih _

theorem ofUnion_corresponds {members members' : List Hint}
    {search search' : Hint → Action (Option Cause)}
    (each : List.Forall₂ (fun member member' => member.text = member'.text ∧
      Corresponds similar (search member) (search' member')) members members') :
    Corresponds similar (ofUnion members value (members.map search))
      (ofUnion members' value (members'.map search')) := by
  have texts : members.map Hint.text = members'.map Hint.text := by
    rw [← forall₂_eq_eq_eq, forall₂_map_left_iff, forall₂_map_right_iff]
    exact each.imp fun _ _ link => link.1
  have searches : List.Forall₂ (Corresponds similar) (members.map search)
      (members'.map search') := by
    rw [forall₂_map_left_iff, forall₂_map_right_iff]
    exact each.imp fun _ _ link => link.2
  unfold ofUnion
  rw [texts]
  refine corresponds_bind (ofSearches_corresponds searches none) fun found => ?_
  rcases found with _ | _ | cause <;> exact corresponds_pure _

/-! ### Below the last level -/

end Cause

/-- The parts of a shape that are entered below the last level, too. -/
def Shape.entered : Shape → List Hint
  | .union members => members
  | .annotated inner _ => [inner]
  | _ => []

namespace Cause

variable {settings : Settings} {random : UInt32} {value : Value}

theorem findShallow_corresponds_of_linked (similarity : Similarity similar) {a b : Hint}
    (shapes : a.shape.Linked (fun inner inner' => inner.text = inner'.text ∧
      (inner ∈ a.shape.entered → Corresponds similar (findShallow settings inner value)
        (findShallow settings inner' value))) (.twin similar legible) b.shape)
    (texts : a.text = b.text) (isOpen : a.shape.Open) :
    Corresponds similar (findShallow settings a value) (findShallow settings b value) := by
  generalize shaped : a.shape = shape at shapes isOpen
  generalize shaped' : b.shape = shape' at shapes
  have leaves : Corresponds similar (ofLeaf settings a shape value)
      (ofLeaf settings b shape' value) := ofLeaf_corresponds similarity shapes texts isOpen
  cases shapes with
  | union each =>
    rw [findShallow_union shaped, findShallow_union shaped']
    refine ofUnion_corresponds (forall₂_imp_of_mem each fun member inMembers _ _ link => ?_)
    exact ⟨link.1, link.2 inMembers⟩
  | annotated inside _ =>
    rw [findShallow_annotated shaped, findShallow_annotated shaped']
    exact inside.2 mem_cons_self
  | unsupported | ignorable | null | instanceOf | sequence | mapping | fixedTuple | subclassOf
  | structural | reference | literal | never =>
    rw [findShallow_leaf shaped nofun nofun, findShallow_leaf shaped' nofun nofun]
    exact leaves

/-- Twins among the members of a union of plain classes are the same. -/
theorem eq_of_twin_plain {member member' : Hint} {c : Class}
    (twin : member.Twin similar legible member') (plain : member.plainClass? = some c) :
    member = member' := by
  cases twin with
  | null | instanceOf _ => rfl
  | _ => cases plain

/-- A shape that has a check by itself has parts only if it is a union of plain classes. -/
theorem plain_of_mem_parts {shape : Shape} {check : Check} {inner : Hint}
    (found : settings.leafCheck shape = some check) (member : inner ∈ shape.parts) :
    ∃ c, inner.plainClass? = some c := by
  cases shape with
  | union members =>
    obtain ⟨classes, plain, -⟩ := Option.map_eq_some_iff.mp found
    obtain ⟨c, -, link⟩ := exists_linked_right (Hint.forall₂_of_mapM_plainClass plain) member
    exact ⟨c, link⟩
  | sequence container item =>
    cases item with
    | none => cases member
    | some item => cases found
  | mapping key entry =>
    cases key <;> cases entry
    case none.none => cases member
    all_goals cases found
  | fixedTuple | annotated => cases found
  | unsupported | ignorable | null | instanceOf | subclassOf | structural | reference | literal
  | never => cases member

theorem findShallow_corresponds (similarity : Similarity similar) {a b : Hint} {path : List Nat}
    {check : Check} (twin : a.Twin similar legible b)
    (made : settings.shallowCheck path a = .ok check) (value : Value) :
    Corresponds similar (findShallow settings a value) (findShallow settings b value) := by
  have makes := Settings.makesShallow_of_shallowCheck made
  suffices shapes : a.shape.Linked (fun inner inner' => inner.text = inner'.text ∧
      (inner ∈ a.shape.entered → Corresponds similar (findShallow settings inner value)
        (findShallow settings inner' value))) (.twin similar legible) b.shape from
    findShallow_corresponds_of_linked similarity shapes twin.text_eq makes.open
  refine twin.shape.imp fun inner member inner' member' link => ⟨link.text_eq, fun entered => ?_⟩
  cases leaf : settings.leafCheck a.shape with
  | some found =>
    obtain ⟨c, plain⟩ := plain_of_mem_parts leaf member
    rw [← eq_of_twin_plain link plain]
    exact (findShallow_inquires inner).corresponds similarity
  | none =>
    have smaller := (Hint.mem_parts member).2
    generalize a.shape = shape at makes leaf entered
    cases makes with
    | leaf found =>
      rw [found] at leaf
      cases leaf
    | union _ each =>
      obtain ⟨part, -, path, made⟩ := exists_linked_right each entered
      exact findShallow_corresponds similarity link made value
    | annotated made =>
      cases mem_singleton.mp entered
      exact findShallow_corresponds similarity link made value
    | sequence | mapping | fixedTuple | reference => cases entered
termination_by a.height

/-! ### Above the last level -/

variable {levels : Nat}

/-- The searches in two linked items correspond, whatever the content. -/
def Traced (similar : World → World → Prop) (settings : Settings) (random : UInt32) (levels : Nat)
    (a b : Hint) : Prop :=
  a.text = b.text ∧ ∀ content, Corresponds similar (findWithin settings random levels a content)
    (findWithin settings random levels b content)

theorem mapped_corresponds {search search' : Action (Option Cause)}
    (corresponds : Corresponds similar search search') (describe : Cause → Cause) :
    Corresponds similar (search >>= fun found => pure (found.map describe))
      (search' >>= fun found => pure (found.map describe)) :=
  corresponds_bind corresponds fun _ => corresponds_pure _

theorem items_corresponds {items items' : List Hint} {contents : List Value}
    (describe : Nat → Value → Cause → Cause)
    (each : List.Forall₂ (Traced similar settings random levels) items items') (start : Nat) :
    List.Forall₂ (fun item item' : (Hint × Value) × Nat =>
      Corresponds similar (findWithin settings random levels item.1.1 item.1.2 >>= fun found =>
          pure (found.map (describe item.2 item.1.2)))
        (findWithin settings random levels item'.1.1 item'.1.2 >>= fun found =>
          pure (found.map (describe item'.2 item'.1.2))))
      ((items.zip contents).zipIdx start) ((items'.zip contents).zipIdx start) := by
  induction each generalizing contents start with
  | nil => exact .nil
  | cons head _ ih =>
    cases contents with
    | nil => exact .nil
    | cons content contents =>
      rw [zip_cons_cons, zip_cons_cons, zipIdx_cons, zipIdx_cons]
      exact .cons (mapped_corresponds (head.2 content) _) (ih (start + 1))

/-- The search in the content of an entry, after that in its key. -/
def afterKey (settings : Settings) (random : UInt32) (levels : Nat) (entry : Option Hint)
    (key content : Value) (inKey : Option Cause) : Action (Option Cause) :=
  match inKey, entry with
  | some cause, _ => pure (some (nested "dict key" key cause))
  | none, none => pure none
  | none, some hint => findWithin settings random levels hint content >>= fun found =>
    pure (found.map (nested ("dict key " ++ key.shown ++ " value") content))

theorem afterKey_corresponds {entry entry' : Option Hint}
    (entries : Option.Rel (Traced similar settings random levels) entry entry')
    (key content : Value) (inKey : Option Cause) :
    Corresponds similar (afterKey settings random levels entry key content inKey)
      (afterKey settings random levels entry' key content inKey) := by
  cases inKey with
  | some cause => exact corresponds_pure _
  | none =>
    cases entries with
    | none => exact corresponds_pure _
    | some link => exact mapped_corresponds (link.2 content) _

theorem findWithin_corresponds_of_linked (similarity : Similarity similar) {a b : Hint}
    (shapes : a.shape.Linked (Traced similar settings random levels) (.twin similar legible)
      b.shape)
    (texts : a.text = b.text) (isOpen : a.shape.Open) :
    Corresponds similar (findWithin settings random (levels + 1) a value)
      (findWithin settings random (levels + 1) b value) := by
  rw [findWithin, findWithin]
  generalize a.shape = shape at shapes isOpen
  generalize b.shape = shape' at shapes
  have leaves : Corresponds similar (ofLeaf settings a shape value)
      (ofLeaf settings b shape' value) := ofLeaf_corresponds similarity shapes texts isOpen
  cases shapes with
  | union each =>
    refine ofUnion_corresponds (each.imp fun _ _ link => ?_)
    exact ⟨link.1, link.2 value⟩
  | sequence items =>
    cases items with
    | none => exact leaves
    | some link =>
      dsimp only
      split
      · exact corresponds_pure _
      · refine corresponds_findSomeM? (forall₂_same.mpr fun picked _ => ?_)
        exact mapped_corresponds (link.2 picked.2) _
  | mapping keys entries =>
    dsimp only
    split
    · exact corresponds_pure _
    · refine corresponds_findSomeM? (forall₂_same.mpr fun picked _ => ?_)
      cases keys with
      | none => exact corresponds_bind (corresponds_pure none) (afterKey_corresponds entries _ _)
      | some link => exact corresponds_bind (link.2 picked.2.1) (afterKey_corresponds entries _ _)
  | fixedTuple each =>
    dsimp only
    split
    · exact corresponds_pure _
    · rw [each.length_eq]
      split
      · exact corresponds_pure _
      · exact corresponds_findSomeM? (items_corresponds
          (fun index => nested ("tuple index " ++ toString index ++ " item")) each 0)
  | reference link =>
    exact corresponds_bind link.2.2 fun hint =>
      (findWithin_inquires levels hint).corresponds similarity
  | annotated inside same =>
    cases forall₂_eq_eq_eq ▸ same
    refine corresponds_bind (inside.2 value) fun found => ?_
    cases found <;> exact corresponds_pure _
  | unsupported | ignorable | null | instanceOf | subclassOf | structural | literal | never =>
    exact leaves

/-- The search in a hint that has a check corresponds to that in a twin. -/
theorem findWithin_corresponds (similarity : Similarity similar) {a b : Hint} {path : List Nat}
    {check : Check} (twin : a.Twin similar legible b)
    (made : settings.checkWithin levels path a = .ok check) (value : Value) :
    Corresponds similar (findWithin settings random levels a value)
      (findWithin settings random levels b value) := by
  induction levels generalizing a b path check value with
  | zero => exact findShallow_corresponds similarity twin made value
  | succ levels ih =>
    have makes := Settings.makes_of_checkWithin made
    suffices shapes : a.shape.Linked (Traced similar settings random levels) (.twin similar legible)
        b.shape from
      findWithin_corresponds_of_linked similarity shapes twin.text_eq makes.open
    refine twin.shape.imp fun inner member inner' member' link => ?_
    cases leaf : settings.leafCheck a.shape with
    | some found =>
      obtain ⟨c, plain⟩ := plain_of_mem_parts leaf member
      rw [← eq_of_twin_plain link plain]
      exact ⟨rfl, fun _ => (findWithin_inquires levels inner).corresponds similarity⟩
    | none =>
      refine ⟨link.text_eq, fun content => ?_⟩
      -- Parts that the check does not look at admit everything, and nothing is found in them.
      cases ignorable : inner.isIgnorable with
      | true =>
        rw [findWithin_of_isIgnorable ignorable,
          findWithin_of_isIgnorable (link.isIgnorable_eq ▸ ignorable)]
        exact corresponds_pure none
      | false =>
        obtain ⟨path, check, made⟩ := makes.tested leaf (Shape.mem_tested member ignorable)
        exact ih link made content

end Cause

/-! ### Reports -/

/-- Reports on hints whose searches correspond do so, too. -/
theorem report_corresponds (similarity : Similarity similar) {settings : Settings}
    {a b : Hint} {random : UInt32} (texts : a.text = b.text) (function : String) (site : Site)
    (name : String) (value : Value)
    (searches : Corresponds similar (Cause.find settings random a value)
      (Cause.find settings random b value)) :
    Corresponds similar (report settings function site name a value random)
      (report settings function site name b value random) := by
  unfold report
  rw [texts]
  refine corresponds_bind searches fun cause => ?_
  exact corresponds_bind (similarity.note _ _ _) fun _ => corresponds_pure _

end CallGuard
