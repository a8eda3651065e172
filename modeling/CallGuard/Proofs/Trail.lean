/-
What a report points at. The culprits of a violation are a trail that starts at
the rejected value and goes from each value to one directly inside it. The cause
says in the same order how to get from one to the next, and it ends in what is
wrong with the last one. Causes are found inside out, by searches that may go
through unions, references and validated hints and that may stop at a depth, and
whatever a search finds, at whatever depth, is such a trail.
-/
import CallGuard.Proofs.Agreement

namespace CallGuard

/-! ### Trails -/

namespace Value

/-- A value directly inside another one, and how it is called there: an item by the class of the
container and its position, a key, or what is filed under a key. -/
inductive Leads (value : Value) : String → Value → Prop
  | item {items : List Value} {index : Nat} {item : Value} (contents : value.items? = some items)
    (located : items[index]? = some item) :
    Leads value (value.kind.name ++ " index " ++ toString index ++ " item") item
  | key {entries : List (Value × Value)} {entry : Value × Value}
    (contents : value.entries? = some entries) (member : entry ∈ entries) :
    Leads value "dict key" entry.1
  | entry {entries : List (Value × Value)} {entry : Value × Value}
    (contents : value.entries? = some entries) (member : entry ∈ entries) :
    Leads value ("dict key " ++ entry.1.shown ++ " value") entry.2

theorem Leads.mem_parts {value part : Value} {place : String} (leads : value.Leads place part) :
    part ∈ value.parts := by
  cases leads with
  | item contents located =>
    exact mem_parts_of_items (by rw [contents]; exact List.mem_of_getElem? located)
  | key contents member => exact (mem_parts_of_entries contents member).1
  | entry contents member => exact (mem_parts_of_entries contents member).2

/-- Each step leads from the value before it to its own. -/
def Trail : Value → List (String × Value) → Prop
  | _, [] => True
  | value, (place, part) :: rest => value.Leads place part ∧ part.Trail rest

/-- The cause follows a trail from the value and says what is wrong where it ends. -/
inductive Traces : Value → Cause → Prop
  | leaf {value : Value} (reason : String) : Traces value ⟨value.described ++ " " ++ reason, []⟩
  | nested {value part : Value} {place : String} {cause : Cause} (leads : value.Leads place part)
    (inside : Traces part cause) : Traces value (.nested place part cause)

variable {value : Value}

/-- What is wrong with a value is said after its description. -/
theorem Traces.said (words : String) :
    Traces value ⟨value.described ++ (" " ++ words), []⟩ := by
  rw [← String.append_assoc]
  exact .leaf words

theorem Traces.more {text : String} (traces : Traces value ⟨text, []⟩)
    (rest : String) : Traces value ⟨text ++ rest, []⟩ := by
  generalize given : (⟨text, []⟩ : Cause) = cause at traces
  cases traces with
  | leaf reason =>
    cases given
    rw [String.append_assoc]
    exact .leaf (reason ++ rest)
  | nested => cases given

/-- A cause that follows a trail can be taken apart into the steps of the trail and what is wrong
with the last value. -/
theorem Traces.exists_trail {cause : Cause} (traces : value.Traces cause) :
    ∃ (trail : List (String × Value)) (last : Value) (reason : String), value.Trail trail ∧
      cause.culprits = trail.map Prod.snd ∧ (value :: cause.culprits).getLast? = some last ∧
      cause.text = trail.foldr (fun step text => step.1 ++ " " ++ text)
        (last.described ++ " " ++ reason) := by
  induction traces with
  | @leaf value reason => exact ⟨[], value, reason, trivial, rfl, rfl, rfl⟩
  | @nested value part place cause leads _ ih =>
    obtain ⟨trail, last, reason, inside, culprits, ends, text⟩ := ih
    refine ⟨(place, part) :: trail, last, reason, ⟨leads, inside⟩, ?_, ?_, ?_⟩
    · rw [List.map_cons, ← culprits]
      rfl
    · exact List.getLast?_cons_cons.trans ends
    · rw [List.foldr_cons, ← text]
      rfl

theorem Trail.isChain {trail : List (String × Value)} (found : value.Trail trail) :
    (value :: trail.map Prod.snd).IsChain fun outer inner => inner ∈ outer.parts := by
  induction trail generalizing value with
  | nil => exact .singleton value
  | cons step rest ih =>
    exact .cons_cons found.1.mem_parts (ih found.2)

/-- A value with items that is an instance of a container is one of the containers itself. -/
theorem kind_of_items {items : List Value} (contents : value.items? = some items)
    {container : Class} (known : container ∈ [Class.list, .set, .frozenset, .tuple])
    (holds : value.isInstance container = true) : value.kind = container := by
  have apart : ∀ kind ∈ [Class.list, .set, .frozenset, .tuple],
      ∀ container ∈ [Class.list, .set, .frozenset, .tuple],
        kind.isSubclassOf container = true → kind = container := by decide
  refine apart value.kind ?_ container known holds
  cases value with
  | list | tuple | set | frozenset => simp [kind]
  | _ => cases contents

end Value

/-! ### What searches find -/

namespace Cause

/-- Whatever the search finds follows a trail from the value. -/
def Tracing (value : Value) (search : Action (Option Cause)) : Prop :=
  Upholds (fun _ => True) (fun found => ∀ cause, found = some cause → value.Traces cause)
    (fun _ => True) search

variable {settings : Settings} {random : UInt32} {value : Value}

theorem traces_of_none (cause : Cause) (found : none = some cause) : value.Traces cause :=
  nomatch found

theorem tracing_none : Tracing value (pure none) := upholds_pure traces_of_none

theorem tracing_pure {found : Option Cause}
    (traces : ∀ cause, found = some cause → value.Traces cause) : Tracing value (pure found) :=
  upholds_pure traces

theorem tracing_leaf {text : String} (traces : value.Traces ⟨text, []⟩) :
    Tracing value (pure (leaf text)) := by
  refine tracing_pure ?_
  rintro _ ⟨⟩
  exact traces

/-- A search inside a part of the value, named as such. -/
theorem Tracing.nested {part : Value} {place : String} {search : Action (Option Cause)}
    (tracing : Tracing part search) (leads : value.Leads place part) :
    Tracing value (do return (← search).map (nested place part)) := by
  refine upholds_bind tracing fun found traces => upholds_pure ?_
  intro cause described
  obtain ⟨inner, rfl, rfl⟩ := Option.map_eq_some_iff.mp described
  exact .nested leads (traces inner rfl)

variable {cause : Cause} {searches : List (Action (Option Cause))}

theorem traces_of_ofInstance {c : Class}
    (found : ofInstance settings c value = some cause) : value.Traces cause := by
  unfold ofInstance at found
  dsimp only at found
  split at found
  · cases found
  · cases found
    exact (Value.Traces.said "not instance of ").more _

theorem traces_of_ofClassObject {base : Option Class}
    (found : ofClassObject base value = some cause) : value.Traces cause := by
  unfold ofClassObject at found
  split at found
  · cases found
  · split at found
    · cases found
      exact (Value.Traces.said "not subclass of ").more _
    · cases found
      exact Value.Traces.said "not class"

theorem traces_of_ofLiterals {hint : Hint} {values : List Value}
    (found : ofLiterals hint values value = some cause) : value.Traces cause := by
  unfold ofLiterals at found
  split at found
  · cases found
  · cases found
    exact (Value.Traces.said "!= any of ").more _

theorem traces_of_ofValidators {validators : List Validator}
    (found : ofValidators validators value = some cause) : value.Traces cause := by
  obtain ⟨validator, -, given⟩ := Option.bind_eq_some_iff.mp found
  cases given
  exact (Value.Traces.said "violates validator ").more _

theorem ofProtocol_tracing (protocol : Protocol) : Tracing value (ofProtocol protocol value) := by
  have asked : Upholds (fun _ => True) (fun _ => True) (fun _ => True)
      (Action.ask protocol value.kind) := upholds_of_after fun _ _ => trivial
  refine upholds_bind asked fun answer _ => ?_
  cases answer with
  | true => exact tracing_none
  | false =>
    exact tracing_leaf (((((Value.Traces.said "not instance of protocol ").more _).more _).more
      _).more _)

theorem ofLeaf_tracing (hint : Hint) (shape : Shape) :
    Tracing value (ofLeaf settings hint shape value) := by
  cases shape with
  | unsupported obstacle => exact upholds_throw trivial
  | never => exact tracing_leaf (Value.Traces.said "returned despite NoReturn")
  | null =>
    cases value with
    | null => exact tracing_none
    | _ => exact tracing_leaf (Value.Traces.said "not None")
  | instanceOf | sequence | mapping | fixedTuple =>
    exact tracing_pure fun _ => traces_of_ofInstance
  | subclassOf => exact tracing_pure fun _ => traces_of_ofClassObject
  | structural protocol => exact ofProtocol_tracing protocol
  | literal => exact tracing_pure fun _ => traces_of_ofLiterals
  | ignorable | union | reference | annotated => exact tracing_none

/-- The best cause so far follows a trail, and so do those that the members give. -/
theorem ofSearches_tracing
    (each : ∀ search ∈ searches, Tracing value search) {best : Option Cause}
    (traces : ∀ cause, best = some cause → value.Traces cause) :
    Upholds (fun _ : World => True)
      (fun found => ∀ cause, found = some (some cause) → value.Traces cause) (fun _ => True)
      (ofSearches best searches) := by
  induction searches generalizing best with
  | nil => exact upholds_pure fun cause found => traces cause (Option.some.inj found)
  | cons first rest ih =>
    obtain ⟨head, tail⟩ := List.forall_mem_cons.mp each
    refine upholds_bind head fun found known => ?_
    cases found with
    | none => exact upholds_pure nofun
    | some cause =>
      refine ih tail fun chosen kept => ?_
      split at kept
      · exact known chosen kept
      · exact traces chosen kept

theorem ofUnion_tracing {members : List Hint}
    (each : ∀ search ∈ searches, Tracing value search) :
    Tracing value (ofUnion members value searches) := by
  refine upholds_bind (ofSearches_tracing each traces_of_none) fun found traces => ?_
  rcases found with _ | _ | cause
  · exact tracing_none
  · exact tracing_leaf ((Value.Traces.said "not ").more _)
  · refine tracing_pure ?_
    rintro _ ⟨⟩
    exact traces cause rfl

theorem findShallow_tracing (hint : Hint) : Tracing value (findShallow settings hint value) := by
  fun_induction findShallow settings hint value with
  | case1 hint inner validators shaped ih => exact ih
  | case2 hint members shaped ih =>
    refine ofUnion_tracing (List.forall_mem_map.mpr ?_)
    rintro ⟨member, inMembers⟩ -
    exact ih member inMembers
  | case3 => exact ofLeaf_tracing _ _

/-- Where a container was found to be one, its items are called after it. -/
theorem leads_item {container : Class} (known : container ∈ [Class.list, .set, .frozenset, .tuple])
    (fits : ofInstance settings container value = none) {index : Nat} {content : Value}
    (located : (value.items?.getD [])[index]? = some content) :
    value.Leads (container.name ++ " index " ++ toString index ++ " item") content := by
  cases contents : value.items? with
  | none =>
    rw [contents] at located
    cases located
  | some items =>
    rw [contents] at located
    have holds : value.isInstance container = true := by
      rw [← settings.admits_container known value]
      exact ofInstance_eq_none_iff.mp fits
    rw [← Value.kind_of_items contents known holds]
    exact .item contents located

/-- An entry is searched key first. -/
theorem entry_tracing {find : Hint → Value → Action (Option Cause)}
    (each : ∀ hint content, Tracing content (find hint content)) (key entry : Option Hint)
    {content : Value × Value} (member : content ∈ value.entries?.getD []) :
    Tracing value (do
      let inKey ← match key with
        | none => pure none
        | some hint => find hint content.1
      match inKey, entry with
      | some cause, _ => return some (nested "dict key" content.1 cause)
      | none, none => return none
      | none, some hint =>
        return (← find hint content.2).map
          (nested ("dict key " ++ content.1.shown ++ " value") content.2)) := by
  obtain ⟨entries, contents, member⟩ : ∃ entries, value.entries? = some entries ∧
      content ∈ entries := by
    cases contents : value.entries? with
    | none =>
      rw [contents] at member
      cases member
    | some entries =>
      rw [contents] at member
      exact ⟨entries, rfl, member⟩
  have after {search : Action (Option Cause)} (tracing : Tracing content.1 search) :
      Tracing value (do
        let inKey ← search
        match inKey, entry with
        | some cause, _ => return some (nested "dict key" content.1 cause)
        | none, none => return none
        | none, some hint =>
          return (← find hint content.2).map
            (nested ("dict key " ++ content.1.shown ++ " value") content.2)) := by
    refine upholds_bind tracing fun found traces => ?_
    cases found with
    | some cause =>
      refine tracing_pure ?_
      rintro _ ⟨⟩
      exact .nested (.key contents member) (traces cause rfl)
    | none =>
      cases entry with
      | none => exact tracing_none
      | some hint => exact (each hint content.2).nested (.entry contents member)
  cases key with
  | none => exact after tracing_none
  | some hint => exact after (each hint content.1)

/-- Whatever a search finds follows a trail from the value, at whatever depth and through whatever
references. -/
theorem findWithin_tracing (levels : Nat) (hint : Hint) :
    Tracing value (findWithin settings random levels hint value) := by
  induction levels generalizing hint value with
  | zero => exact findShallow_tracing hint
  | succ levels ih =>
    rw [findWithin]
    split
    case h_1 => exact ofUnion_tracing (List.forall_mem_map.mpr fun _ _ => ih _)
    case h_2 container item shaped =>
      split
      case h_1 found => exact tracing_pure fun _ same => traces_of_ofInstance (found.trans same)
      case h_2 fits =>
        refine upholds_findSomeM? traces_of_none fun picked member => ?_
        exact (ih item).nested (leads_item (Hint.container_of_shape shaped) fits
          (Sampling.getElem?_of_mem_pick member))
    case h_3 key entry _ =>
      split
      case h_1 found => exact tracing_pure fun _ same => traces_of_ofInstance (found.trans same)
      case h_2 =>
        refine upholds_findSomeM? traces_of_none fun picked member => ?_
        exact entry_tracing (fun hint _ => ih hint) key entry
          (Sampling.mem_of_mem_pick member)
    case h_4 items _ =>
      split
      case h_1 found => exact tracing_pure fun _ same => traces_of_ofInstance (found.trans same)
      case h_2 fits =>
        dsimp only
        split
        · exact tracing_leaf ((((Value.Traces.said "length ").more _).more _).more _)
        · refine upholds_findSomeM? traces_of_none fun picked member => ?_
          have located := List.mem_zipIdx_iff_getElem?.mp member
          refine (ih picked.1.1).nested (leads_item (by decide) fits ?_)
          exact (List.getElem?_zip_eq_some.mp located).2
    case h_5 target _ =>
      exact upholds_bind (upholds_of_after fun _ _ => trivial) fun hint _ => ih hint
    case h_6 inner validators _ =>
      refine upholds_bind (ih inner) fun found traces => ?_
      cases found with
      | none => exact tracing_pure fun _ => traces_of_ofValidators
      | some cause => exact tracing_pure traces
    case h_7 => exact ofLeaf_tracing _ _

end Cause

/-! ### Reports -/

section Reports

variable {settings : Settings} {function name : String} {site : Site} {hint : Hint} {value : Value}
  {random : UInt32}

/-- A report is about the value and gives a cause that follows a trail from it, also if no cause was
found. -/
theorem report_tracing : Upholds (fun _ : World => True)
    (fun violation => violation.value = value ∧ ∃ cause, value.Traces cause ∧
      violation.cause = cause.text ∧ violation.culprits = value :: cause.culprits)
    (fun _ => True) (report settings function site name hint value random) := by
  refine upholds_bind (Cause.findWithin_tracing _ hint) fun found traces => ?_
  refine upholds_bind (upholds_of_after fun _ _ => trivial) fun _ _ => upholds_pure ?_
  cases found with
  | none =>
    exact ⟨rfl, _, Value.Traces.said "failed a check no cause was found for", rfl, rfl⟩
  | some cause => exact ⟨rfl, cause, traces cause rfl, rfl, rfl⟩

/-- The culprits of a violation are the value and then, one inside the other, the values of a trail.
The cause is made of the places of the trail, one for each step, and of a last part that starts with
the description of the last culprit. -/
theorem culprits_form_trail {before after : World} {violation : Violation}
    (ended : (report settings function site name hint value random).Ends before violation after) :
    ∃ (trail : List (String × Value)) (last : Value) (reason : String),
      value.Trail trail ∧
      violation.value = value ∧ violation.culprits = value :: trail.map Prod.snd ∧
      violation.culprits.IsChain (fun outer inner => inner ∈ outer.parts) ∧
      violation.culprits.getLast? = some last ∧
      violation.cause = trail.foldr (fun step text => step.1 ++ " " ++ text)
        (last.described ++ " " ++ reason) := by
  obtain ⟨-, same, cause, traces, text, culprits⟩ :=
    (report_tracing before trivial).1 violation after ended
  obtain ⟨trail, last, reason, found, nested, ends, said⟩ := traces.exists_trail
  rw [nested] at culprits ends
  refine ⟨trail, last, reason, found, same, culprits, ?_, ?_, text.trans said⟩
  · rw [culprits]
    exact found.isChain
  · rw [culprits]
    exact ends

/-- In a dictionary of nested lists of integers, a text is found three steps down. -/
theorem culprits_form_trail_to_text :
    let settings : Settings := ⟨true, .full, true, false, ⟨102, .fixed 0⟩⟩
    let hint : Hint := .generic .dict [.instanceOf .str, .reference nestedIntegers] false
    let inner : Value := .list 3 [.str 4 "a"]
    let outer : Value := .list 2 [.int 1, inner]
    let value : Value := .dict 0 [(.str 1 "k", outer)]
    ∃ violation after,
      (report settings "f" .parameter "x" hint value 0).Ends nestedWorld violation after ∧
      violation.culprits = [value, outer, inner, .str 4 "a"] ∧
      ∃ trail last reason, value.Trail trail ∧ trail.map Prod.snd = [outer, inner, .str 4 "a"] ∧
        violation.culprits.getLast? = some last ∧
        violation.cause = trail.foldr (fun step text => step.1 ++ " " ++ text)
          (last.described ++ " " ++ reason) := by
  intro settings hint inner outer value
  obtain ⟨violation, after, ended, found⟩ : ∃ violation after,
      (report settings "f" .parameter "x" hint value 0).Ends nestedWorld violation after ∧
        violation.culprits = [value, outer, inner, .str 4 "a"] := ⟨_, _, rfl, rfl⟩
  obtain ⟨trail, last, reason, leads, -, culprits, -, ends, text⟩ := culprits_form_trail ended
  refine ⟨violation, after, ended, found, trail, last, reason, leads, ?_, ends, text⟩
  exact (List.cons.inj (culprits.symm.trans found)).2

end Reports

end CallGuard
