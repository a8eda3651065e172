/-
A registry that has been used gives the same fragments as an empty one. What is
handed out was filed for a hint that is the same as the one at hand and left the
same imprint. Neither test is enough by itself: hints that are the same may be
written differently, and literals that are written the same may differ. Together
they make the two hints twins, and twins have checks that cannot be told apart.
-/
import CallGuard.Proofs.Exchange
import CallGuard.Proofs.Making
import CallGuard.Proofs.Resemblance

namespace CallGuard

open List

/-! ### Equal values are legible together -/

namespace Value

/-- What is inside a value has an equal one inside every value that equals it. -/
theorem exists_inside_of_equal {inner a b : Value} (inside : inner.Inside a)
    (same : a.equal b = true) : ∃ inner', inner'.Inside b ∧ inner.equal inner' = true := by
  induction inside generalizing b with
  | self => exact ⟨b, .self, same⟩
  | @part part value member deeper ih =>
    obtain ⟨part', member', link⟩ : ∃ part' ∈ b.parts, part.equal part' = true := by
      cases equal_iff.mp same with
      | null | bool | int | float | complex | str | bytes | classObject | object => cases member
      | list each | tuple each => exact exists_linked_right each member
      | set _ each | frozenset _ each => exact each part member
      | dict _ each =>
        obtain ⟨entry, inEntries, side⟩ := mem_flatMap.mp member
        obtain ⟨entry', inEntries', key, content⟩ := each entry inEntries
        rcases mem_cons.mp side with rfl | side
        · exact ⟨entry'.1, mem_parts_of_key inEntries', key⟩
        · cases mem_singleton.mp side
          exact ⟨entry'.2, mem_parts_of_entry inEntries', content⟩
    obtain ⟨inner', inside', found⟩ := ih link
    exact ⟨inner', .part member' inside', found⟩

theorem Legible.of_equal {a b : Value} (legible : b.Legible) (same : a.equal b = true) :
    a.Legible := by
  intro inner inside
  obtain ⟨inner', inside', link⟩ := exists_inside_of_equal inside same
  have named := legible inner' inside'
  cases equal_iff.mp link with
  | classObject | object => exact named
  | _ => trivial

end Value

/-! ### Twins from imprints -/

namespace Hint

/-- The names of classes in the literals of the hint are legible. -/
def Legible (hint : Hint) : Prop :=
  ∀ values, (literal values).Inside hint → ∀ value ∈ values, value.Legible

theorem Legible.child {child hint : Hint} (legible : hint.Legible)
    (member : child ∈ hint.children) : child.Legible :=
  fun values inside => legible values (.child member inside)

/-- The literals inside the hint are made by their constructors. -/
def Built (hint : Hint) : Prop :=
  ∀ values, (literal values).Inside hint → ∀ value ∈ values, value.Built

/-- The validators of the hint are those that their serial numbers stand for. -/
def Listed (validators : Nat → Validator) (hint : Hint) : Prop :=
  ∀ inner given, (annotated inner given).Inside hint →
    ∀ validator ∈ given, validators validator.serial = validator

structure Issued (validators : Nat → Validator) (hint : Hint) : Prop where
  built : hint.Built
  listed : hint.Listed validators

variable {validators : Nat → Validator}

theorem Listed.child {child hint : Hint} (listed : hint.Listed validators)
    (member : child ∈ hint.children) : child.Listed validators :=
  fun inner given inside => listed inner given (.child member inside)

theorem Issued.child {child hint : Hint} (issued : hint.Issued validators)
    (member : child ∈ hint.children) : child.Issued validators :=
  ⟨fun values inside => issued.built values (.child member inside), issued.listed.child member⟩

/-- Hints that are built the same way leave imprints of the same length. -/
theorem Linked.imprint_length {linkage : Linkage} {a b : Hint} (linked : Linked linkage a b) :
    a.imprint.length = b.imprint.length := by
  induction a using induction_children generalizing b with
  | step a ih =>
    have children {hints others : List Hint} (inside : ∀ hint ∈ hints, hint ∈ a.children)
        (each : List.Forall₂ (Linked linkage) hints others) :
        (imprints hints).length = (imprints others).length := by
      induction each with
      | nil => rfl
      | cons head _ restHypothesis =>
        rw [imprints, imprints, length_append, length_append, ih _ (inside _ mem_cons_self) head,
          restHypothesis fun hint member => inside hint (mem_cons_of_mem _ member)]
    cases linked with
    | any | null | never | instanceOf | structural | reference | unknown => rfl
    | union each | generic each | tuple each =>
      simpa [imprint, Hint.children] using children (fun _ => id) each
    | annotated inside each =>
      simp [imprint, ih _ mem_cons_self inside, each.length_eq]
    | literal each => simp [imprint, valueImprint, length_flatMap, each.length_eq]

theorem forall₂_imprint_eq {hints hints' : List Hint} (each : List.Forall₂ Matches hints hints')
    (same : imprints hints = imprints hints') :
    List.Forall₂ (fun a b => Matches a b ∧ a.imprint = b.imprint) hints hints' := by
  induction each with
  | nil => exact .nil
  | cons head _ ih =>
    obtain ⟨first, rest⟩ := append_inj same head.imprint_length
    exact .cons ⟨head, first⟩ (ih rest)

theorem forall₂_text_eq {related : Value → Value → Prop} {values values' : List Value}
    (each : List.Forall₂ related values values')
    (same : values.flatMap valueImprint = values'.flatMap valueImprint) :
    List.Forall₂ (fun a b => related a b ∧ a.text = b.text) values values' := by
  induction each with
  | nil => exact .nil
  | cons head _ ih =>
    obtain ⟨name, rest⟩ := cons.inj (cons.inj same).2
    exact .cons ⟨head, Mark.name.inj name⟩ (ih rest)

/-- Literals that are equal and written the same are twins. -/
theorem twin_of_equal {legible : Prop} {a b : Value} (same : a.equal b = true)
    (kinds : a.kind = b.kind) (built : a.Built) (texts : a.text = b.text)
    (legibly : legible → b.Legible) : a.Twin legible b where
  alike := Value.alike_of_equal same kinds built
  lookups _ := ⟨Value.mem_lookups_of_equal same,
    Value.mem_lookups_of_equal (Value.equal_symm built same)⟩
  text := texts
  code written :=
    have right := legibly written
    have left := right.of_equal same
    (Value.resembles_of_text left right texts).code_eq left right

/-- Hints that are the same and leave the same imprint are twins, if their references are resolved
alike. -/
theorem twin_of_matches {similar : World → World → Prop} {legible : Prop} {a b : Hint}
    (issued : a.Issued validators) (listed : b.Listed validators) (legibly : legible → b.Legible)
    (concordant : Concordant similar a b)
    (matched : Matches a b) (imprints : a.imprint = b.imprint) : Twin similar legible a b := by
  induction a using induction_children generalizing b with
  | step a ih =>
    have children (each : List.Forall₂ (fun a b => Matches a b ∧ a.imprint = b.imprint)
        a.children b.children) : List.Forall₂ (Twin similar legible) a.children b.children := by
      refine forall₂_imp_of_mem each fun child member child' member' link => ?_
      exact ih child member (issued.child member) (listed.child member')
        (fun written => (legibly written).child member') (concordant.child member member') link.1
        link.2
    cases matched with
    | any | null | never | instanceOf | structural | unknown => constructor
    | union each =>
      have inside := (cons.inj (cons.inj imprints).2).2
      exact .union (children (forall₂_imprint_eq each inside))
    | generic each =>
      have inside := (cons.inj (cons.inj (cons.inj imprints).2).2).2
      exact .generic (children (forall₂_imprint_eq each (append_cancel_right inside)))
    | tuple each =>
      have inside := (cons.inj (cons.inj imprints).2).2
      exact .tuple (children (forall₂_imprint_eq each (append_cancel_right inside)))
    | reference link =>
      exact .reference ⟨link.1, link.2, concordant _ _ .self .self link.1 link.2⟩
    | annotated inside each =>
      obtain ⟨imprint, -⟩ := append_inj (cons.inj imprints).2 inside.imprint_length
      obtain _ | ⟨twin, -⟩ := children (.cons ⟨inside, imprint⟩ .nil)
      refine .annotated twin (forall₂_imp_of_mem each ?_)
      intro validator member validator' member' serials
      rw [← issued.listed _ _ .self validator member,
        ← listed _ _ .self validator' member', serials]
    | @literal values values' each =>
      refine .literal (forall₂_imp_of_mem (forall₂_text_eq each (cons.inj imprints).2) ?_)
      rintro value member value' member' ⟨⟨same, kinds⟩, text⟩
      exact twin_of_equal same kinds (issued.built _ .self value member) text
        fun written => legibly written _ .self value' member'

end Hint

/-! ### Registries that have been used -/

/-- Warnings depend on the settings only as far as the imprint for checks goes. -/
theorem Settings.warnings_congr {settings settings' : Settings}
    (same : settings.checkImprint = settings'.checkImprint) (hint : Hint) :
    settings.warnings hint = settings'.warnings hint := by
  have warns : settings.warnsOfAliases = settings'.warnsOfAliases :=
    congrArg (fun imprint => imprint.2.2) same
  rw [warnings, warnings, warns]

namespace Registry

variable {issued : Hint → Prop} {registry : Registry}

/-- Every fragment was made for the hint that it is filed with, which was issued, and is filed
under its key. -/
def Faithful (issued : Hint → Prop) (registry : Registry) : Prop :=
  ∀ key hint fragment, (key, hint, fragment) ∈ registry.fragments →
    issued hint ∧ ∃ settings : Settings, ∃ level check, key = .of settings hint level ∧
      settings.check hint = .ok check ∧ fragment = ⟨check, level, settings.warnings hint⟩

theorem empty_faithful : empty.Faithful issued := nofun

theorem Faithful.fileFragment (faithful : registry.Faithful issued) {settings : Settings}
    {hint : Hint} {check : Check} (level : Nat) (known : issued hint)
    (made : settings.check hint = .ok check) :
    (registry.fileFragment (.of settings hint level) hint
      ⟨check, level, settings.warnings hint⟩).Faithful issued := by
  intro key hint' fragment member
  rcases mem_file member with same | old
  · cases same
    exact ⟨known, settings, level, check, rfl, made, rfl⟩
  · exact faithful key hint' fragment old

/-- Making a fragment leaves a registry faithful, whether it succeeds or fails. -/
theorem Faithful.fragment (faithful : registry.Faithful issued) (settings : Settings)
    (label : String) {hint : Hint} (level : Nat) (world : World) (known : issued hint) :
    ((settings.fragment label hint level).run.run ⟨registry, world⟩).2.registry.Faithful
      issued := by
  have supplied := settings.supplies_fragment label hint level ⟨registry, world⟩
  generalize (settings.fragment label hint level).run.run ⟨registry, world⟩ = outcome at supplied ⊢
  cases supplied with
  | known | refused => exact faithful
  | made _ made _ => exact faithful.fileFragment level known made

/-- A fragment that is handed out was made for a hint that is the same as the one at hand and left
the same imprint, under settings that agree in all that fragments depend on. -/
theorem Faithful.handed (faithful : registry.Faithful issued) {settings : Settings} {hint : Hint}
    {level : Nat} {fragment : Fragment}
    (found : registry.fragment? (.of settings hint level) hint = some fragment) :
    ∃ twin check, issued twin ∧ twin.same hint = true ∧ twin.imprint = hint.imprint ∧
      settings.check twin = .ok check ∧ fragment = ⟨check, level, settings.warnings twin⟩ := by
  obtain ⟨twin, located, same⟩ := mem_of_fragment? found
  obtain ⟨known, settings', level', check, key, made, rfl⟩ := faithful _ _ _ located
  obtain ⟨imprints, imprint, rfl⟩ := FragmentKey.mk.inj key
  refine ⟨twin, check, known, same, imprints.symm, ?_, ?_⟩
  · rw [settings.check_congr imprint, made]
  · rw [settings.warnings_congr imprint]

end Registry

/-! ### Fragments that cannot be told apart -/

theorem nodup_eraseDups (names : List String) : names.eraseDups.Nodup := by
  cases names with
  | nil => exact nodup_nil
  | cons first rest =>
    rw [eraseDups_cons, nodup_cons]
    have shorter := length_filter_le (fun name => !name == first) rest
    refine ⟨fun member => ?_, nodup_eraseDups _⟩
    have kept := (mem_filter.mp (mem_eraseDups.mp member)).2
    simp at kept
termination_by names.length

/-- Lists with the same members give the same list of names in order. -/
theorem sorted_eq {names names' : List String} (same : ∀ name, name ∈ names ↔ name ∈ names') :
    (names.eraseDups.mergeSort fun left right => decide (left ≤ right)) =
      names'.eraseDups.mergeSort fun left right => decide (left ≤ right) := by
  have order (names : List String) : (names.mergeSort fun left right =>
      decide (left ≤ right)).Pairwise (fun left right => decide (left ≤ right) = true) :=
    pairwise_mergeSort (fun a b c first second => by
        simp only [decide_eq_true_eq] at first second ⊢
        exact String.le_trans first second)
      (fun a b => by
        simp only [Bool.or_eq_true, decide_eq_true_eq]
        exact String.le_total a b) names
  have perm : names.eraseDups.Perm names'.eraseDups := by
    rw [perm_ext_iff_of_nodup (nodup_eraseDups names) (nodup_eraseDups names')]
    intro name
    rw [mem_eraseDups, mem_eraseDups, same]
  refine List.Perm.eq_of_pairwise ?_ (order _) (order _)
    ((mergeSort_perm _ _).trans (perm.trans (mergeSort_perm _ _).symm))
  intro a b _ _ first second
  simp only [decide_eq_true_eq] at first second
  exact String.le_antisymm first second

/-- Fragments that cannot be told apart, also as texts if they are legible. -/
structure Fragment.Like (legible : Prop) (a b : Fragment) : Prop where
  code : legible → a.code = b.code
  locals : a.locals = b.locals
  needsRandom : a.check.needsRandom = b.check.needsRandom
  requires : a.requires = b.requires
  warnings : a.warnings = b.warnings
  verdict : ∀ value random, a.check.verdict value random = b.check.verdict value random

theorem Fragment.Like.of_twin {legible : Prop} {check check' : Check} {level : Nat}
    {warnings warnings' : List Warning} (twin : check.Twin Eq legible check')
    (same : warnings = warnings') :
    Fragment.Like legible ⟨check, level, warnings⟩ ⟨check', level, warnings'⟩ where
  code written := twin.code written level
  locals := twin.locals
  needsRandom := twin.needsRandom
  requires := sorted_eq twin.lookups
  warnings := same
  verdict value random := (twin.verdict value random).eq

/-! ### The same fragments as from an empty registry -/

/-- A registry that fragments for issued hints were made with, one after the other, under whatever
settings. Making some of them may have failed. -/
inductive Registry.Used (validators : Nat → Validator) : Registry → Prop
  | fresh : Used validators .empty
  | step {registry : Registry} (before : Used validators registry) (settings : Settings)
    (label : String) {hint : Hint} (level : Nat) (world : World) (issued : hint.Issued validators) :
    Used validators ((settings.fragment label hint level).run.run ⟨registry, world⟩).2.registry

variable {validators : Nat → Validator} {registry : Registry}

theorem Registry.Used.faithful (used : registry.Used validators) :
    registry.Faithful (Hint.Issued validators) := by
  induction used with
  | fresh => exact empty_faithful
  | step _ settings label level world issued ih =>
    exact ih.fragment settings label level world issued

namespace Settings

/-- Making a fragment with an empty registry gives what the hint itself gives. -/
theorem fragment_empty (settings : Settings) (label : String) (hint : Hint) (level : Nat)
    (world : World) :
    ((settings.fragment label hint level).run.run ⟨.empty, world⟩).1 =
      match settings.check hint with
      | .ok check => .ok ⟨check, level, settings.warnings hint⟩
      | .error refusal => .error (refusal.failure label hint) := by
  have supplied := settings.supplies_fragment label hint level ⟨.empty, world⟩
  generalize (settings.fragment label hint level).run.run ⟨.empty, world⟩ = outcome at supplied ⊢
  cases supplied with
  | known found _ => cases found
  | refused _ refused _ => rw [refused]
  | made _ made _ => rw [made]

/-- For a hint without references, making a fragment with a registry that has been used fails with
the same failure as with an empty one, or succeeds with a fragment that cannot be told apart from
the one made with an empty registry. The texts of the two are the same, too, if the names of classes
in the literals of the hint are legible. -/
theorem fragment_like_fresh (used : registry.Used validators) {hint : Hint}
    (issued : hint.Issued validators) (bare : ∀ target, ¬ (Hint.reference target).Inside hint)
    (settings : Settings) (label : String) (level : Nat) (world : World) :
    let outcome := ((settings.fragment label hint level).run.run ⟨registry, world⟩).1
    let fresh := ((settings.fragment label hint level).run.run ⟨.empty, world⟩).1
    (∃ failure, outcome = .error failure ∧ fresh = .error failure) ∨
      ∃ fragment fragment', outcome = .ok fragment ∧ fresh = .ok fragment' ∧
        fragment.Like hint.Legible fragment' := by
  intro outcome fresh
  have afresh : fresh = _ := settings.fragment_empty label hint level world
  have supplied := settings.supplies_fragment label hint level ⟨registry, world⟩
  have given : outcome = ((settings.fragment label hint level).run.run ⟨registry, world⟩).1 := rfl
  generalize (settings.fragment label hint level).run.run ⟨registry, world⟩ = run
    at supplied given
  cases supplied with
  | known found _ =>
    obtain ⟨twin, check, issued', same, imprints, made, rfl⟩ := used.faithful.handed found
    have twins : twin.Twin Eq hint.Legible hint :=
      Hint.twin_of_matches issued' issued.listed id (Hint.concordant_of_bare bare)
        (Hint.matches_of_same same) imprints
    obtain ⟨check', made', like⟩ :=
      exists_twin_of_checkWithin Action.similarity_eq [] twins made
    have made' : settings.check hint = .ok check' := made'
    rw [made'] at afresh
    exact .inr ⟨_, _, given, afresh, .of_twin like (twins.warnings_eq settings)⟩
  | @refused refusal _ _ refused _ =>
    rw [refused] at afresh
    exact .inl ⟨_, given, afresh⟩
  | @made check _ _ made _ =>
    rw [made] at afresh
    refine .inr ⟨_, _, given, afresh, .of_twin ?_ rfl⟩
    exact Check.twin_self fun _ _ => Action.corresponds_eq_refl _

/-- A literal set of two classes, told apart from others by its serial number. -/
def setLiteral (serial : Nat) (first second : Class) : Hint :=
  .literal [.set serial [.classObject first, .classObject second]]

variable {first second : Class}

theorem setLiteral_issued (serial : Nat) (differ : first ≠ second) :
    (setLiteral serial first second).Issued validators := by
  constructor
  · rintro values (_ | ⟨⟨⟩, _⟩) value member
    cases mem_singleton.mp member
    refine Value.built_of_parts ?_ ?_
    · simp [Value.HasDistinct, Value.equal, differ]
    · rintro part (_ | ⟨_, _ | ⟨_, ⟨⟩⟩⟩) <;>
        exact Value.built_of_parts trivial (forall_mem_nil _)
  · rintro inner given (_ | ⟨⟨⟩, _⟩)

theorem setLiteral_bare (serial : Nat) (first second : Class) (target : Reference) :
    ¬ (Hint.reference target).Inside (setLiteral serial first second) := by
  rintro (_ | ⟨⟨⟩, _⟩)

theorem setLiteral_legible (serial : Nat) (legible : first.Legible)
    (legible' : second.Legible) : (setLiteral serial first second).Legible := by
  rintro values (_ | ⟨⟨⟩, _⟩) value member
  cases mem_singleton.mp member
  rintro inner (_ | ⟨_ | ⟨_, _ | ⟨_, ⟨⟩⟩⟩, _ | ⟨⟨⟩, _⟩⟩)
  · trivial
  · exact legible
  · exact legible'

/-- A registry with the fragment of a literal set. -/
def setRegistry (settings : Settings) (first second : Class) : Registry :=
  ((settings.fragment "x" (setLiteral 201 first second) 0).run.run ⟨.empty, .initial⟩).2.registry

theorem setRegistry_used (settings : Settings) (differ : first ≠ second) :
    (setRegistry settings first second).Used validators :=
  .step .fresh settings "x" 0 .initial (setLiteral_issued 201 differ)

/-- What comes of making a fragment of a literal set with a registry. -/
def setFragment (settings : Settings) (registry : Registry) (first second : Class) :
    Except Failure Fragment :=
  ((settings.fragment "x" (setLiteral 202 first second) 0).run.run ⟨registry, .initial⟩).1

theorem fragment_like_fresh_for_equal_set :
    let settings := Settings.standard ⟨102, .fixed 0⟩
    let registry := setRegistry settings .int .str
    registry.Used (fun serial => ⟨serial, "even", fun _ => true⟩) ∧
      (registry.fragment? (.of settings (setLiteral 202 .int .str) 0)
        (setLiteral 202 .int .str)).isSome = true ∧
      ∃ fragment fragment', setFragment settings registry .int .str = .ok fragment ∧
        setFragment settings .empty .int .str = .ok fragment' ∧ fragment.Like True fragment' := by
  intro settings registry
  have used : registry.Used (fun serial => ⟨serial, "even", fun _ => true⟩) :=
    setRegistry_used settings (by decide)
  have legible : (setLiteral 202 .int .str).Legible :=
    setLiteral_legible 202 ⟨by decide, by decide, fun _ => by decide⟩
      ⟨by decide, by decide, fun _ => by decide⟩
  refine ⟨used, by decide +kernel, ?_⟩
  rcases fragment_like_fresh used (setLiteral_issued 202 (by decide)) (setLiteral_bare 202 .int .str)
    settings "x" 0 .initial with ⟨failure, -, failed⟩ | ⟨fragment, fragment', made, made', like⟩
  · cases failed
  · exact ⟨fragment, fragment', made, made', { like with code := fun _ => like.code legible }⟩

/-- A built-in class with a point in its name. -/
def pointed : Class := ⟨203, "a.D", Class.builtinHome, [], []⟩

/-- A class from a module that has the same name in full. -/
def homonym : Class := ⟨204, "D", "a", [], []⟩

/-- Another class of that name from that module. -/
def namesake : Class := ⟨205, "D", "a", [], []⟩

/-- What the fragment of a literal set that was made with a registry says of an equal set. -/
def setVerdict (settings : Settings) (registry : Registry) (first second : Class) : Option Bool :=
  (setFragment settings registry first second).toOption.bind fun fragment =>
    ((fragment.check.verdict (.set 206 [.classObject first, .classObject second]) 0).run.run
      .initial).1.toOption

/-- A set with the first two classes is written the same in either order, and the text of the
fragment made for one order is handed out for the other. A set that has a class twice, as no
constructor makes it, passes for a set of two classes of that name, and the fragment that is then
handed out for these rejects them. -/
theorem fragments_exchanged :
    let settings := Settings.standard ⟨102, .fixed 0⟩
    let validators := fun serial => ⟨serial, "even", fun _ => true⟩
    let registry := setRegistry settings pointed homonym
    (registry.Used validators ∧ (setLiteral 202 homonym pointed).Issued validators ∧
      (∀ target, ¬ (Hint.reference target).Inside (setLiteral 202 homonym pointed)) ∧
      (setFragment settings registry homonym pointed).toOption.map Fragment.code =
        some ("(\x7bpith\x7d == \x7ba.D, __hc_registry['a.D']\x7d" ++
          " and isinstance(\x7bpith\x7d, set))") ∧
      (setFragment settings .empty homonym pointed).toOption.map Fragment.code =
        some ("(\x7bpith\x7d == \x7b__hc_registry['a.D'], a.D\x7d" ++
          " and isinstance(\x7bpith\x7d, set))")) ∧
    (setLiteral 202 homonym namesake).Issued validators ∧
      (setLiteral 202 homonym namesake).Legible ∧
      setVerdict settings (setRegistry settings homonym homonym) homonym namesake = some false ∧
      setVerdict settings .empty homonym namesake = some true := by
  intro settings validators registry
  have legible : homonym.Legible := ⟨by decide, by decide, fun builtin => absurd builtin (by decide)⟩
  have legible' : namesake.Legible :=
    ⟨by decide, by decide, fun builtin => absurd builtin (by decide)⟩
  refine ⟨⟨setRegistry_used _ (by decide), setLiteral_issued _ (by decide), setLiteral_bare _ _ _,
    ?_, ?_⟩, setLiteral_issued _ (by decide), setLiteral_legible _ legible legible', ?_⟩
  all_goals decide +kernel

end Settings

end CallGuard
