/-
Markers never get in each other's way. A fragment keeps its text with markers,
and texts with markers were put into one another on the way, by looking for
markers in all that was written before. Yet the text that a fragment is turned
into is the one that comes of writing its check directly, where nothing is looked
for: no literal and no name that a hint brings in is taken for a marker, and no
name of a loop is numbered on by what is inside the loop. The only texts that may
do harm are names of classes that say they are built in, for these are not quoted.
-/
import CallGuard.Proofs.Assembling
import CallGuard.Proofs.Rendering
import CallGuard.Proofs.Vocabulary

namespace CallGuard.Settings

variable {registry : Registry} {settings : Settings} {hint : Hint} {level : Nat}

/-- The hint that a fragment was made for: the one at hand, or one that is the same and left its
fragment in the registry. -/
def Origin (registry : Registry) (settings : Settings) (hint : Hint) (level : Nat)
    (fragment : Fragment) (origin : Hint) : Prop :=
  origin = hint ∨ registry.fragment? (.of settings hint level) hint = some fragment ∧
    origin.same hint = true ∧ origin.imprint = hint.imprint

theorem Origin.standard {fragment : Fragment} {origin : Hint}
    (given : Origin registry settings hint level fragment origin) (standard : hint.Standard) :
    origin.Standard := by
  rcases given with rfl | ⟨-, same, -⟩
  · exact standard
  · exact standard.of_same same

/-- Every fragment has an origin and comes of the check of its origin. -/
theorem exists_origin {issued : Hint → Prop} (faithful : registry.Faithful issued)
    {label : String} {world : World} {fragment : Fragment} {after : Workshop}
    (made : (settings.fragment label hint level).run.run ⟨registry, world⟩ =
      (.ok fragment, after)) :
    ∃ origin check, Origin registry settings hint level fragment origin ∧
      settings.check origin = .ok check ∧ fragment = ⟨check, level, settings.warnings origin⟩ := by
  have supplied := settings.supplies_fragment label hint level ⟨registry, world⟩
  rw [made] at supplied
  cases supplied with
  | known found _ =>
    obtain ⟨origin, check, -, same, imprints, checked, shown⟩ := faithful.handed found
    exact ⟨origin, check, .inr ⟨found, same, imprints⟩, checked, shown⟩
  | made _ checked _ => exact ⟨hint, _, .inl rfl, checked, rfl⟩

/-- Whatever a registry was used for, a fragment for a hint with standard classes is turned into the
text that comes of writing its check directly, for every text of the value under test and every
first free number. The names that the check binds must be few enough to be numbered with 64 bits. -/
theorem render_hygienic {bodies : Nat → Arguments → Action Value}
    (employed : registry.Employed (fun _ => True) bodies) (standard : hint.Standard)
    {label : String} {world : World} {fragment : Fragment} {after : Workshop}
    (made : (settings.fragment label hint level).run.run ⟨registry, world⟩ = (.ok fragment, after))
    (countable : fragment.locals ≤ 2 ^ 64) :
    ∃ origin check, Origin registry settings hint level fragment origin ∧
      settings.check origin = .ok check ∧
      ∀ value offset, fragment.render value offset =
        check.written Direct.numbered value offset level := by
  obtain ⟨origin, check, given, checked, rfl⟩ := exists_origin employed.stocked.fragments made
  have written : check.Standard :=
    (within_of_checkWithin (given.standard standard) checked).standard (fun _ => id) fun _ => id
  exact ⟨origin, check, given, checked, Fragment.render_eq_written written countable⟩

/-- Lists of lists of a text that reads like a marker. -/
def markerLists : Hint :=
  .generic .list [.generic .list [.literal [.str 5 "\x7bpith_0\x7d"]] false] false

theorem markerLists_standard : markerLists.Standard := by
  rintro inner (_ | ⟨_ | ⟨_, ⟨⟩⟩, _ | ⟨_ | ⟨_, ⟨⟩⟩, _ | ⟨⟨⟩, _⟩⟩⟩)
  · trivial
  · trivial
  · intro value member
    cases List.mem_singleton.mp member
    refine ⟨?_, fun _ => (by decide : Class.str ∈ Class.builtins)⟩
    rintro c (_ | ⟨⟨⟩, _⟩)

/-- The check of a value whose own text reads like a marker. -/
theorem render_hygienic_for_markers :
    let settings := Settings.standard ⟨102, .fixed 5⟩
    markerLists.Standard ∧ ∃ fragment after,
      (settings.fragment "x" markerLists 0).run.run ⟨.empty, .initial⟩ = (.ok fragment, after) ∧
        fragment.locals ≤ 2 ^ 64 ∧ fragment.render "\x7bpith_1\x7d" 3 =
          "(\n    isinstance(\x7bpith_1\x7d, list) and\n    all(\n        (\n" ++
          "            isinstance(__hc_pith_3, list) and\n            all(\n" ++
          "                (__hc_pith_4 == '\\x7bpith_0\\x7d' and isinstance(__hc_pith_4, str))\n" ++
          "                for __hc_pith_4 in" ++
          " __hc_registry.sample(__hc_pith_3, __hc_random_int, 1)\n            )\n        )\n" ++
          "        for __hc_pith_3 in __hc_registry.sample(\x7bpith_1\x7d, __hc_random_int, 1)\n" ++
          "    )\n)" := by
  intro settings
  have employed : Registry.empty.Employed (fun _ => True) fun _ _ => pure .null := .fresh
  have made : (settings.fragment "x" markerLists 0).run.run ⟨.empty, .initial⟩ = (.ok _, _) := rfl
  obtain ⟨origin, check, given, checked, written⟩ :=
    render_hygienic employed markerLists_standard made (by decide)
  have same : origin = markerLists := given.resolve_right fun found => nomatch found.1
  rw [same] at checked
  cases checked
  exact ⟨markerLists_standard, _, _, made, by decide, (written _ 3).trans (by decide +kernel)⟩

end CallGuard.Settings
