/-
Settings of a guard: whether numbers are taken strictly, how many items of a
container are looked at, whether older names are warned about, whether the
generated source is kept, and where the drawn integers come from.
-/
import CallGuard.Sampling
import CallGuard.IndexSource
import CallGuard.Class

namespace CallGuard

structure Settings where
  /-- Otherwise an integer also passes for a float, and both for a complex number. -/
  strict : Bool
  sampling : Sampling
  /-- Whether to warn about the older, capitalised names. -/
  warnsOfAliases : Bool
  /-- Whether guards keep their generated source. -/
  keepsSource : Bool
  source : IndexSource

namespace Settings

/-- The settings that hold if nothing else is said. -/
def standard (source : IndexSource) : Settings := ⟨true, .one, true, false, source⟩

/-- The part of the settings that checks depend on. -/
def checkImprint (settings : Settings) : Bool × Sampling × Bool :=
  (settings.strict, settings.sampling, settings.warnsOfAliases)

/-- What tells settings apart: the part that checks depend on, the rest, and which source it is. -/
def imprint (settings : Settings) : (Bool × Sampling × Bool) × Bool × IndexSource :=
  (settings.checkImprint, settings.keepsSource, settings.source)

/-- The classes that pass for a class. -/
def accepted (settings : Settings) (c : Class) : List Class :=
  if settings.strict then [c]
  else if c = .float then [c, .int]
  else if c = .complex then [c, .float, .int]
  else [c]

end Settings

end CallGuard
