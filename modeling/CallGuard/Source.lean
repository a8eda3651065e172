/-
The source text of a guard: a function that takes any arguments, tests those
that are passed, calls the guarded function and tests what it returns. The text
is put together from templates with named holes.
-/
import CallGuard.Fragment
import CallGuard.Signature

namespace CallGuard.Source

/-! ### Templates -/

/-- A named hole of a template. -/
def hole (name : String) : String := "\x7b" ++ name ++ "\x7d"

/-- Fills the holes of a template, one name after the other. -/
def fill (template : String) (values : List (String × String)) : String :=
  values.foldl (fun text value => Text.replaceAll (hole value.1) value.2 text) template

/-- Stands for the name of the value under test where a violation is raised. -/
def nameHole : String := "?|PITH_ROOT_NAME`^"

/-- The name of the value under test. -/
def rootName : String := "__hc_pith_root"

/-- The head of a guard. -/
def head : String :=
  "def \x7bfunc_name\x7d(\n" ++
  "    *args,\n" ++
  "    __hc_func=__hc_func,\n" ++
  "    __hc_registry=__hc_registry,\n" ++
  "    **kwargs\n" ++
  "):"

/-- Binds the number of positional arguments. -/
def countArguments : String :=
  "\n" ++
  "    # Localize the number of passed positional arguments for efficiency.\n" ++
  "    __hc_args_len = len(args)"

/-- Draws the integer of the call. -/
def drawRandom : String :=
  "\n" ++
  "    # Draw one pseudo-random integer shared by every sampled container check.\n" ++
  "    __hc_random_int = __hc_registry.random_int()"

/-- Binds the argument of a parameter of the given kind, if such parameters can be checked. -/
def bindArgument : ParameterKind → Option String
  | .positionalOnly => some <|
    "\n\n" ++
    "    # If this positional-only parameter was passed...\n" ++
    "    if __hc_args_len > \x7barg_index\x7d:\n" ++
    "        # Localize this positional-only parameter.\n" ++
    "        __hc_pith_root = args[\x7barg_index\x7d]"
  | .positionalOrKeyword => some <|
    "\n\n" ++
    "    # Localize this positional or keyword parameter if passed *OR* to the\n" ++
    "    # sentinel \"__hc_registry\" guaranteed to never be passed.\n" ++
    "    __hc_pith_root = (\n" ++
    "        args[\x7barg_index\x7d] if __hc_args_len > \x7barg_index\x7d else\n" ++
    "        kwargs.get(\x7barg_name\x7d, __hc_registry)\n" ++
    "    )\n\n" ++
    "    # If this parameter was passed...\n" ++
    "    if __hc_pith_root is not __hc_registry:"
  | .keywordOnly => some <|
    "\n\n" ++
    "    # Localize this keyword-only parameter if passed *OR* to the sentinel.\n" ++
    "    __hc_pith_root = kwargs.get(\x7barg_name\x7d, __hc_registry)\n\n" ++
    "    # If this parameter was passed...\n" ++
    "    if __hc_pith_root is not __hc_registry:"
  | .variadicPositional => some <|
    "\n\n" ++
    "    # For all passed variadic positional parameters...\n" ++
    "    for __hc_pith_root in args[\x7barg_index\x7d:]:"
  | .variadicKeyword => none

/-- Opens the test of a value. -/
def testOpening : String :=
  "\n" ++
  "        # Type-check this passed parameter or return value against this\n" ++
  "        # type hint.\n" ++
  "        if not "

/-- Closes the test of a value by raising the violation. -/
def testClosing : String :=
  ":\n" ++
  "            raise __hc_registry.raise_violation(\n" ++
  "                func=__hc_func,\n" ++
  "                pith_name=" ++ nameHole ++ ",\n" ++
  "                pith_value=__hc_pith_root,\x7brandom_int_if_any\x7d\n" ++
  "            )"

/-- Hands the drawn integer to the report of a violation. -/
def passRandom : String :=
  "\n" ++
  "                random_int=__hc_random_int,"

/-- Calls the guarded function before its result is tested. -/
def callBeforeTest : String :=
  "\n\n" ++
  "    # Call this function with all passed parameters and localize the value\n" ++
  "    # returned from this call.\n" ++
  "    __hc_pith_root = __hc_func(*args, **kwargs)\n\n" ++
  "    # Noop required to artificially increase indentation level.\n" ++
  "    if True:"

/-- Returns the tested result. -/
def returnTested : String :=
  "\n" ++
  "    return __hc_pith_root"

/-- Calls the guarded function and returns its result as it is. -/
def returnUntested : String :=
  "\n\n" ++
  "    # Call this function with all passed parameters and return the value\n" ++
  "    # returned from this call.\n" ++
  "    return __hc_func(*args, **kwargs)"

/-- Calls a function that should not return; if it does, that is a violation. -/
def neverReturn : String :=
  "\n\n" ++
  "    # Call this function with all passed parameters. Returning at all\n" ++
  "    # violates its NoReturn hint.\n" ++
  "    __hc_pith_root = __hc_func(*args, **kwargs)\n" ++
  "    raise __hc_registry.raise_violation(\n" ++
  "        func=__hc_func,\n" ++
  "        pith_name='return',\n" ++
  "        pith_value=__hc_pith_root,\n" ++
  "    )"

/-! ### Tests -/

/-- The level at which the test of a value stands. -/
def rootLevel : Nat := 2

/-- The test of the value with the given name, its own names numbered from `offset` on. -/
def test (fragment : Fragment) (offset : Nat) (name : String) : String :=
  let random := if fragment.check.needsRandom then passRandom else ""
  testOpening ++ fragment.render rootName offset ++
    Text.replaceAll nameHole name (fill testClosing [("random_int_if_any", random)])

end CallGuard.Source
