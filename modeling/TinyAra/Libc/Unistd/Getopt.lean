/-
# Libc.Unistd.Getopt -- `getopt`

`getopt(argc, argv, optstring)` keeps its place in `optind` and in the private `g_optptr`, which
points into `argv[optind]`; the model holds `g_optptr` as its place there. A call first runs the
`while` loop to an option character: from the end of an element (or from `NULL`) on to the next
one, which must start with `-`, and past that `-`. It returns `ERROR` (-1) at the end of the list
and at an element that does not start with `-`, and clears `g_binitialized` so that the next call
starts again from `argv[1]`. From the option character it answers as `optstring` says. A string
is the list of its characters, and reading past them reads the terminating NUL (`charAt`).

* `getopt_departs_from_posix`: the `while` loop passes over an element `-` as over an empty one,
  `--` is scanned as the option `-`, and an option argument of its own element is refused when
  it starts with `-`. So `prog -` ends with `optind` 2, past the operand `-`;
  `prog -- x` answers `?` for `-`; and `prog -o -x` with `o:x` reports a missing argument.
-/
import TinyAra.Lib.Loop

namespace TinyAra.Libc.Unistd

set_option autoImplicit false

open Loop

/-- `s[i]` of a C string held as its characters: past them, the NUL. -/
def charAt (s : List Char) (i : Nat) : Char := s.getD i '\x00'

/-- `optarg`, `optind` and `optopt`, and the statics `g_optptr`, as its place in `argv[optind]`,
and `g_binitialized`. -/
structure Getopt where
  optarg : Option (List Char)
  optind : Int
  optopt : Char
  optptr : Option Nat
  initialized : Bool
  deriving DecidableEq, Repr

/-- The values before the first call. -/
def Getopt.start : Getopt := ⟨none, 1, '?', none, false⟩

/-- `argv[optind]` as `g_optptr` reads it. -/
def element (argv : List (List Char)) (optind : Int) : List Char := (argv[optind.toNat]?).getD []

/-- The start of `argv[optind]` in the `while` loop: `ERROR` at the end of the list, at a `NULL`
element or at one that does not start with `-`; otherwise `g_optptr` past the `-`. -/
def advance (argc : Int) (argv : List (List Char)) (s : Getopt) : ((Int × Getopt) ⊕ (Getopt × Nat)) ⊕ Getopt :=
  if s.optind ≥ argc then .inl (.inl (-1, { s with initialized := false }))
  else match argv[s.optind.toNat]? with
    | none => .inl (.inl (-1, { s with optptr := none, initialized := false }))
    | some a =>
      if charAt a 0 ≠ '-' then .inl (.inl (-1, { s with optptr := some 0, initialized := false }))
      else .inr { s with optptr := some 1 }

/-- One round of `while (!g_optptr || !*g_optptr)`: at an option character the loop is left with
the state and the place; from the end of an element `optind++` and on to the next. -/
def nextRound (argc : Int) (argv : List (List Char)) (s : Getopt) : ((Int × Getopt) ⊕ (Getopt × Nat)) ⊕ Getopt :=
  match s.optptr with
  | none => advance argc argv s
  | some pos =>
    if charAt (element argv s.optind) pos ≠ '\x00' then .inl (.inr (s, pos))
    else advance argc argv { s with optind := s.optind + 1 }

/-- The rounds the model gives the `while` loop: one for each element it can pass, and two more. -/
def nextRounds (argc : Int) : Nat := argc.toNat + 2

/-- The answer to a missing argument: `:` when `optstring` starts with `:`, `?` otherwise. -/
def noargRet (optstring : List Char) : Char := if charAt optstring 0 = ':' then ':' else '?'

/-- The option characters of `optstring`, past a leading `:`. -/
def options (optstring : List Char) : List Char :=
  if charAt optstring 0 = ':' then optstring.drop 1 else optstring

/-- What `getopt` does from the option character at place `pos` of `argv[optind]`. -/
def scanOption (argv : List (List Char)) (optstring : List Char) (noarg : Char) (s : Getopt)
    (pos : Nat) : Int × Getopt :=
  let elem := element argv s.optind
  let c := charAt elem pos
  let missing : Int × Getopt :=
    (noarg.toNat, { s with optptr := none, optarg := none, optopt := c, optind := s.optind + 1 })
  if c = '\x00' then ('?'.toNat, { s with optopt := '\x00' })
  else if c = ':' then ('?'.toNat, { s with optopt := ':', optptr := some (pos + 1) })
  else
    -- `strchr(optstring, *g_optptr)`
    match optstring.idxOf? c with
    | none => ('?'.toNat, { s with optopt := c, optptr := some (pos + 1) })
    | some i =>
      if charAt optstring (i + 1) ≠ ':' then (c.toNat, { s with optptr := some (pos + 1) })
      else if charAt elem (pos + 1) ≠ '\x00' then
        (c.toNat, { s with optarg := some (elem.drop (pos + 1)), optind := s.optind + 1, optptr := none })
      else
        match argv[(s.optind + 1).toNat]? with
        | some next =>
          if charAt next 0 ≠ '-' then
            (c.toNat, { s with optarg := some next, optind := s.optind + 2, optptr := none })
          else missing
        | none => missing

/-- `getopt(argc, argv, optstring)`. -/
def getopt (argc : Int) (argv : List (List Char)) (optstring : List Char) (s : Getopt) :
    Option (Int × Getopt) :=
  if argc > 1 then
    -- `optind < 1 || !g_binitialized` starts the scan again at `argv[1]`
    let s := if s.optind < 1 ∨ s.initialized = false then
      { s with optind := 1, optptr := none, initialized := true } else s
    match loop (nextRound argc argv) (nextRounds argc) s with
    | none => none
    | some (.inl answer) => some answer
    | some (.inr (s, pos)) => some (scanOption argv (options optstring) (noargRet optstring) s pos)
  else some (-1, { s with initialized := false, optind := 1, optopt := '?' })

/-- What a caller sees of one call: the value it returns, and `optarg` and `optopt` after it. -/
structure Answer where
  ret : Int
  optarg : Option (List Char)
  optopt : Char
  deriving DecidableEq, Repr

/-- `while ((ret = getopt(argc, argv, optstring)) != -1)`, at most `fuel` calls: the answers of the
calls before the `-1`, and the state after it. -/
def getoptRun (argc : Int) (argv : List (List Char)) (optstring : List Char) :
    Nat → Getopt → Option (List Answer × Getopt)
  | 0, _ => none
  | fuel + 1, s => do
    let (ret, s) ← getopt argc argv optstring s
    if ret = -1 then pure ([], s)
    else
      let (answers, last) ← getoptRun argc argv optstring fuel s
      pure (⟨ret, s.optarg, s.optopt⟩ :: answers, last)

/-! ## Whole runs -/

section Run

variable {argc : Int} {argv : List (List Char)} {optstring : List Char}

/-- `prog -` passes over the operand `-` and ends with `optind` past it; `prog -- x` answers `?` for
the second `-` of `--`; and `prog -o -x` with `o:x` reports the argument of `-o` missing and then
answers `x`. -/
theorem getopt_departs_from_posix :
    (getoptRun 2 [['p'], ['-']] ['a'] 3 Getopt.start).map (fun run => run.2.optind) = some 2 ∧
      (getoptRun 3 [['p'], ['-', '-'], ['x']] ['a'] 3 Getopt.start).map (fun run => run.1) =
        some [⟨'?'.toNat, none, '-'⟩] ∧
      (getoptRun 3 [['p'], ['-', 'o'], ['-', 'x']] ['o', ':', 'x'] 3 Getopt.start).map (fun run => run.1) =
        some [⟨'?'.toNat, none, 'o'⟩, ⟨'x'.toNat, none, 'o'⟩] := by
  decide

end Run

end TinyAra.Libc.Unistd
