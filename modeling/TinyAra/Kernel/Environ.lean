/-
# Kernel.Environ -- the environment of a task group

A group keeps its variables in one allocation, `tg_envp`, of `tg_envsize` bytes: the strings
`name=value`, each ending in NUL, one after the other.  `env_findvar` walks them with
`env_cmpname`; `env_removevar` moves the strings after one down over it; `setenv` removes an
old binding and appends the new one at the end, `unsetenv` removes and shrinks the
allocation, `putenv` splits its string at the first `=` and calls `setenv`.

The heap's answer to each allocation (`kumm_realloc`, `kumm_malloc`, `strdup`) is an input
of the call.  `Group.envp` holds the first `tg_envsize` bytes of the allocation, so
`tg_envsize` is its length.

* `envRun_refines`: a run in which the heap grants every allocation is a run of a finite map
  (`envSpec`), with the same answers;
* `envRun_error_loses_binding`: `setenv` with overwrite removes the old binding before the
  allocation that fails, so a call that returns ERROR can leave the map without its variable.
-/
import Mathlib.Data.List.Basic
import TinyAra.Lib.Machine

namespace TinyAra.Kernel.Environ

set_option autoImplicit false

def enoent : Nat := 2
def enomem : Nat := 12
def einval : Nat := 22

def nul : UInt8 := 0
def equals : UInt8 := 61

/-- The task group's environment: `tg_envp` NULL, or its first `tg_envsize` bytes. -/
structure Group where
  envp : Option (List UInt8)
  deriving DecidableEq, Repr

/-- The bytes `tg_envp[0 .. tg_envsize)`. -/
def Group.env (g : Group) : List UInt8 := g.envp.getD []

def strlen (s : List UInt8) : Nat := (s.takeWhile (· ≠ nul)).length

/-- `env_cmpname(pszname, peqname)`: walk while the bytes agree; a match ends the name at its
NUL and the variable at `=`. Past the end of either list (a name that agrees through its
NUL, or the end of the allocation) there is nothing the C code could read. -/
def envCmpname : List UInt8 → List UInt8 → Bool
  | a :: pszname, b :: peqname => if a = b then envCmpname pszname peqname else a = nul && b = equals
  | _, _ => false

/-- The loop of `env_findvar`, from offset `ptr`; it moves past one string per step. -/
def envFindvarFrom (pname env : List UInt8) : Nat → Nat → Option Nat
  | 0, _ => none
  | fuel + 1, ptr =>
    if ptr < env.length then
      if envCmpname (pname ++ [nul]) (env.drop ptr) then some ptr
      else envFindvarFrom pname env fuel (ptr + strlen (env.drop ptr) + 1)
    else none

/-- `env_findvar(group, pname)`: the offset of the `name=value` string of `pname`. -/
def envFindvar (g : Group) (pname : List UInt8) : Option Nat :=
  envFindvarFrom pname g.env (g.env.length + 1) 0

/-- `env_removevar(group, pvar)`: the bytes after the string at `pvar` moved down over it, and
`tg_envsize` less its length; ERROR for an offset outside the environment. -/
def envRemovevar (env : List UInt8) (pvar : Nat) : Option (List UInt8) :=
  if pvar < env.length then
    some (env.take pvar ++ env.drop (pvar + (strlen (env.drop pvar) + 1)))
  else none

/-- What a call returns: OK, ERROR with `errno`, or the value `getenv` points at (NULL with
`errno`). -/
inductive EnvAnswer
  | ok
  | error (errno : Nat)
  | found (value : List UInt8)
  | notFound (errno : Nat)
  deriving DecidableEq, Repr

/-- `unsetenv(name)`; `grant` is the heap's answer to `kumm_realloc`, which frees the
allocation and gives NULL for a zero size (`mm_realloc`). -/
def unsetenv (name : List UInt8) (grant : Bool) (g : Group) : Group × EnvAnswer :=
  match envFindvar g name with
  | none => (g, .ok)
  | some pvar =>
    let env := (envRemovevar g.env pvar).getD g.env
    if env.length = 0 then (⟨none⟩, .ok)
    -- on a refusal `tg_envp` keeps the old allocation, already moved down
    else if grant then (⟨some env⟩, .ok)
    else (⟨some env⟩, .error enomem)

/-- `setenv(name, value, overwrite)`; `grant` is the heap's answer to `kumm_realloc` or
`kumm_malloc`. A NULL or empty value is `unsetenv` when overwrite is set, nothing else. -/
def setenv (name value : Option (List UInt8)) (overwrite : Bool) (grant : Bool) (g : Group) :
    Group × EnvAnswer :=
  match name with
  | none => (g, .error einval)
  | some name =>
    let value := value.getD []
    if value = [] then
      if overwrite then unsetenv name grant g else (g, .ok)
    else
      -- the allocation grows by `strlen(name) + strlen(value) + 2` and `sprintf` writes
      -- `name=value` at its old end
      let add (g : Group) : Group × EnvAnswer :=
        if grant then (⟨some (g.env ++ (name ++ equals :: value ++ [nul]))⟩, .ok)
        else (g, .error enomem)
      match g.envp.bind fun _ => envFindvar g name with
      | some pvar =>
        if overwrite then add ⟨some ((envRemovevar g.env pvar).getD g.env)⟩ else (g, .ok)
      | none => add g

/-- `putenv(string)`: `strdup` may fail; a string without `=` is accepted and does nothing. -/
def putenv (string : Option (List UInt8)) (dup grant : Bool) (g : Group) : Group × EnvAnswer :=
  match string with
  | none => (g, .error einval)
  | some string =>
    if !dup then (g, .error enomem)
    else if equals ∈ string then
      setenv (some (string.takeWhile (· ≠ equals))) (some ((string.dropWhile (· ≠ equals)).drop 1))
        true grant g
    else (g, .ok)

/-- `getenv(name)`: the string after the `=` of the variable's `name=value`. -/
def getenv (name : Option (List UInt8)) (g : Group) : EnvAnswer :=
  match name with
  | none => .notFound einval
  | some name =>
    match envFindvar g name with
    | none => .notFound enoent
    | some pvar =>
      let var := (g.env.drop pvar).takeWhile (· ≠ nul)
      if equals ∈ var then .found ((var.dropWhile (· ≠ equals)).drop 1) else .notFound einval

/-- The calls on a group's environment. -/
inductive EnvCall
  | setenv (name value : Option (List UInt8)) (overwrite : Bool)
  | unsetenv (name : List UInt8)
  | putenv (string : Option (List UInt8))
  | getenv (name : Option (List UInt8))
  deriving DecidableEq, Repr

/-- The heap's answers to one call: to `strdup`, and to the environment's allocation. -/
structure Heap where
  dup : Bool
  grant : Bool
  deriving DecidableEq, Repr

def envStep (g : Group) : EnvCall × Heap → Option (Group × EnvAnswer)
  | (.setenv name value overwrite, heap) => some (setenv name value overwrite heap.grant g)
  | (.unsetenv name, heap) => some (unsetenv name heap.grant g)
  | (.putenv string, heap) => some (putenv string heap.dup heap.grant g)
  | (.getenv name, _) => some (g, getenv name g)

def Group.empty : Group := ⟨none⟩

def envRun : List (EnvCall × Heap) → Option (Group × List EnvAnswer) :=
  Machine.runOut envStep Group.empty

/-! ## The buffer as a list of variables -/

/-- A variable as the buffer holds it. -/
structure Entry where
  name : List UInt8
  value : List UInt8
  deriving DecidableEq, Repr

/-- The C string `name=value`. -/
def Entry.string (e : Entry) : List UInt8 := e.name ++ equals :: e.value

def Entry.encode (e : Entry) : List UInt8 := e.string ++ [nul]

def encode (entries : List Entry) : List UInt8 := entries.flatMap Entry.encode

/-- The names the calls are given: non-empty C strings without `=`. -/
def ValidName (name : List UInt8) : Prop := name ≠ [] ∧ nul ∉ name ∧ equals ∉ name

def Entry.Valid (e : Entry) : Prop := ValidName e.name ∧ nul ∉ e.value

/-- The buffer holds the variables `entries`, in order, with distinct names. -/
structure Layout (g : Group) (entries : List Entry) : Prop where
  bytes : g.env = encode entries
  valid : ∀ e ∈ entries, e.Valid
  distinct : (entries.map Entry.name).Nodup

@[simp] theorem encode_nil : encode [] = [] := rfl

@[simp] theorem encode_cons (e : Entry) (entries : List Entry) :
    encode (e :: entries) = e.encode ++ encode entries := rfl

@[simp] theorem encode_append (l₁ l₂ : List Entry) : encode (l₁ ++ l₂) = encode l₁ ++ encode l₂ := by
  simp [encode]

theorem length_encode_lt (pre post : List Entry) (e : Entry) :
    (encode pre).length < (encode (pre ++ e :: post)).length := by
  simp only [encode_append, encode_cons, Entry.encode, List.length_append, List.length_singleton]
  omega

theorem equals_ne_nul : equals ≠ nul := by decide

theorem envCmpname_name {n m : List UInt8} (t : List UInt8) (nulN : nul ∉ n) (eqN : equals ∉ n)
    (nulM : nul ∉ m) (eqM : equals ∉ m) :
    envCmpname (n ++ [nul]) (m ++ equals :: t) = decide (n = m) := by
  induction n generalizing m with
  | nil =>
    cases m with
    | nil => simp [envCmpname, equals_ne_nul.symm]
    | cons b m =>
      have : nul ≠ b := fun h => nulM (h ▸ List.mem_cons_self)
      have eqB : b ≠ equals := fun h => eqM (h ▸ List.mem_cons_self)
      simp [envCmpname, this, eqB]
  | cons a n ih =>
    have nulA : a ≠ nul := fun h => nulN (h ▸ List.mem_cons_self)
    have eqA : a ≠ equals := fun h => eqN (h ▸ List.mem_cons_self)
    cases m with
    | nil => simp [envCmpname, eqA, nulA]
    | cons b m =>
      by_cases same : a = b
      · subst same
        simp only [List.cons_append, envCmpname, if_true, List.cons.injEq, true_and]
        exact ih (fun h => nulN (List.mem_cons_of_mem a h)) (fun h => eqN (List.mem_cons_of_mem a h))
          (fun h => nulM (List.mem_cons_of_mem a h)) (fun h => eqM (List.mem_cons_of_mem a h))
      · simp [envCmpname, same, nulA]

theorem Entry.nul_not_mem_string {e : Entry} (valid : e.Valid) : nul ∉ e.string := by
  obtain ⟨⟨-, nulName, -⟩, nulValue⟩ := valid
  simp [Entry.string, nulName, nulValue, equals_ne_nul.symm]

theorem takeWhile_ne_nul {str : List UInt8} (noNul : nul ∉ str) (rest : List UInt8) :
    (str ++ nul :: rest).takeWhile (· ≠ nul) = str := by
  rw [List.takeWhile_append_of_pos (by simpa using fun x mem (h : x = nul) => noNul (h ▸ mem))]
  simp

theorem strlen_encode {e : Entry} (valid : e.Valid) (rest : List UInt8) :
    strlen (e.encode ++ rest) = e.string.length := by
  rw [strlen, Entry.encode, List.append_assoc, List.singleton_append,
    takeWhile_ne_nul (e.nul_not_mem_string valid)]

/-! ## Finding a variable -/

section Find

variable {pname : List UInt8} (name : ValidName pname)
include name

theorem envCmpname_encode {e : Entry} (valid : e.Valid) (rest : List UInt8) :
    envCmpname (pname ++ [nul]) (e.encode ++ rest) = decide (pname = e.name) := by
  obtain ⟨⟨-, nulName, eqName⟩, -⟩ := valid
  have := envCmpname_name (e.value ++ [nul] ++ rest) name.2.1 name.2.2 nulName eqName
  simpa [Entry.encode, Entry.string] using this

theorem envFindvarFrom_skip {pre post : List Entry} {e : Entry} (valid : e.Valid)
    (other : e.name ≠ pname) (fuel : Nat) :
    envFindvarFrom pname (encode (pre ++ e :: post)) (fuel + 1) (encode pre).length =
      envFindvarFrom pname (encode (pre ++ e :: post)) fuel (encode (pre ++ [e])).length := by
  have here : (encode (pre ++ e :: post)).drop (encode pre).length = e.encode ++ encode post := by
    simp
  have inside : (encode pre).length < (encode (pre ++ e :: post)).length :=
    length_encode_lt pre post e
  rw [envFindvarFrom, if_pos inside, here, envCmpname_encode name valid, strlen_encode valid]
  simp [Ne.symm other, Entry.encode, Nat.add_assoc]

theorem envFindvarFrom_found (pre : List Entry) {mid post : List Entry} {e : Entry}
    (valid : ∀ x ∈ mid, x.Valid) (others : ∀ x ∈ mid, x.name ≠ pname) (validE : e.Valid)
    (named : e.name = pname) {fuel : Nat} (enough : mid.length < fuel) :
    envFindvarFrom pname (encode (pre ++ mid ++ e :: post)) fuel (encode pre).length =
      some (encode (pre ++ mid)).length := by
  induction mid generalizing pre fuel with
  | nil =>
    obtain ⟨fuel, rfl⟩ : ∃ f, fuel = f + 1 := ⟨fuel - 1, by simp at enough; omega⟩
    have inside : (encode pre).length < (encode (pre ++ [] ++ e :: post)).length := by
      rw [List.append_nil]
      exact length_encode_lt pre post e
    have here : (encode (pre ++ [] ++ e :: post)).drop (encode pre).length =
        e.encode ++ encode post := by
      simp
    rw [envFindvarFrom, if_pos inside, here, envCmpname_encode name validE, named]
    simp
  | cons x mid ih =>
    obtain ⟨fuel, rfl⟩ : ∃ f, fuel = f + 1 := ⟨fuel - 1, by simp at enough; omega⟩
    have step : envFindvarFrom pname (encode (pre ++ x :: (mid ++ e :: post))) (fuel + 1)
        (encode pre).length =
          envFindvarFrom pname (encode (pre ++ x :: (mid ++ e :: post))) fuel
            (encode (pre ++ [x])).length :=
      envFindvarFrom_skip name (valid x List.mem_cons_self) (others x List.mem_cons_self) fuel
    simp only [List.append_assoc, List.cons_append] at step ⊢
    rw [step]
    have := ih (pre ++ [x]) (fun y mem => valid y (List.mem_cons_of_mem x mem))
      (fun y mem => others y (List.mem_cons_of_mem x mem))
      (show mid.length < fuel by simp at enough; omega)
    simpa using this

theorem envFindvarFrom_absent (pre : List Entry) {post : List Entry} (valid : ∀ x ∈ post, x.Valid)
    (others : ∀ x ∈ post, x.name ≠ pname) {fuel : Nat} (enough : post.length < fuel) :
    envFindvarFrom pname (encode (pre ++ post)) fuel (encode pre).length = none := by
  induction post generalizing pre fuel with
  | nil =>
    obtain ⟨fuel, rfl⟩ : ∃ f, fuel = f + 1 := ⟨fuel - 1, by simp at enough; omega⟩
    simp [envFindvarFrom]
  | cons x post ih =>
    obtain ⟨fuel, rfl⟩ : ∃ f, fuel = f + 1 := ⟨fuel - 1, by simp at enough; omega⟩
    rw [envFindvarFrom_skip name (valid x List.mem_cons_self) (others x List.mem_cons_self)]
    have := ih (pre ++ [x]) (fun y mem => valid y (List.mem_cons_of_mem x mem))
      (fun y mem => others y (List.mem_cons_of_mem x mem))
      (show post.length < fuel by simp at enough; omega)
    simpa using this

end Find

theorem length_le_length_encode (entries : List Entry) : entries.length ≤ (encode entries).length := by
  induction entries with
  | nil => simp
  | cons e entries ih => simp [Entry.encode]; omega

theorem envFindvar_of_mem {g : Group} {pre post : List Entry} {e : Entry}
    (layout : Layout g (pre ++ e :: post)) : envFindvar g e.name = some (encode pre).length := by
  have validE := layout.valid e (by simp)
  have others : ∀ x ∈ pre, x.name ≠ e.name := by
    have := layout.distinct
    simp only [List.map_append, List.map_cons, List.nodup_append, List.nodup_cons] at this
    intro x mem same
    exact this.2.2 x.name (List.mem_map_of_mem mem) e.name List.mem_cons_self same
  have enough : pre.length < g.env.length + 1 := by
    have := length_le_length_encode (pre ++ e :: post)
    rw [layout.bytes]
    simp at this ⊢
    omega
  have found : envFindvarFrom e.name (encode ([] ++ pre ++ e :: post)) (g.env.length + 1)
      (encode []).length = some (encode ([] ++ pre)).length :=
    envFindvarFrom_found validE.1 [] (fun x mem => layout.valid x (by simp [mem])) others validE rfl
      enough
  simpa [envFindvar, layout.bytes] using found

theorem envFindvar_of_not_mem {g : Group} {entries : List Entry} {pname : List UInt8}
    (layout : Layout g entries) (name : ValidName pname) (absent : pname ∉ entries.map Entry.name) :
    envFindvar g pname = none := by
  have enough : entries.length < g.env.length + 1 := by
    have := length_le_length_encode entries
    rw [layout.bytes]
    omega
  have := envFindvarFrom_absent name [] layout.valid
    (fun x mem same => absent (same ▸ List.mem_map_of_mem mem)) enough
  simpa [envFindvar, layout.bytes] using this

/-! ## Removing a variable -/

def eraseName (entries : List Entry) (n : List UInt8) : List Entry :=
  entries.filter fun e => e.name ≠ n

theorem eraseName_sublist (entries : List Entry) (n : List UInt8) :
    (eraseName entries n).Sublist entries :=
  List.filter_sublist

theorem eraseName_of_not_mem {entries : List Entry} {n : List UInt8}
    (absent : n ∉ entries.map Entry.name) : eraseName entries n = entries := by
  rw [eraseName, List.filter_eq_self]
  intro e mem
  have other : e.name ≠ n := fun same => absent (same ▸ List.mem_map_of_mem mem)
  simpa using other

theorem eraseName_split {pre post : List Entry} {e : Entry}
    (distinct : ((pre ++ e :: post).map Entry.name).Nodup) :
    eraseName (pre ++ e :: post) e.name = pre ++ post := by
  simp only [List.map_append, List.map_cons, List.nodup_append, List.nodup_cons] at distinct
  obtain ⟨-, ⟨notPost, -⟩, apart⟩ := distinct
  have inPre : ∀ x ∈ pre, x.name ≠ e.name := fun x mem =>
    apart x.name (List.mem_map_of_mem mem) e.name List.mem_cons_self
  have inPost : ∀ x ∈ post, x.name ≠ e.name := fun x mem same =>
    notPost (same ▸ List.mem_map_of_mem mem)
  rw [eraseName, List.filter_append, List.filter_eq_self.mpr (fun x mem => by simpa using inPre x mem),
    List.filter_cons_of_neg (by simp),
    List.filter_eq_self.mpr (fun x mem => by simpa using inPost x mem)]

theorem Layout.ofEntries {entries : List Entry} (valid : ∀ e ∈ entries, e.Valid)
    (distinct : (entries.map Entry.name).Nodup) : Layout ⟨some (encode entries)⟩ entries :=
  ⟨rfl, valid, distinct⟩

theorem Layout.erase {g : Group} {entries : List Entry} (layout : Layout g entries)
    (n : List UInt8) : Layout ⟨some (encode (eraseName entries n))⟩ (eraseName entries n) :=
  Layout.ofEntries (fun e mem => layout.valid e ((eraseName_sublist entries n).subset mem))
    (layout.distinct.sublist ((eraseName_sublist entries n).map Entry.name))

theorem envRemovevar_envFindvar {g : Group} {entries : List Entry} {n : List UInt8}
    (layout : Layout g entries) (bound : n ∈ entries.map Entry.name) :
    ∃ pvar, envFindvar g n = some pvar ∧
      envRemovevar g.env pvar = some (encode (eraseName entries n)) := by
  obtain ⟨e, mem, rfl⟩ := List.mem_map.mp bound
  obtain ⟨pre, post, rfl⟩ := List.append_of_mem mem
  refine ⟨_, envFindvar_of_mem layout, ?_⟩
  have inside : (encode pre).length < (encode (pre ++ e :: post)).length :=
    length_encode_lt pre post e
  have here : (encode (pre ++ e :: post)).drop (encode pre).length = e.encode ++ encode post := by
    simp
  rw [envRemovevar, layout.bytes, if_pos inside, here, strlen_encode (layout.valid e (by simp)),
    eraseName_split layout.distinct]
  simp [Entry.encode]

/-! ## The map the buffer stands for -/

abbrev EnvMap := List UInt8 → Option (List UInt8)

def lookup : List Entry → EnvMap
  | [], _ => none
  | e :: entries, n => if e.name = n then some e.value else lookup entries n

theorem lookup_isSome {entries : List Entry} {n : List UInt8} :
    (lookup entries n).isSome ↔ n ∈ entries.map Entry.name := by
  induction entries with
  | nil => simp [lookup]
  | cons e entries ih =>
    by_cases same : e.name = n
    · simp [lookup, same]
    · simp only [lookup, same, if_false, ih, List.map_cons, List.mem_cons]
      exact ⟨Or.inr, fun h => h.resolve_left fun h' => same h'.symm⟩

theorem lookup_eraseName_apply (entries : List Entry) (n m : List UInt8) :
    lookup (eraseName entries n) m = if m = n then none else lookup entries m := by
  induction entries with
  | nil => simp [eraseName, lookup]
  | cons e entries ih =>
    simp only [eraseName, ne_eq, decide_not] at ih ⊢
    by_cases named : e.name = n
    · -- the variable of the name is left out
      rw [List.filter_cons_of_neg (by simpa using named), ih]
      by_cases same : m = n
      · simp [same]
      · have : e.name ≠ m := named ▸ Ne.symm same
        simp [same, lookup, this]
    · rw [List.filter_cons_of_pos (by simpa using named)]
      by_cases same : m = n
      · subst same
        simp [lookup, named, ih]
      · simp [lookup, ih, same]

theorem lookup_eraseName (entries : List Entry) (n : List UInt8) :
    lookup (eraseName entries n) = Function.update (lookup entries) n none := by
  funext m
  rw [lookup_eraseName_apply, Function.update_apply]

theorem lookup_append_new {entries : List Entry} {n : List UInt8} (v : List UInt8)
    (absent : n ∉ entries.map Entry.name) :
    lookup (entries ++ [⟨n, v⟩]) = Function.update (lookup entries) n (some v) := by
  funext m
  rw [Function.update_apply]
  induction entries with
  | nil =>
    by_cases same : m = n
    · simp [lookup, same]
    · simp [lookup, same, Ne.symm same]
  | cons e entries ih =>
    simp only [List.map_cons, List.mem_cons, not_or] at absent
    by_cases named : e.name = m
    · subst named
      simp [lookup, Ne.symm absent.1]
    · simp [lookup, named, ih absent.2]

/-- `setenv` on the map: an empty value unsets the name when overwrite is set, and an
existing binding is kept without it. -/
def specSetenv (m : EnvMap) (name value : List UInt8) (overwrite : Bool) : EnvMap :=
  if value = [] then (if overwrite then Function.update m name none else m)
  else if (m name).isSome ∧ overwrite = false then m
  else Function.update m name (some value)

/-- What the variables of a group are for: a finite map, and each call's answer when the heap
grants what it asks. -/
def envSpec (m : EnvMap) : EnvCall → Option (EnvMap × EnvAnswer)
  | .setenv none _ _ => some (m, .error einval)
  | .setenv (some name) value overwrite => some (specSetenv m name (value.getD []) overwrite, .ok)
  | .unsetenv name => some (Function.update m name none, .ok)
  | .putenv none => some (m, .error einval)
  | .putenv (some string) =>
    if equals ∈ string then
      some (specSetenv m (string.takeWhile (· ≠ equals)) ((string.dropWhile (· ≠ equals)).drop 1)
        true, .ok)
    else some (m, .ok)
  | .getenv none => some (m, .notFound einval)
  | .getenv (some name) => some (m, match m name with
    | some value => .found value
    | none => .notFound enoent)

/-- The calls whose names are valid and whose values are C strings. -/
def EnvCall.Allowed : EnvCall → Prop
  | .setenv name value _ => (∀ n, name = some n → ValidName n) ∧ ∀ v, value = some v → nul ∉ v
  | .unsetenv name => ValidName name
  | .putenv string => ∀ s, string = some s → nul ∉ s ∧ (equals ∈ s → ValidName (s.takeWhile (· ≠ equals)))
  | .getenv name => ∀ n, name = some n → ValidName n

/-- The group's buffer is the layout of variables that stand for the map. -/
def Represents (g : Group) (m : EnvMap) : Prop :=
  ∃ entries, Layout g entries ∧ lookup entries = m

/-! ## The calls on the variables -/

theorem Entry.encode_mk (n v : List UInt8) : Entry.encode ⟨n, v⟩ = n ++ equals :: v ++ [nul] := by
  simp [Entry.encode, Entry.string]

theorem Layout.append {g : Group} {entries : List Entry} (layout : Layout g entries) {e : Entry}
    (valid : e.Valid) (absent : e.name ∉ entries.map Entry.name) :
    Layout ⟨some (g.env ++ e.encode)⟩ (entries ++ [e]) := by
  refine ⟨by simp [Group.env, ← layout.bytes], ?_, ?_⟩
  · intro x mem
    rcases List.mem_append.mp mem with mem | mem
    · exact layout.valid x mem
    · rw [List.mem_singleton.mp mem]; exact valid
  · simpa [List.nodup_append, layout.distinct] using absent

theorem envFindvar_guarded (g : Group) (n : List UInt8) :
    (g.envp.bind fun _ => envFindvar g n) = envFindvar g n := by
  cases h : g.envp with
  | none => simp [envFindvar, Group.env, h, envFindvarFrom]
  | some _ => rfl

/-- `unsetenv` removes the variable whatever the heap answers; it answers ENOMEM only when the
heap refuses to shrink an allocation that still holds variables. -/
theorem unsetenv_layout {g : Group} {entries : List Entry} {n : List UInt8}
    (layout : Layout g entries) (name : ValidName n) (grant : Bool) :
    Layout (unsetenv n grant g).1 (eraseName entries n) ∧
      ((unsetenv n grant g).2 = .ok ∨
        (grant = false ∧ n ∈ entries.map Entry.name ∧ (unsetenv n grant g).2 = .error enomem)) := by
  by_cases bound : n ∈ entries.map Entry.name
  · obtain ⟨pvar, found, removed⟩ := envRemovevar_envFindvar layout bound
    have erased := layout.erase n
    unfold unsetenv
    simp only [found, removed, Option.getD_some]
    split
    · next empty =>
      -- `kumm_realloc` of a zero size frees the allocation and gives NULL
      refine ⟨⟨?_, erased.valid, erased.distinct⟩, Or.inl rfl⟩
      simp [Group.env, List.length_eq_zero_iff.mp empty]
    · cases grant
      · exact ⟨erased, Or.inr ⟨rfl, bound, rfl⟩⟩
      · exact ⟨erased, Or.inl rfl⟩
  · rw [unsetenv, envFindvar_of_not_mem layout name bound, eraseName_of_not_mem bound]
    exact ⟨layout, Or.inl rfl⟩

/-- `setenv` of a non-empty value where it writes it: the other variables, and the new one
when the heap grants the larger allocation. -/
theorem setenv_add {g : Group} {entries : List Entry} {n v : List UInt8}
    (layout : Layout g entries) (name : ValidName n) (value : nul ∉ v) (nonempty : v ≠ [])
    {overwrite : Bool} (grant : Bool) (writes : n ∈ entries.map Entry.name → overwrite = true) :
    Layout (setenv (some n) (some v) overwrite grant g).1
        (eraseName entries n ++ if grant then [⟨n, v⟩] else []) ∧
      (setenv (some n) (some v) overwrite grant g).2 = if grant then .ok else .error enomem := by
  have valid : Entry.Valid ⟨n, v⟩ := ⟨name, value⟩
  have absent : n ∉ (eraseName entries n).map Entry.name := by
    simp [eraseName]
  unfold setenv
  simp only [Option.getD_some, nonempty, if_false, envFindvar_guarded]
  by_cases bound : n ∈ entries.map Entry.name
  · -- the old binding is removed first, whatever the heap answers next
    obtain ⟨pvar, found, removed⟩ := envRemovevar_envFindvar layout bound
    simp only [found, removed, writes bound, if_true, Option.getD_some]
    cases grant
    · exact ⟨by simpa using layout.erase n, rfl⟩
    · have := (layout.erase n).append valid absent
      simpa [Group.env, Entry.encode_mk] using this
  · simp only [envFindvar_of_not_mem layout name bound]
    rw [eraseName_of_not_mem bound]
    cases grant
    · exact ⟨by simpa using layout, rfl⟩
    · have := layout.append valid (by simpa using bound)
      simpa [Entry.encode_mk] using this

theorem lookup_split {pre post : List Entry} {e : Entry}
    (distinct : ((pre ++ e :: post).map Entry.name).Nodup) :
    lookup (pre ++ e :: post) e.name = some e.value := by
  induction pre with
  | nil => simp [lookup]
  | cons x pre ih =>
    simp only [List.cons_append, List.map_cons, List.nodup_cons, List.mem_map, List.mem_append,
      List.mem_cons] at distinct
    have other : x.name ≠ e.name := fun same => distinct.1 ⟨e, by simp, same.symm⟩
    simp only [List.cons_append, lookup, other, if_false]
    exact ih (by simpa using distinct.2)

theorem getenv_layout {g : Group} {entries : List Entry} {n : List UInt8}
    (layout : Layout g entries) (name : ValidName n) :
    getenv (some n) g = match lookup entries n with
      | some value => .found value
      | none => .notFound enoent := by
  by_cases bound : n ∈ entries.map Entry.name
  · obtain ⟨e, mem, rfl⟩ := List.mem_map.mp bound
    obtain ⟨pre, post, rfl⟩ := List.append_of_mem mem
    have validE := layout.valid e (by simp)
    have var : (e.encode ++ encode post).takeWhile (· ≠ nul) = e.string := by
      rw [Entry.encode, List.append_assoc, List.singleton_append]
      exact takeWhile_ne_nul (e.nul_not_mem_string validE) _
    have hasEquals : equals ∈ e.string := by simp [Entry.string]
    have afterEquals : (e.string.dropWhile (· ≠ equals)).drop 1 = e.value := by
      rw [Entry.string, List.dropWhile_append_of_pos
        (by simpa using fun x mem (h : x = equals) => validE.1.2.2 (h ▸ mem))]
      simp
    simp only [getenv, envFindvar_of_mem layout, layout.bytes, encode_append, encode_cons,
      List.drop_left]
    rw [var, if_pos hasEquals, afterEquals, lookup_split layout.distinct]
  · have none : lookup entries n = none :=
      Option.not_isSome_iff_eq_none.mp fun h => bound (lookup_isSome.mp h)
    simp [getenv, envFindvar_of_not_mem layout name bound, none]

theorem setenv_granted {g : Group} {entries : List Entry} (layout : Layout g entries)
    {n : List UInt8} (name : ValidName n) {value : Option (List UInt8)}
    (cString : ∀ v, value = some v → nul ∉ v) (overwrite : Bool) :
    (setenv (some n) value overwrite true g).2 = .ok ∧
      Represents (setenv (some n) value overwrite true g).1
        (specSetenv (lookup entries) n (value.getD []) overwrite) := by
  by_cases empty : value.getD [] = []
  · -- an empty value: `unsetenv` with overwrite, nothing without
    cases overwrite
    · simp [setenv, specSetenv, empty]
      exact ⟨entries, layout, rfl⟩
    · obtain ⟨erased, answer⟩ := unsetenv_layout layout name true
      have ok : (unsetenv n true g).2 = .ok := by simpa using answer
      simp only [setenv, empty, if_true, specSetenv]
      exact ⟨ok, ⟨_, erased, lookup_eraseName entries n⟩⟩
  · obtain ⟨v, rfl⟩ : ∃ v, value = some v := ⟨value.getD [], by cases value <;> simp_all⟩
    simp only [Option.getD_some] at empty
    have valueOk := cString v rfl
    by_cases kept : n ∈ entries.map Entry.name ∧ overwrite = false
    · -- an existing binding without overwrite stays
      obtain ⟨pvar, found, -⟩ := envRemovevar_envFindvar layout kept.1
      simp only [setenv, Option.getD_some, empty, if_false]
      rw [envFindvar_guarded, found]
      simp only [kept.2, Bool.false_eq_true, if_false, specSetenv, empty, lookup_isSome.mpr kept.1,
        and_self, if_true]
      exact ⟨trivial, entries, layout, rfl⟩
    · have writes : n ∈ entries.map Entry.name → overwrite = true := fun bound => by
        simpa [bound] using kept
      obtain ⟨added, answer⟩ := setenv_add layout name valueOk empty true writes
      refine ⟨by simpa using answer, ⟨_, added, ?_⟩⟩
      have notKept : ¬((lookup entries n).isSome ∧ overwrite = false) := by
        rwa [lookup_isSome]
      simp only [if_true]
      rw [lookup_append_new v (by simp [eraseName]), lookup_eraseName, Function.update_idem]
      simp [specSetenv, empty, notKept]

/-- One call from a buffer that stands for `m`, the heap granting every allocation: the
map's answer, and a buffer that stands for the map's new state. -/
theorem envStep_granted {g : Group} {m : EnvMap} {c : EnvCall} (represents : Represents g m)
    (allowed : c.Allowed) {g' : Group} {answer : EnvAnswer}
    (stepped : envStep g (c, ⟨true, true⟩) = some (g', answer)) :
    ∃ m', envSpec m c = some (m', answer) ∧ Represents g' m' := by
  obtain ⟨entries, layout, rfl⟩ := represents
  cases c with
  | setenv name value overwrite =>
    cases name with
    | none =>
      simp only [envStep, setenv, Option.some.injEq, Prod.mk.injEq] at stepped
      obtain ⟨rfl, rfl⟩ := stepped
      exact ⟨_, rfl, entries, layout, rfl⟩
    | some n =>
      obtain ⟨ok, represents⟩ := setenv_granted layout (allowed.1 n rfl) allowed.2 overwrite
      simp only [envStep, Option.some.injEq, Prod.ext_iff] at stepped
      obtain ⟨rfl, rfl⟩ := stepped
      exact ⟨_, by simp [envSpec, ok], represents⟩
  | unsetenv n =>
    obtain ⟨erased, result⟩ := unsetenv_layout layout allowed true
    simp only [envStep, Option.some.injEq, Prod.ext_iff] at stepped
    obtain ⟨rfl, rfl⟩ := stepped
    have ok : (unsetenv n true g).2 = .ok := by simpa using result
    exact ⟨_, by simp [envSpec, ok], _, erased, lookup_eraseName entries n⟩
  | putenv string =>
    cases string with
    | none =>
      simp only [envStep, putenv, Option.some.injEq, Prod.mk.injEq] at stepped
      obtain ⟨rfl, rfl⟩ := stepped
      exact ⟨_, rfl, entries, layout, rfl⟩
    | some str =>
      simp only [envStep, putenv, Bool.not_true, Bool.false_eq_true, if_false,
        Option.some.injEq, Prod.ext_iff] at stepped
      obtain ⟨noNul, named⟩ := allowed str rfl
      by_cases hasEquals : equals ∈ str
      · -- `putenv` hands the two halves of the string to `setenv`
        have cString : ∀ v, some ((str.dropWhile (· ≠ equals)).drop 1) = some v → nul ∉ v := by
          rintro v ⟨⟩ mem
          exact noNul ((List.drop_sublist _ _).trans (List.dropWhile_sublist _) |>.subset mem)
        obtain ⟨ok, represents⟩ := setenv_granted layout (named hasEquals) cString true
        rw [if_pos hasEquals] at stepped
        obtain ⟨rfl, rfl⟩ := stepped
        exact ⟨_, by simp only [envSpec, if_pos hasEquals, ok, Option.getD_some], represents⟩
      · rw [if_neg hasEquals] at stepped
        obtain ⟨rfl, rfl⟩ := stepped
        exact ⟨_, by simp [envSpec, hasEquals], entries, layout, rfl⟩
  | getenv name =>
    simp only [envStep, Option.some.injEq, Prod.ext_iff] at stepped
    obtain ⟨rfl, rfl⟩ := stepped
    cases name with
    | none => exact ⟨_, rfl, entries, layout, rfl⟩
    | some n =>
      refine ⟨_, ?_, entries, layout, rfl⟩
      rw [getenv_layout layout (allowed n rfl)]
      rfl

/-! ## Runs -/

theorem represents_empty : Represents Group.empty (lookup []) :=
  ⟨[], ⟨rfl, by simp, by simp⟩, rfl⟩

theorem envRun_refines {calls : List EnvCall} (allowed : ∀ c ∈ calls, c.Allowed) {g : Group}
    {answers : List EnvAnswer}
    (ran : envRun (calls.map fun c => (c, ⟨true, true⟩)) = some (g, answers)) :
    ∃ m, Machine.runOut envSpec (lookup []) calls = some (m, answers) ∧ Represents g m := by
  rw [envRun, Machine.runOut_map] at ran
  obtain ⟨m, ranA, represents, -⟩ := Machine.runOut_simulation_allowed Represents (fun _ => True)
    EnvCall.Allowed (fun _ _ _ _ _ _ _ => trivial)
    (fun _ _ _ _ _ allowed _ represents stepped => envStep_granted represents allowed stepped)
    calls Group.empty g answers (lookup []) allowed trivial represents_empty ran
  exact ⟨m, ranA, represents⟩

theorem envRun_refines_set_get :
    ∃ g answers, envRun ([EnvCall.setenv (some [65]) (some [66]) true, .getenv (some [65])].map
        fun c => (c, ⟨true, true⟩)) = some (g, answers) ∧
      ∃ m, Machine.runOut envSpec (lookup []) [.setenv (some [65]) (some [66]) true,
        .getenv (some [65])] = some (m, answers) ∧ Represents g m :=
  ⟨_, _, rfl, envRun_refines (by simp [EnvCall.Allowed, ValidName, nul, equals]) rfl⟩

/-- `setenv("A", "2", 1)` over `A=1` when the heap refuses the larger allocation answers
ERROR (ENOMEM), and `A` is gone: `env_removevar` took it out first. Likewise `unsetenv("B")`
over `A=1 B=2` when the heap refuses to shrink the allocation. -/
theorem envRun_error_loses_binding :
    envRun [(.setenv (some [65]) (some [49]) true, ⟨true, true⟩),
        (.setenv (some [65]) (some [50]) true, ⟨true, false⟩),
        (.getenv (some [65]), ⟨true, true⟩)] =
      some (⟨some []⟩, [.ok, .error enomem, .notFound enoent]) ∧
    envRun [(.setenv (some [65]) (some [49]) true, ⟨true, true⟩),
        (.setenv (some [66]) (some [50]) true, ⟨true, true⟩),
        (.unsetenv [66], ⟨true, false⟩),
        (.getenv (some [66]), ⟨true, true⟩)] =
      some (⟨some [65, 61, 49, 0]⟩, [.ok, .ok, .error enomem, .notFound enoent]) := by
  decide

end TinyAra.Kernel.Environ
