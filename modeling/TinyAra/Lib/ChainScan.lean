/-
# Lib.ChainScan -- fuelled scans along a chain of nodes

A scan looks at a node, stops at the first one a test answers, and otherwise moves to the
node's successor, unless the node is the last of its chain, where it stops with a default
answer. Fuel bounds the nodes it looks at, and `none` is a scan that goes on past them.

* `scan_path`: past nodes the test rejects, a scan is the scan from where they lead;
* `scan_chain`: on a chain that ends, fuel for each of its nodes gives the first answer;
* `scan_cycle`: on a chain that comes back to a node the test rejects throughout, every fuel
  runs out.
-/
import Mathlib.Data.List.Basic

namespace ChainScan

set_option autoImplicit false

variable {α β : Type} (next : α → α) (last : α → Bool) (test : α → Option β) (miss : β)

/-- Look at `fuel` nodes at most from `x`. -/
def scan : Nat → α → Option β
  | 0, _ => none
  | fuel + 1, x =>
    match test x with
    | some r => some r
    | none => if last x then some miss else scan fuel (next x)

/-- `Path x xs y`: from `x`, the nodes `xs`, none of them last, lead to `y`. -/
inductive Path : α → List α → α → Prop
  | nil (x : α) : Path x [] x
  | cons {x y : α} {xs : List α} : last x = false → Path (next x) xs y → Path x (x :: xs) y

variable {next last test miss}

theorem scan_succ_of_rejected {x : α} (rejected : test x = none) (notLast : last x = false)
    (fuel : Nat) : scan next last test miss (fuel + 1) x = scan next last test miss fuel (next x) := by
  simp [scan, rejected, notLast]

theorem scan_path {x y : α} {xs : List α} (path : Path next last x xs y)
    (rejected : ∀ z ∈ xs, test z = none) (fuel : Nat) :
    scan next last test miss (fuel + xs.length) x = scan next last test miss fuel y := by
  induction path with
  | nil => rfl
  | @cons x y xs notLast _ ih =>
    rw [List.length_cons, ← Nat.add_assoc,
      scan_succ_of_rejected (rejected x List.mem_cons_self) notLast]
    exact ih fun z mem => rejected z (List.mem_cons_of_mem x mem)

theorem scan_path_of_le {x y : α} {xs : List α} (path : Path next last x xs y)
    (rejected : ∀ z ∈ xs, test z = none) {fuel : Nat} (within : fuel ≤ xs.length) :
    scan next last test miss fuel x = none := by
  induction path generalizing fuel with
  | nil => rw [Nat.le_zero.mp within]; rfl
  | @cons x y xs notLast _ ih =>
    cases fuel with
    | zero => rfl
    | succ fuel =>
      rw [scan_succ_of_rejected (rejected x List.mem_cons_self) notLast]
      exact ih (fun z mem => rejected z (List.mem_cons_of_mem x mem))
        (by simpa using within)

theorem scan_cycle {x : α} {xs : List α} (path : Path next last x xs x) (nonempty : xs ≠ [])
    (rejected : ∀ z ∈ xs, test z = none) (fuel : Nat) : scan next last test miss fuel x = none := by
  induction fuel using Nat.strongRecOn with
  | ind fuel ih =>
    by_cases within : fuel ≤ xs.length
    · exact scan_path_of_le path rejected within
    · -- a whole round of the cycle costs `xs.length` of the fuel and ends where it began
      obtain ⟨rest, rfl⟩ : ∃ rest, fuel = rest + xs.length := ⟨fuel - xs.length, by omega⟩
      have shorter : rest < rest + xs.length := by
        have := List.length_pos_iff.mpr nonempty
        omega
      rw [scan_path path rejected rest]
      exact ih rest shorter

theorem scan_chain {x y : α} {xs : List α} (path : Path next last x xs y) (stop : last y = true)
    {fuel : Nat} (enough : xs.length < fuel) :
    scan next last test miss fuel x = some (((xs ++ [y]).findSome? test).getD miss) := by
  induction path generalizing fuel with
  | nil x =>
    obtain ⟨fuel, rfl⟩ : ∃ f, fuel = f + 1 := ⟨fuel - 1, by simp at enough; omega⟩
    cases answer : test x <;> simp [scan, answer, stop]
  | @cons x y xs notLast _ ih =>
    obtain ⟨fuel, rfl⟩ : ∃ f, fuel = f + 1 := ⟨fuel - 1, by simp at enough; omega⟩
    cases answer : test x with
    | some r => simp [scan, answer]
    | none =>
      rw [scan_succ_of_rejected answer notLast, ih stop (by simpa using enough)]
      simp [answer]

end ChainScan
