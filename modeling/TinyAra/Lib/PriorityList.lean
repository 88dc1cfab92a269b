/-
# Lib.PriorityList -- a list kept by priority, ties in arrival order

A kernel queue that puts each newcomer behind every element whose priority is
higher or equal keeps its elements by priority, highest first, and those of one
priority in the order they came.  `Arranged key arrivals l` says this of `l`
against `arrivals`, the same elements in the order they came: `l` is sorted by
`key`, highest first, and for every key `l` and `arrivals` list the elements of
that key in the same order.

* `Arranged.orderedInsert`: inserting before the first element of lower key
  arranges the list for one more arrival;
* `Arranged.cons`: the head of an arranged list is `firstMax` of the arrivals,
  the earliest of the highest key, and the tail is arranged for the others;
* `Arranged.perm`: an arranged list holds exactly the arrivals;
* `Arranged.erase`: taking an element out of both keeps them arranged;
* `filter_orderedInsert_of_sorted`: a sublist cut out by a test sees an insertion
  into the sorted list as an insertion of its own;
* `Arranged.merge`: the stable `merge` of two lists kept by key arranges them as if the
  first list's elements came first, and `merge_append_of_le`, `merge_cons_of_le`,
  `merge_cons_of_lt` take it apart where one element goes in.
-/
import TinyAra.Lib.OrderedInsert

namespace PriorityList

set_option autoImplicit false

variable {α β : Type} [LinearOrder β] (key : α → β)

def Above (x y : α) : Prop := key y < key x

instance : DecidableRel (Above key) := fun x y => inferInstanceAs (Decidable (key y < key x))

/-- The earliest element whose key is the highest of the list. -/
def firstMax (l : List α) : Option α := l.find? fun a => l.all fun b => key b ≤ key a

/-- The stable merge of two lists kept by key: of two elements of one key, the one of the
first list goes first. -/
def merge (l₁ l₂ : List α) : List α := l₁.merge l₂ fun a b => decide (key b ≤ key a)

/-- `l` holds `arrivals` by key, highest first, and in arrival order within a key. -/
structure Arranged (arrivals l : List α) : Prop where
  sorted : l.Pairwise fun a b => key b ≤ key a
  ties : ∀ k, l.filter (fun a => key a = k) = arrivals.filter (fun a => key a = k)

variable {key}
variable {l arrivals l₁ ys : List α} {y : α}

theorem Arranged.nil : Arranged key [] [] := ⟨List.Pairwise.nil, fun _ => rfl⟩

/-- The elements of one key after an insertion: those before it, then the newcomer if it
has that key, since every element of its key or more stands in front of it. -/
theorem filter_orderedInsert (x : α) (l : List α) (sorted : l.Pairwise fun a b => key b ≤ key a)
    (k : β) :
    (l.orderedInsert (Above key) x).filter (fun a => key a = k) =
      l.filter (fun a => key a = k) ++ (if key x = k then [x] else []) := by
  induction l with
  | nil => by_cases same : key x = k <;> simp [same]
  | cons y l ih =>
      rw [List.pairwise_cons] at sorted
      by_cases front : Above key x y
      · -- everything from `y` on has a lower key than `x`
        have lower : ∀ b ∈ y :: l, key b < key x := by
          intro b hb
          rcases List.mem_cons.mp hb with rfl | hb
          · exact front
          · exact lt_of_le_of_lt (sorted.1 b hb) front
        rw [List.orderedInsert_cons_of_le _ l front]
        by_cases same : key x = k
        · have none : (y :: l).filter (fun a => key a = k) = [] := by
            rw [List.filter_eq_nil_iff]
            intro b hb
            have := lower b hb
            simp only [decide_eq_true_eq]
            exact fun eq => by rw [eq, same] at this; exact lt_irrefl k this
          rw [List.filter_cons_of_pos (by simpa using same), none, if_pos same]
          rfl
        · rw [List.filter_cons_of_neg (by simpa using same), if_neg same, List.append_nil]
      · rw [List.orderedInsert_of_not_le _ l front]
        by_cases same : key y = k
        · rw [List.filter_cons_of_pos (by simpa using same),
            List.filter_cons_of_pos (by simpa using same), ih sorted.2, List.cons_append]
        · rw [List.filter_cons_of_neg (by simpa using same),
            List.filter_cons_of_neg (by simpa using same), ih sorted.2]

theorem sorted_orderedInsert (x : α) (sorted : l.Pairwise fun a b => key b ≤ key a) :
    (l.orderedInsert (Above key) x).Pairwise fun a b => key b ≤ key a :=
  OrderedInsert.pairwise_orderedInsert (Above key) x l sorted
    (fun _ _ front => le_of_lt front) (fun _ _ behind => not_lt.mp behind)
    (fun _ _ front le => lt_of_le_of_lt le front)

theorem Arranged.orderedInsert (x : α) (h : Arranged key arrivals l) :
    Arranged key (arrivals ++ [x]) (l.orderedInsert (Above key) x) where
  sorted := sorted_orderedInsert x h.sorted
  ties k := by
    rw [filter_orderedInsert x l h.sorted, h.ties k, List.filter_append]
    by_cases same : key x = k <;> simp [same]

theorem filter_orderedInsert_of_sorted (p : α → Bool) (x : α) (l : List α)
    (sorted : l.Pairwise fun a b => key b ≤ key a) :
    (l.orderedInsert (Above key) x).filter p =
      if p x then (l.filter p).orderedInsert (Above key) x else l.filter p :=
  OrderedInsert.filter_orderedInsert (Above key) p x l
    (sorted.imp fun le front => lt_of_le_of_lt le front)

/-! ## Merging -/

theorem merge_append_of_le {l₂ : List α} (skip : ∀ a ∈ l₁, key y ≤ key a) :
    merge key (l₁ ++ l₂) (y :: ys) = l₁ ++ merge key l₂ (y :: ys) := by
  induction l₁ with
  | nil => rfl
  | cons a l₁ ih =>
      have first : decide (key y ≤ key a) = true := decide_eq_true (skip a List.mem_cons_self)
      unfold merge at ih ⊢
      rw [List.cons_append, List.cons_merge_cons_pos _ _ _ first,
        ih fun b hb => skip b (List.mem_cons_of_mem a hb)]
      rfl

theorem merge_cons_of_le (top : ∀ b ∈ ys.head?, key b ≤ key y) :
    merge key (y :: l) ys = y :: merge key l ys := by
  cases ys with
  | nil => simp [merge]
  | cons b ys => exact List.cons_merge_cons_pos _ _ _ (decide_eq_true (top b rfl))

theorem merge_cons_of_lt {x : α} (above : key x < key y) :
    merge key (x :: l) (y :: ys) = y :: merge key (x :: l) ys :=
  List.cons_merge_cons_neg _ _ _ (by simpa using above)

/-- The elements of one key in a merge: those of the first list, then those of the second,
since everything of the first list in front of an element of the second has a key as high. -/
theorem filter_merge (sorted : l₁.Pairwise fun a b => key b ≤ key a)
    (l₂ : List α) (k : β) :
    (merge key l₁ l₂).filter (fun a => key a = k) =
      l₁.filter (fun a => key a = k) ++ l₂.filter (fun a => key a = k) := by
  induction l₁ generalizing l₂ with
  | nil => simp [merge]
  | cons x xs ih =>
      induction l₂ with
      | nil => simp [merge]
      | cons y ys ih₂ =>
          by_cases first : key y ≤ key x
          · rw [merge_cons_of_le (by simpa using first)]
            by_cases same : key x = k
            · rw [List.filter_cons_of_pos (by simpa using same),
                List.filter_cons_of_pos (by simpa using same), ih sorted.tail, List.cons_append]
            · rw [List.filter_cons_of_neg (by simpa using same),
                List.filter_cons_of_neg (by simpa using same), ih sorted.tail]
          · rw [merge_cons_of_lt (not_le.mp first)]
            by_cases same : key y = k
            · -- every element of the first list is below `y`, so none has its key
              have none : (x :: xs).filter (fun a => key a = k) = [] := by
                rw [List.filter_eq_nil_iff]
                intro b hb
                have below : key b < key y := by
                  rcases List.mem_cons.mp hb with rfl | hb
                  · exact not_le.mp first
                  · exact lt_of_le_of_lt (List.rel_of_pairwise_cons sorted hb) (not_le.mp first)
                simpa [← same] using below.ne
              rw [List.filter_cons_of_pos (by simpa using same), ih₂, none,
                List.filter_cons_of_pos (by simpa using same)]
              rfl
            · rw [List.filter_cons_of_neg (by simpa using same), ih₂,
                List.filter_cons_of_neg (a := y) (by simpa using same)]

theorem Arranged.merge {l₂ : List α} (sorted₁ : l₁.Pairwise fun a b => key b ≤ key a)
    (sorted₂ : l₂.Pairwise fun a b => key b ≤ key a) :
    Arranged key (l₁ ++ l₂) (merge key l₁ l₂) where
  sorted := by
    have trans : ∀ a b c : α, decide (key b ≤ key a) = true → decide (key c ≤ key b) = true →
        decide (key c ≤ key a) = true := by
      intro a b c ab bc
      simp only [decide_eq_true_eq] at ab bc ⊢
      exact le_trans bc ab
    have total : ∀ a b : α, (decide (key b ≤ key a) || decide (key a ≤ key b)) = true := by
      intro a b
      simpa using le_total (key b) (key a)
    have := List.pairwise_merge trans total l₁ l₂ (sorted₁.imp decide_eq_true)
      (sorted₂.imp decide_eq_true)
    exact this.imp of_decide_eq_true
  ties k := by rw [filter_merge sorted₁, List.filter_append]

variable [DecidableEq α]

theorem Arranged.erase (h : Arranged key arrivals l) (x : α) :
    Arranged key (arrivals.erase x) (l.erase x) where
  sorted := h.sorted.sublist (List.erase_sublist)
  ties k := by rw [← List.erase_filter, h.ties k, List.erase_filter]

theorem Arranged.perm (h : Arranged key arrivals l) : l.Perm arrivals := by
  rw [List.perm_iff_count]
  intro a
  -- the copies of `a` are among the elements of its key, which the two lists share
  rw [← List.count_filter (p := fun b => key b = key a) (by simp), h.ties (key a),
    List.count_filter (by simp)]

theorem Arranged.cons {arrivals l : List α} {m : α} (h : Arranged key arrivals (m :: l)) :
    firstMax key arrivals = some m ∧ Arranged key (arrivals.erase m) l := by
  have sorted := List.pairwise_cons.mp h.sorted
  have top : ∀ b ∈ arrivals, key b ≤ key m := by
    intro b hb
    rcases List.mem_cons.mp (h.perm.mem_iff.mpr hb) with rfl | hb
    · exact le_rfl
    · exact sorted.1 b hb
  -- `m` is the first arrival of its key
  have first := h.ties (key m)
  rw [List.filter_cons_of_pos (by simp)] at first
  obtain ⟨l₁, l₂, split, earlier, -, later⟩ := List.filter_eq_cons_iff.mp first.symm
  have lower : ∀ b ∈ l₁, key b < key m := fun b hb =>
    lt_of_le_of_ne (top b (by simp [split, hb])) (by simpa using earlier b hb)
  have fresh : m ∉ l₁ := fun hm => lt_irrefl _ (lower m hm)
  have erased : arrivals.erase m = l₁ ++ l₂ := by
    rw [split, List.erase_append_right _ fresh, List.erase_cons_head]
  refine ⟨?_, ⟨sorted.2, fun k => ?_⟩⟩
  · rw [firstMax, List.find?_eq_some_iff_append]
    refine ⟨by simpa using top, l₁, l₂, split, fun b hb => ?_⟩
    simp only [Bool.not_eq_true', List.all_eq_false]
    exact ⟨m, by simp [split], by simpa using lower b hb⟩
  · rw [erased]
    by_cases same : key m = k
    · subst same
      have none : l₁.filter (fun a => key a = key m) = [] :=
        List.filter_eq_nil_iff.mpr fun b hb => earlier b hb
      rw [List.filter_append, none, List.nil_append, later]
    · have := h.ties k
      rw [List.filter_cons_of_neg (by simpa using same), split, List.filter_append,
        List.filter_cons_of_neg (by simpa using same), ← List.filter_append] at this
      exact this

end PriorityList
