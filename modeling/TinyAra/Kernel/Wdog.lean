/-
# Kernel.Wdog -- the watchdog timer list

`g_wdactivelist` holds the active watchdogs in the order they expire. Each
`struct wdog_s` on it stores its `lag`: the ticks between the deadline of the
watchdog before it (or now, for the head) and its own. The operations
(wd_start.c, wd_cancel.c, wd_gettime.c):

* `wd_start` cancels a running watchdog, turns `delay` into `delay + 1` ticks
  (kept at `INT_MAX`), walks the list in two loops ("advance to positive time",
  then "advance past shorter delays") and links the watchdog in, taking its lag
  from the next watchdog;
* `wd_cancel` unlinks the watchdog and hands its lag to its successor;
* `wd_timer` lowers the head's lag by one, and `wd_expiration` then unlinks
  every head whose lag is no longer positive, folding its lag into the next one
  and calling its function, which may itself start or cancel watchdogs;
* `wd_gettime` sums the lags up to the watchdog.

The queued `wdog_s` nodes are the list `activelist`, each with its `lag`; the
lag of a watchdog that is not queued is never read, so it is not kept. The
timer interrupt is split into its steps (`Event`): the decrement, each pass of
the expiration loop, and the loop's exit; the callbacks are the `start` and
`cancel` events that follow a pass.

This is the tick build (`CONFIG_SCHED_TICKLESS` unset), where
`sched_timer_reassess` is an empty macro and `wd_start` touches no timer;
`Kernel.WdogTickless` takes the tickless build. `wdRun_refines` shows every run to
implement `Timers`, a set of deadlines on the tick clock, and
`wdRun_implements_timers` reads off what that shows of the list.
-/
import TinyAra.Lib.DeltaList
import TinyAra.Lib.OrderedInsert
import TinyAra.Lib.Machine
import Mathlib.Data.List.Sort

namespace TinyAra.Kernel.Wdog

set_option autoImplicit false

/-- `INT_MAX` for the 32-bit `int` that `delay` and `lag` are. -/
def intMax : Int := 2147483647

/-- The state the timer list code reads and writes. -/
structure WdState (W : Type) where
  /-- `WDOG_ISACTIVE` of every watchdog. -/
  active : W → Bool
  /-- `g_wdactivelist` from head to tail, each node with its `lag`. -/
  activelist : List (W × Int)

/-- A step of the watchdog code: an API call, or one step of the timer interrupt. -/
inductive Event (W : Type) where
  /-- `wd_start(wdog, delay, ...)`, from a task or from a watchdog's function. -/
  | start (wdog : W) (delay : Int)
  /-- `wd_cancel(wdog)`. -/
  | cancel (wdog : W)
  /-- `wd_timer()`: the head's lag loses one tick. -/
  | tick
  /-- A pass of the `wd_expiration` loop unlinks `wdog` and calls its function. -/
  | expire (wdog : W)
  /-- The `wd_expiration` loop ends: the list is empty or its head has a positive lag. -/
  | settle

variable {W : Type}

/-! ## wd_start -/

/-- `delay + 1` ticks, or one tick for `delay <= 0`; at `INT_MAX` the increment wraps to a
negative value and the code decrements it back. -/
def wdStartTicks (delay : Int) : Int :=
  if delay ≤ 0 then 1 else if delay + 1 > intMax then delay else delay + 1

/-- "Advance to positive time": `while ((now += curr->lag) < 0 && curr->next)`. The list
is split around `curr`, with the nodes before it reversed (`prev` is the first of them). -/
def advancePositive (now : Int) (pre : List (W × Int)) (curr : W × Int) :
    List (W × Int) → Int × List (W × Int) × (W × Int) × List (W × Int)
  | [] => (now + curr.2, pre, curr, [])
  | next :: post =>
      if now + curr.2 < 0 then advancePositive (now + curr.2) (curr :: pre) next post
      else (now + curr.2, pre, curr, next :: post)

/-- "Advance past shorter delays": `while (now <= delay && curr->next)`, adding the lag
of each node it moves to. -/
def advancePast (delay now : Int) (pre : List (W × Int)) (curr : W × Int) :
    List (W × Int) → Int × List (W × Int) × (W × Int) × List (W × Int)
  | [] => (now, pre, curr, [])
  | next :: post =>
      if now ≤ delay then advancePast delay (now + next.2) (curr :: pre) next post
      else (now, pre, curr, next :: post)

/-- The insertion of `wd_start` into the non-empty list `head :: rest`, with the final
`wdog->lag = delay`. -/
def insertActive (wdog : W) (delay : Int) (head : W × Int) (rest : List (W × Int)) :
    List (W × Int) :=
  let (now, pre, curr, post) := advancePositive 0 [] head rest
  let (now, pre, curr, post) := advancePast delay now pre curr post
  if delay < now then
    -- before `curr`: `sq_addfirst` when `curr` is the head, `sq_addafter(prev)` otherwise
    let delay := delay - (now - curr.2)
    pre.reverse ++ (wdog, delay) :: (curr.1, curr.2 - delay) :: post
  else
    let delay := delay - now
    match post with
    | [] => pre.reverse ++ [curr, (wdog, delay)]
    | next :: post => pre.reverse ++ curr :: (wdog, delay) :: (next.1, next.2 - delay) :: post

/-! ## wd_cancel -/

section Cancel

variable [DecidableEq W]

/-- The search of `wd_cancel` from the head: unlink `wdog` and give its lag to the node
after it. -/
def cancelFrom (wdog : W) : List (W × Int) → List (W × Int)
  | [] => []
  | curr :: rest =>
      if curr.1 = wdog then
        match rest with
        | [] => []
        | next :: post => (next.1, next.2 + curr.2) :: post
      else curr :: cancelFrom wdog rest

/-- `wd_cancel`: nothing changes for a watchdog that is not active (the `ERROR` return). -/
def wdCancel (s : WdState W) (wdog : W) : WdState W :=
  if s.active wdog then
    { active := Function.update s.active wdog false
      activelist := cancelFrom wdog s.activelist }
  else s

/-- The end of `wd_start`: `sq_addlast` into an empty list or `insertActive`, then
`wdog->lag = delay` and `WDOG_SETACTIVE(wdog)`. -/
def wdLink (s : WdState W) (wdog : W) (delay : Int) : WdState W :=
  { active := Function.update s.active wdog true
    activelist :=
      match s.activelist with
      | [] => [(wdog, delay)]
      | head :: rest => insertActive wdog delay head rest }

/-- `wd_start(wdog, delay, ...)`; a negative delay is refused with `EINVAL`. -/
def wdStart (s : WdState W) (wdog : W) (delay : Int) : WdState W :=
  if delay < 0 then s else wdLink (wdCancel s wdog) wdog (wdStartTicks delay)

/-- The loop of `wd_gettime`: add up the lags until `wdog`; zero if it is not found. -/
def gettimeFrom (wdog : W) (delay : Int) : List (W × Int) → Int
  | [] => 0
  | curr :: rest =>
      if curr.1 = wdog then delay + curr.2 else gettimeFrom wdog (delay + curr.2) rest

/-- `wd_gettime`: the ticks left, or zero for a watchdog that is not active. -/
def wdGettime (s : WdState W) (wdog : W) : Int :=
  if s.active wdog then gettimeFrom wdog 0 s.activelist else 0

end Cancel

/-! ## The timer interrupt -/

/-- The decrement of `wd_timer`: the head's lag loses `decr` ticks. -/
def wdElapse (s : WdState W) (decr : Int) : WdState W :=
  match s.activelist with
  | [] => s
  | head :: rest => { s with activelist := (head.1, head.2 - decr) :: rest }

@[simp] theorem wdElapse_active (s : WdState W) (decr : Int) : (wdElapse s decr).active = s.active := by
  unfold wdElapse
  split <;> rfl

/-- One pass of the `wd_expiration` loop: when the head's lag is not positive, unlink it,
add its lag to the next node, mark it inactive and report it (its function runs next). -/
def wdExpireHead (s : WdState W) [DecidableEq W] : Option (W × WdState W) :=
  match s.activelist with
  | [] => none
  | head :: rest =>
      if head.2 ≤ 0 then
        some (head.1,
          { active := Function.update s.active head.1 false
            activelist :=
              match rest with
              | [] => []
              | next :: post => (next.1, next.2 + head.2) :: post })
      else none

/-- The watchdog code together with whether a `wd_expiration` loop is running. -/
structure WdSys (W : Type) where
  wd : WdState W
  expiring : Bool

def headLag (s : WdState W) : Option Int := s.activelist.head?.map Prod.snd

/-- The step of the watchdog code on one event; `none` when the event cannot happen. -/
def wdStep [DecidableEq W] (s : WdSys W) : Event W → Option (WdSys W)
  | .start wdog delay =>
      if delay ≤ intMax then some { s with wd := wdStart s.wd wdog delay } else none
  | .cancel wdog => some { s with wd := wdCancel s.wd wdog }
  | .tick =>
      if s.expiring then none
      else match headLag s.wd with
        | none => some s
        | some _ => some { wd := wdElapse s.wd 1, expiring := true }
  | .expire wdog =>
      if s.expiring then
        match wdExpireHead s.wd with
        | some (fired, wd) => if fired = wdog then some { s with wd } else none
        | none => none
      else none
  | .settle =>
      if s.expiring ∧ ∀ lag ∈ headLag s.wd, 0 < lag then some { s with expiring := false }
      else none

def wdInit : WdSys W := { wd := { active := fun _ => false, activelist := [] }, expiring := false }

/-- A run of the watchdog code over a sequence of events. -/
def wdRun [DecidableEq W] : WdSys W → List (Event W) → Option (WdSys W) :=
  Machine.run wdStep

/-! ## The specification: deadlines on a tick clock -/

/-- A watchdog armed by the specification: its deadline on the tick clock and the number
of the `wd_start` call that armed it. -/
structure Armed (W : Type) where
  wdog : W
  deadline : Int
  seq : Nat

/-- `a` expires before `b`: an earlier deadline, or the same one and an earlier start. -/
def Armed.Before (a b : Armed W) : Prop :=
  a.deadline < b.deadline ∨ (a.deadline = b.deadline ∧ a.seq < b.seq)

/-- What the timer list is for: the tick clock, the number of `wd_start` calls so far,
the armed watchdogs in the order they expire, and whether expired ones are being fired. -/
structure Timers (W : Type) where
  clock : Int
  seq : Nat
  armed : List (Armed W)
  expiring : Bool

namespace Timers

/-- The ticks each armed watchdog has left, in list order. -/
def remaining (t : Timers W) : List (W × Int) :=
  t.armed.map fun a => (a.wdog, a.deadline - t.clock)

variable [DecidableEq W]

def disarm (t : Timers W) (wdog : W) : List (Armed W) :=
  t.armed.filter fun a => a.wdog ≠ wdog

/-- Arm `wdog` to expire `ticks` from now, behind every watchdog that expires no later. -/
def arm (t : Timers W) (wdog : W) (ticks : Int) : Timers W :=
  { t with
    seq := t.seq + 1
    armed := (t.disarm wdog).orderedInsert (fun a b => a.deadline < b.deadline)
      ⟨wdog, t.clock + ticks, t.seq⟩ }

/-- The specification of each event. -/
def step (t : Timers W) : Event W → Option (Timers W)
  | .start wdog delay =>
      if delay ≤ intMax then
        if delay < 0 then some t else some (t.arm wdog (min (delay + 1) intMax))
      else none
  | .cancel wdog => some { t with armed := t.disarm wdog }
  | .tick =>
      if t.expiring then none
      else match t.armed with
        | [] => some t
        | _ :: _ => some { t with clock := t.clock + 1, expiring := true }
  | .expire wdog =>
      if t.expiring then
        match t.armed with
        | a :: rest => if a.wdog = wdog ∧ a.deadline ≤ t.clock then some { t with armed := rest } else none
        | [] => none
      else none
  | .settle =>
      if t.expiring ∧ ∀ a ∈ t.armed.head?, t.clock < a.deadline then some { t with expiring := false }
      else none

def init : Timers W := ⟨0, 0, [], false⟩

/-- A run of the specification. -/
def run : Timers W → List (Event W) → Option (Timers W) :=
  Machine.run step

/-- The invariant of the specification: expiry order with ties in start order, each
watchdog armed once, and deadlines within `INT_MAX` ticks, not yet passed, and still
ahead of the clock whenever no expiry is being processed. -/
structure Good (t : Timers W) : Prop where
  sorted : t.armed.Pairwise Armed.Before
  nodup : (t.armed.map Armed.wdog).Nodup
  fresh : ∀ a ∈ t.armed, a.seq < t.seq
  pending : ∀ a ∈ t.armed, t.clock ≤ a.deadline
  waiting : t.expiring = false → ∀ a ∈ t.armed, t.clock < a.deadline
  bounded : ∀ a ∈ t.armed, a.deadline - t.clock ≤ intMax

end Timers

/-- The timer list implements `t`: its lags add up to the ticks each watchdog has left,
and the active flags mark exactly the queued watchdogs. -/
structure Refines (s : WdSys W) (t : Timers W) : Prop where
  lags : DeltaList.absolute 0 s.wd.activelist = t.remaining
  active : ∀ w, s.wd.active w = true ↔ w ∈ t.armed.map Armed.wdog
  expiring : s.expiring = t.expiring

/-! ## The list edits, in terms of the ticks left -/

open DeltaList

section Edits

variable [DecidableEq W]

theorem absolute_cancelFrom (wdog : W) :
    ∀ (l : List (W × Int)) (base : Int), (l.map Prod.fst).Nodup →
      absolute base (cancelFrom wdog l) = (absolute base l).filter fun e => e.1 ≠ wdog
  | [], _, _ => rfl
  | (c, d) :: rest, base, nodup => by
      rw [List.map_cons, List.nodup_cons] at nodup
      by_cases found : c = wdog
      · subst found
        have notIn : c ∉ rest.map Prod.fst := nodup.1
        -- every later entry belongs to another watchdog
        have others : ∀ b, (absolute b rest).filter (fun e => e.1 ≠ c) = absolute b rest := by
          intro b
          rw [List.filter_eq_self]
          intro e he
          have key : e.1 ∈ rest.map Prod.fst := by
            rw [← map_fst_absolute b]; exact List.mem_map_of_mem he
          have differs : e.1 ≠ c := fun same => notIn (same ▸ key)
          simpa using differs
        have unlinked : cancelFrom c ((c, d) :: rest) =
            match rest with
            | [] => []
            | next :: post => (next.1, next.2 + d) :: post := by
          simp [cancelFrom]
        rw [unlinked, absolute_cons, List.filter_cons_of_neg (by simp), others]
        cases rest with
        | nil => rfl
        | cons next post =>
            obtain ⟨n, e⟩ := next
            simp only [absolute_cons]
            rw [show base + (e + d) = base + d + e by omega]
      · simp only [cancelFrom, if_neg found, absolute_cons, List.filter_cons]
        rw [if_pos (by simpa using found), absolute_cancelFrom wdog rest (base + d) nodup.2]

omit [DecidableEq W] in
theorem advancePositive_of_nonneg (head : W × Int) (rest : List (W × Int)) (nonneg : 0 ≤ head.2) :
    advancePositive 0 [] head rest = (head.2, [], head, rest) := by
  cases rest with
  | nil => simp [advancePositive]
  | cons next post => simp [advancePositive, show ¬ head.2 < 0 by omega]

omit [DecidableEq W] in
theorem advancePositive_split : ∀ (post pre : List (W × Int)) (curr : W × Int) (now now' : Int)
    (pre' : List (W × Int)) (curr' : W × Int) (post' : List (W × Int)),
    advancePositive now pre curr post = (now', pre', curr', post') →
      pre'.reverse ++ curr' :: post' = pre.reverse ++ curr :: post
  | [], pre, curr, now, now', pre', curr', post', walk => by
      simp only [advancePositive, Prod.mk.injEq] at walk
      obtain ⟨rfl, rfl, rfl, rfl⟩ := walk
      rfl
  | next :: post, pre, curr, now, now', pre', curr', post', walk => by
      unfold advancePositive at walk
      split at walk
      · rw [advancePositive_split post (curr :: pre) next _ now' pre' curr' post' walk]
        simp
      · simp only [Prod.mk.injEq] at walk
        obtain ⟨rfl, rfl, rfl, rfl⟩ := walk
        rfl

omit [DecidableEq W] in
/-- The walks of `wd_start` stay on the list: what they passed, reversed, the node they stop at
and the rest are the list they started on. -/
theorem advancePast_split (delay : Int) : ∀ (post pre : List (W × Int)) (curr : W × Int)
    (now now' : Int) (pre' : List (W × Int)) (curr' : W × Int) (post' : List (W × Int)),
    advancePast delay now pre curr post = (now', pre', curr', post') →
      pre'.reverse ++ curr' :: post' = pre.reverse ++ curr :: post
  | [], pre, curr, now, now', pre', curr', post', walk => by
      simp only [advancePast, Prod.mk.injEq] at walk
      obtain ⟨rfl, rfl, rfl, rfl⟩ := walk
      rfl
  | next :: post, pre, curr, now, now', pre', curr', post', walk => by
      unfold advancePast at walk
      split at walk
      · rw [advancePast_split delay post (curr :: pre) next _ now' pre' curr' post' walk]
        simp
      · simp only [Prod.mk.injEq] at walk
        obtain ⟨rfl, rfl, rfl, rfl⟩ := walk
        rfl

omit [DecidableEq W] in
/-- The walk of "advance past shorter delays": `now` is the ticks left for `curr`, every
watchdog it passed has at most `delay` ticks left, and it stops at the end of the list or at
the first watchdog with more than `delay`. -/
theorem advancePast_spec (delay : Int) :
    ∀ (post pre : List (W × Int)) (curr : W × Int) (now now' : Int)
      (pre' : List (W × Int)) (curr' : W × Int) (post' : List (W × Int)),
      advancePast delay now pre curr post = (now', pre', curr', post') →
      now = total (pre.reverse ++ [curr]) →
      (∀ v ∈ absolute 0 pre.reverse, v.2 ≤ delay) →
        now' = total (pre'.reverse ++ [curr']) ∧
        (∀ v ∈ absolute 0 pre'.reverse, v.2 ≤ delay) ∧
        (post' = [] ∨ delay < now')
  | [], pre, curr, now, now', pre', curr', post', walk, atCurr, passed => by
      simp only [advancePast, Prod.mk.injEq] at walk
      obtain ⟨rfl, rfl, rfl, rfl⟩ := walk
      exact ⟨atCurr, passed, Or.inl rfl⟩
  | next :: post, pre, curr, now, now', pre', curr', post', walk, atCurr, passed => by
      unfold advancePast at walk
      split at walk
      · rename_i moves
        refine advancePast_spec delay post (curr :: pre) next (now + next.2) now' pre' curr' post'
          walk ?_ ?_
        · simp only [List.reverse_cons, total_append, atCurr, List.append_assoc]
          simp [total, Int.add_assoc]
        · intro v hv
          rw [List.reverse_cons, absolute_append] at hv
          rcases List.mem_append.mp hv with hv | hv
          · exact passed v hv
          · simp only [absolute_cons, absolute_nil, List.mem_singleton] at hv
            subst hv
            simp only [atCurr, total_append, total_cons, total_nil] at moves
            omega
      · rename_i stays
        simp only [Prod.mk.injEq] at walk
        obtain ⟨rfl, rfl, rfl, rfl⟩ := walk
        exact ⟨atCurr, passed, Or.inr (by omega)⟩

omit [DecidableEq W] in
/-- `wd_start`'s insertion into a non-empty list puts the watchdog, with `delay` ticks
left, behind every watchdog that has at most `delay` ticks left. -/
theorem absolute_insertActive (wdog : W) (delay : Int) (head : W × Int) (rest : List (W × Int))
    (nonneg : 0 ≤ head.2) :
    absolute 0 (insertActive wdog delay head rest) =
      (absolute 0 (head :: rest)).orderedInsert (fun e f => e.2 < f.2) (wdog, delay) := by
  rcases walk : advancePast delay head.2 [] head rest with ⟨now, pre, curr, post⟩
  obtain ⟨atCurr, passed, stopped⟩ :=
    advancePast_spec delay rest [] head head.2 now pre curr post walk (by simp [total]) (by simp)
  have split := advancePast_split delay rest [] head head.2 now pre curr post walk
  simp only [List.reverse_nil, List.nil_append] at split
  unfold insertActive
  rw [advancePositive_of_nonneg head rest nonneg]
  dsimp only
  rw [walk, ← split]
  dsimp only
  have below : ∀ v ∈ absolute 0 pre.reverse, ¬ delay < v.2 := fun v hv => by
    have := passed v hv; omega
  rw [total_append, total_cons, total_nil] at atCurr
  split_ifs with later
  · -- in front of `curr`, which takes the new watchdog's ticks off its lag
    rw [absolute_append, absolute_append, absolute_insert,
      OrderedInsert.orderedInsert_append _ _ _ _ below (by simp; omega)]
    simp only [Int.zero_add]
    rw [show total pre.reverse + (delay - (now - curr.2)) = delay by omega]
  · -- at the end: every watchdog has at most `delay` ticks left
    rcases stopped with rfl | early
    · rw [OrderedInsert.orderedInsert_of_forall_not]
      · rw [show pre.reverse ++ [curr, (wdog, delay - now)] =
            (pre.reverse ++ [curr]) ++ [(wdog, delay - now)] by simp, absolute_append,
          absolute_append]
        simp only [total_append, total_cons, total_nil, absolute_cons, absolute_nil]
        rw [show 0 + (total pre.reverse + (curr.2 + 0)) + (delay - now) = delay by omega]
      · intro v hv
        rw [absolute_append] at hv
        rcases List.mem_append.mp hv with hv | hv
        · exact below v hv
        · simp only [absolute_cons, absolute_nil, List.mem_singleton] at hv
          subst hv
          simp only
          omega
    · exact absurd early later

omit [DecidableEq W] in
/-- `wd_start`'s insertion keeps every node and adds the new one, wherever its walks stop and
whatever the lags: the watchdogs queued after it are those before it and `wdog`. -/
theorem keys_insertActive (wdog : W) (delay : Int) (head : W × Int) (rest : List (W × Int)) :
    ((insertActive wdog delay head rest).map Prod.fst).Perm
      (wdog :: (head :: rest).map Prod.fst) := by
  rcases first : advancePositive 0 [] head rest with ⟨now, pre, curr, post⟩
  rcases second : advancePast delay now pre curr post with ⟨now', pre', curr', post'⟩
  have split : pre'.reverse ++ curr' :: post' = head :: rest := by
    rw [advancePast_split delay _ _ _ _ _ _ _ _ second,
      advancePositive_split _ _ _ _ _ _ _ _ first]
    rfl
  unfold insertActive
  rw [first]
  dsimp only
  rw [second, ← split]
  dsimp only
  split_ifs
  · simp
  · -- behind `curr`: the nodes up to it come first
    cases post' with
    | nil => simpa using @List.perm_middle _ wdog ((pre'.map Prod.fst).reverse ++ [curr'.1]) []
    | cons next post =>
        simpa using @List.perm_middle _ wdog ((pre'.map Prod.fst).reverse ++ [curr'.1])
          (next.1 :: post.map Prod.fst)

/-- `wd_cancel`'s unlinking takes the first node of `wdog` off and keeps the others. -/
theorem keys_cancelFrom (wdog : W) :
    ∀ l : List (W × Int), (cancelFrom wdog l).map Prod.fst = (l.map Prod.fst).erase wdog
  | [] => rfl
  | curr :: rest => by
      by_cases found : curr.1 = wdog
      · cases rest with
        | nil => simp [cancelFrom, found]
        | cons next post => simp [cancelFrom, found]
      · have other : ¬ (curr.1 == wdog) = true := by simpa using found
        simp [cancelFrom, found, keys_cancelFrom wdog rest, List.erase_cons_tail other]

theorem keys_wdLink (s : WdState W) (wdog : W) (delay : Int) :
    ((wdLink s wdog delay).activelist.map Prod.fst).Perm (wdog :: s.activelist.map Prod.fst) := by
  unfold wdLink
  cases list : s.activelist with
  | nil => rfl
  | cons head rest => exact keys_insertActive wdog delay head rest

theorem gettimeFrom_absolute :
    ∀ (l : List (W × Int)) (base : Int), (l.map Prod.fst).Nodup →
      ∀ v ∈ absolute base l, gettimeFrom v.1 base l = v.2
  | [], _, _, v, mem => by simp at mem
  | curr :: rest, base, nodup, v, mem => by
      rw [List.map_cons, List.nodup_cons] at nodup
      rw [absolute_cons, List.mem_cons] at mem
      rcases mem with rfl | mem
      · simp [gettimeFrom]
      · have other : curr.1 ≠ v.1 := by
          intro same
          apply nodup.1
          rw [same, ← map_fst_absolute (base + curr.2)]
          exact List.mem_map_of_mem mem
        rw [gettimeFrom, if_neg other]
        exact gettimeFrom_absolute rest (base + curr.2) nodup.2 v mem

end Edits

theorem wdStartTicks_eq (delay : Int) (nonneg : 0 ≤ delay) (fits : delay ≤ intMax) :
    wdStartTicks delay = min (delay + 1) intMax := by
  unfold wdStartTicks intMax at *
  split_ifs <;> omega

/-! ## The specification's steps, on the ticks left -/

namespace Timers

variable [DecidableEq W]

theorem remaining_disarm (t : Timers W) (wdog : W) :
    ({ t with armed := t.disarm wdog } : Timers W).remaining =
      t.remaining.filter fun e => e.1 ≠ wdog := by
  simp only [remaining, disarm, List.filter_map]
  rfl

theorem remaining_arm (t : Timers W) (wdog : W) (ticks : Int) :
    (t.arm wdog ticks).remaining =
      (t.remaining.filter fun e => e.1 ≠ wdog).orderedInsert (fun e f => e.2 < f.2) (wdog, ticks) := by
  rw [← remaining_disarm]
  simp only [remaining, arm]
  rw [List.map_orderedInsert (fun a b : Armed W => a.deadline < b.deadline)
    (fun e f : W × Int => e.2 < f.2) _ _ _ (fun a _ => by dsimp only; omega)
    (fun a _ => by dsimp only; omega)]
  rw [show t.clock + ticks - t.clock = ticks by omega]

omit [DecidableEq W] in
theorem Good.head_le {t : Timers W} (good : t.Good) {a : Armed W} {rest : List (Armed W)}
    (armed : t.armed = a :: rest) : ∀ b ∈ t.armed, a.deadline ≤ b.deadline := by
  have sorted := good.sorted
  rw [armed, List.pairwise_cons] at sorted
  intro b hb
  rw [armed, List.mem_cons] at hb
  rcases hb with rfl | hb
  · exact le_refl _
  · rcases sorted.1 b hb with lt | ⟨eq, -⟩ <;> omega

omit [DecidableEq W] in
theorem Good.sublist {t : Timers W} (good : t.Good) (armed : List (Armed W))
    (sub : armed.Sublist t.armed) : ({ t with armed } : Timers W).Good where
  sorted := good.sorted.sublist sub
  nodup := good.nodup.sublist (sub.map _)
  fresh a ha := good.fresh a (sub.subset ha)
  pending a ha := good.pending a (sub.subset ha)
  waiting idle a ha := good.waiting idle a (sub.subset ha)
  bounded a ha := good.bounded a (sub.subset ha)

theorem Good.arm {t : Timers W} (good : t.Good) (wdog : W) (ticks : Int) (pos : 1 ≤ ticks)
    (fits : ticks ≤ intMax) : (t.arm wdog ticks).Good := by
  have kept := good.sublist (t.disarm wdog) List.filter_sublist
  have perm := List.perm_orderedInsert (fun a b : Armed W => a.deadline < b.deadline)
    ⟨wdog, t.clock + ticks, t.seq⟩ (t.disarm wdog)
  -- every member is the new watchdog or one that was armed before
  have member : ∀ a ∈ (t.arm wdog ticks).armed,
      a = ⟨wdog, t.clock + ticks, t.seq⟩ ∨ a ∈ t.disarm wdog := fun a ha =>
    List.mem_cons.mp (perm.subset ha)
  constructor
  · refine OrderedInsert.pairwise_orderedInsert _ _ _ kept.sorted ?_ ?_ ?_
    · intro b _ later
      exact Or.inl later
    · intro b hb notLater
      have := kept.fresh b hb
      simp only at notLater this
      rcases lt_or_eq_of_le (not_lt.mp notLater) with lt | eq
      · exact Or.inl lt
      · exact Or.inr ⟨eq, this⟩
    · intro b c later order
      rcases order with lt | ⟨eq, -⟩
      · exact lt_trans later lt
      · exact eq ▸ later
  · have fresh : wdog ∉ (t.disarm wdog).map Armed.wdog := by simp [disarm]
    exact (perm.map Armed.wdog).nodup_iff.mpr (List.nodup_cons.mpr ⟨fresh, kept.nodup⟩)
  · intro a ha
    rcases member a ha with rfl | ha
    · simp [Timers.arm]
    · have := kept.fresh a ha
      simp only [Timers.arm] at this ⊢
      omega
  · intro a ha
    rcases member a ha with rfl | ha
    · simp only [Timers.arm]; omega
    · exact kept.pending a ha
  · intro _ a ha
    rcases member a ha with rfl | ha
    · simp only [Timers.arm]; omega
    · exact kept.waiting (by assumption) a ha
  · intro a ha
    rcases member a ha with rfl | ha
    · simp only [Timers.arm]; omega
    · exact kept.bounded a ha

omit [DecidableEq W] in
theorem Good.advance {t : Timers W} (good : t.Good) {a : Armed W} {rest : List (Armed W)}
    (armed : t.armed = a :: rest) (decr : Int) (pos : 1 ≤ decr)
    (within : decr ≤ a.deadline - t.clock) :
    ({ t with clock := t.clock + decr, expiring := true } : Timers W).Good where
  sorted := good.sorted
  nodup := good.nodup
  fresh := good.fresh
  pending b hb := by
    have := good.head_le armed b hb
    simp only
    omega
  waiting idle := by simp at idle
  bounded b hb := by
    have := good.bounded b hb
    simp only
    omega

omit [DecidableEq W] in
theorem Good.settle {t : Timers W} (good : t.Good) (ahead : ∀ a ∈ t.armed.head?, t.clock < a.deadline) :
    ({ t with expiring := false } : Timers W).Good where
  sorted := good.sorted
  nodup := good.nodup
  fresh := good.fresh
  pending := good.pending
  waiting _ b hb := by
    cases armed : t.armed with
    | nil => rw [armed] at hb; simp at hb
    | cons a rest =>
        have first := ahead a (by simp [armed])
        have := good.head_le armed b hb
        simp only
        omega
  bounded := good.bounded

/-- Every step of the specification keeps its invariant. -/
theorem Good.step {t t' : Timers W} (good : t.Good) (e : Event W) (stepped : t.step e = some t') :
    t'.Good := by
  cases e with
  | start wdog delay =>
      simp only [Timers.step] at stepped
      split_ifs at stepped with fits negative
      · cases stepped; exact good
      · cases stepped
        exact good.arm wdog _ (by unfold intMax at fits ⊢; omega) (min_le_right _ _)
  | cancel wdog =>
      simp only [Timers.step, Option.some.injEq] at stepped
      subst stepped
      exact good.sublist _ List.filter_sublist
  | tick =>
      simp only [Timers.step] at stepped
      split at stepped
      · cases stepped
      · rename_i idle
        split at stepped
        · cases stepped; exact good
        · rename_i a rest armed
          cases stepped
          have := good.waiting (by simpa using idle) a (by simp [armed])
          exact good.advance armed 1 (le_refl 1) (by omega)
  | expire wdog =>
      simp only [Timers.step] at stepped
      split at stepped
      · split at stepped
        · rename_i a rest armed
          split at stepped
          · cases stepped
            exact good.sublist rest (by rw [armed]; exact List.sublist_cons_self a rest)
          · cases stepped
        · cases stepped
      · cases stepped
  | settle =>
      simp only [Timers.step] at stepped
      split at stepped
      · rename_i ready
        cases stepped
        exact good.settle ready.2
      · cases stepped

omit [DecidableEq W] in
theorem Good.init : (init : Timers W).Good where
  sorted := List.Pairwise.nil
  nodup := List.nodup_nil
  fresh := by simp [Timers.init]
  pending := by simp [Timers.init]
  waiting := by simp [Timers.init]
  bounded := by simp [Timers.init]

omit [DecidableEq W] in
theorem Good.remaining_nonneg {t : Timers W} (good : t.Good) : ∀ e ∈ t.remaining, 0 ≤ e.2 := by
  intro e he
  obtain ⟨a, ha, rfl⟩ := List.mem_map.mp he
  have := good.pending a ha
  simp only
  omega

omit [DecidableEq W] in
theorem remaining_advance (t : Timers W) (decr : Int) (expiring : Bool) :
    ({ t with clock := t.clock + decr, expiring } : Timers W).remaining =
      t.remaining.map fun e => (e.1, e.2 - decr) := by
  simp only [remaining, List.map_map]
  congr 1
  funext a
  simp only [Function.comp_apply, Prod.mk.injEq, true_and]
  omega

end Timers

/-! ## The timer list implements the specification -/

section Simulation

variable [DecidableEq W] {s : WdSys W} {t : Timers W}

omit [DecidableEq W] in
theorem Refines.keys (r : Refines s t) : s.wd.activelist.map Prod.fst = t.armed.map Armed.wdog := by
  rw [← map_fst_absolute 0, r.lags]
  simp [Timers.remaining]

omit [DecidableEq W] in
theorem Refines.nodup (r : Refines s t) (good : t.Good) : (s.wd.activelist.map Prod.fst).Nodup := by
  rw [r.keys]
  exact good.nodup

omit [DecidableEq W] in
theorem Refines.headLag_eq (r : Refines s t) :
    headLag s.wd = t.armed.head?.map fun a => a.deadline - t.clock := by
  have lags := r.lags
  unfold headLag
  cases list : s.wd.activelist with
  | nil =>
      rw [list] at lags
      cases armed : t.armed with
      | nil => rfl
      | cons a rest => simp [Timers.remaining, armed] at lags
  | cons head rest =>
      rw [list] at lags
      cases armed : t.armed with
      | nil => simp [Timers.remaining, armed] at lags
      | cons a rest' =>
          simp only [absolute_cons, Timers.remaining, armed, List.map_cons, List.cons.injEq,
            Prod.mk.injEq] at lags
          simp only [List.head?_cons, Option.map_some, Option.some.injEq]
          omega

theorem absolute_wdCancel (r : Refines s t) (good : t.Good) (wdog : W) :
    absolute 0 (wdCancel s.wd wdog).activelist = t.remaining.filter fun e => e.1 ≠ wdog := by
  unfold wdCancel
  split_ifs with active
  · rw [absolute_cancelFrom _ _ _ (r.nodup good), r.lags]
  · -- the watchdog is not queued, so the filter keeps everything
    rw [r.lags, eq_comm, List.filter_eq_self]
    intro e he
    have queued : e.1 ∈ t.armed.map Armed.wdog := by
      have := List.mem_map_of_mem (f := Prod.fst) he
      simpa [Timers.remaining] using this
    have differs : e.1 ≠ wdog := fun same => active ((r.active wdog).mpr (same ▸ queued))
    simpa using differs

theorem active_wdCancel (r : Refines s t) (wdog x : W) :
    (wdCancel s.wd wdog).active x = true ↔ x ∈ (t.disarm wdog).map Armed.wdog := by
  have disarmed : x ∈ (t.disarm wdog).map Armed.wdog ↔ x ∈ t.armed.map Armed.wdog ∧ x ≠ wdog := by
    simp only [Timers.disarm, List.mem_map, List.mem_filter, ne_eq, decide_not,
      Bool.not_eq_eq_eq_not, Bool.not_true, decide_eq_false_iff_not]
    constructor
    · rintro ⟨a, ⟨ha, other⟩, rfl⟩; exact ⟨⟨a, ha, rfl⟩, other⟩
    · rintro ⟨⟨a, ha, rfl⟩, other⟩; exact ⟨a, ⟨ha, other⟩, rfl⟩
  rw [disarmed, ← r.active]
  unfold wdCancel
  split_ifs with active
  · by_cases same : x = wdog
    · subst same; simp
    · simp [same]
  · by_cases same : x = wdog
    · subst same; simp [active]
    · simp [same]

theorem absolute_wdStart (r : Refines s t) (good : t.Good) (wdog : W) (delay : Int)
    (nonneg : 0 ≤ delay) (fits : delay ≤ intMax) :
    absolute 0 (wdStart s.wd wdog delay).activelist = (t.arm wdog (min (delay + 1) intMax)).remaining := by
  have cancelled := absolute_wdCancel r good wdog
  rw [Timers.remaining_arm, ← cancelled]
  unfold wdStart wdLink
  rw [if_neg (by omega), wdStartTicks_eq delay nonneg fits]
  dsimp only
  cases list : (wdCancel s.wd wdog).activelist with
  | nil => simp
  | cons head rest =>
      rw [list] at cancelled
      dsimp only
      have nonneg : 0 ≤ head.2 := by
        have mem : (head.1, 0 + head.2) ∈ t.remaining :=
          List.mem_of_mem_filter (by rw [← cancelled, absolute_cons]; exact List.mem_cons_self)
        simpa using good.remaining_nonneg _ mem
      exact absolute_insertActive wdog _ head rest nonneg

theorem active_wdStart (r : Refines s t) (wdog : W) (delay : Int) (nonneg : 0 ≤ delay) (x : W) :
    (wdStart s.wd wdog delay).active x = true ↔
      x ∈ (t.arm wdog (min (delay + 1) intMax)).armed.map Armed.wdog := by
  have armed := List.perm_orderedInsert (fun a b : Armed W => a.deadline < b.deadline)
    ⟨wdog, t.clock + min (delay + 1) intMax, t.seq⟩ (t.disarm wdog)
  dsimp only [Timers.arm]
  rw [(armed.map Armed.wdog).mem_iff]
  unfold wdStart wdLink
  rw [if_neg (by omega)]
  by_cases same : x = wdog
  · subst same; simp
  · simp only [Function.update_apply, same, if_false, List.map_cons, List.mem_cons, false_or]
    exact active_wdCancel r wdog x

omit [DecidableEq W] in
theorem absolute_wdElapse (wd : WdState W) (decr : Int) :
    absolute 0 (wdElapse wd decr).activelist = (absolute 0 wd.activelist).map fun e => (e.1, e.2 - decr) := by
  unfold wdElapse
  cases list : wd.activelist with
  | nil => simp [list]
  | cons head rest => exact absolute_sub_head 0 head.1 head.2 decr rest

theorem Refines.expire (r : Refines s t) (good : t.Good) {fired : W} {wd : WdState W}
    (passed : wdExpireHead s.wd = some (fired, wd)) :
    ∃ a rest, t.armed = a :: rest ∧ a.wdog = fired ∧ a.deadline ≤ t.clock ∧
      absolute 0 wd.activelist = ({ t with armed := rest } : Timers W).remaining ∧
      ∀ x, wd.active x = true ↔ x ∈ rest.map Armed.wdog := by
  have lags := r.lags
  have nodup := r.nodup good
  have keys := r.keys
  unfold wdExpireHead at passed
  cases list : s.wd.activelist with
  | nil => rw [list] at passed; cases passed
  | cons head rest =>
      rw [list] at passed lags nodup keys
      dsimp only at passed
      split_ifs at passed with due
      simp only [Option.some.injEq, Prod.mk.injEq] at passed
      obtain ⟨rfl, rfl⟩ := passed
      cases armed : t.armed with
      | nil => simp [Timers.remaining, armed] at lags
      | cons a rest' =>
          rw [armed] at keys
          simp only [Timers.remaining, armed, List.map_cons, absolute_cons, List.cons.injEq,
            Prod.mk.injEq] at lags
          simp only [List.map_cons, List.cons.injEq] at keys
          rw [List.map_cons, List.nodup_cons] at nodup
          refine ⟨a, rest', rfl, lags.1.1.symm, by omega, ?_, ?_⟩
          · -- the head's lag moves into the next node
            simp only [Timers.remaining]
            rw [← lags.2]
            cases rest with
            | nil => rfl
            | cons next post =>
                simp only [absolute_cons]
                rw [show 0 + (next.2 + head.2) = 0 + head.2 + next.2 by omega]
          · intro x
            dsimp only
            rw [← keys.2]
            by_cases same : x = head.1
            · subst same
              simpa using nodup.1
            · have queued := r.active x
              rw [armed, List.map_cons, List.mem_cons, ← keys.1, ← keys.2] at queued
              rw [Function.update_of_ne same, queued]
              simp [same]

/-- Every step of the watchdog code is a step of the specification. -/
theorem wdStep_refines (r : Refines s t) (good : t.Good) (e : Event W) {s' : WdSys W}
    (stepped : wdStep s e = some s') : ∃ t', t.step e = some t' ∧ Refines s' t' := by
  cases e with
  | start wdog delay =>
      simp only [wdStep] at stepped
      split_ifs at stepped with fits
      cases stepped
      by_cases negative : delay < 0
      · -- `EINVAL`: neither side changes
        refine ⟨t, by simp [Timers.step, fits, negative], ?_⟩
        simpa [wdStart, negative] using r
      · refine ⟨t.arm wdog (min (delay + 1) intMax), by simp [Timers.step, fits, negative], ?_⟩
        exact ⟨absolute_wdStart r good wdog delay (by omega) fits,
          active_wdStart r wdog delay (by omega), r.expiring⟩
  | cancel wdog =>
      simp only [wdStep, Option.some.injEq] at stepped
      subst stepped
      refine ⟨{ t with armed := t.disarm wdog }, rfl, ?_⟩
      exact ⟨by rw [Timers.remaining_disarm]; exact absolute_wdCancel r good wdog,
        active_wdCancel r wdog, r.expiring⟩
  | tick =>
      simp only [wdStep] at stepped
      split_ifs at stepped with busy
      have idle : t.expiring = false := by rw [← r.expiring]; simpa using busy
      rw [r.headLag_eq] at stepped
      cases armed : t.armed with
      | nil =>
          simp only [armed, List.head?_nil, Option.map_none, Option.some.injEq] at stepped
          subst stepped
          exact ⟨t, by simp [Timers.step, idle, armed], r⟩
      | cons a rest =>
          simp only [armed, List.head?_cons, Option.map_some, Option.some.injEq] at stepped
          subst stepped
          refine ⟨{ t with clock := t.clock + 1, expiring := true },
            by simp [Timers.step, idle, armed], ?_⟩
          refine ⟨?_, fun w => by rw [wdElapse_active]; exact r.active w, rfl⟩
          rw [Timers.remaining_advance, absolute_wdElapse, r.lags]
  | expire wdog =>
      simp only [wdStep] at stepped
      split_ifs at stepped with busy
      split at stepped
      · rename_i fired wd passed
        split_ifs at stepped with same
        cases stepped
        obtain ⟨a, rest, armed, hfired, due, lags, active⟩ := r.expire good passed
        refine ⟨{ t with armed := rest }, ?_, lags, active, r.expiring⟩
        have busy' : t.expiring = true := by rw [← r.expiring]; exact busy
        simp [Timers.step, busy', armed, hfired, same, due]
      · cases stepped
  | settle =>
      simp only [wdStep] at stepped
      split_ifs at stepped with ready
      cases stepped
      refine ⟨{ t with expiring := false }, ?_, r.lags, r.active, rfl⟩
      have ahead : ∀ a ∈ t.armed.head?, t.clock < a.deadline := by
        intro a ha
        have := ready.2 (a.deadline - t.clock) (by rw [r.headLag_eq]; exact Option.mem_map_of_mem _ ha)
        omega
      rw [Timers.step, if_pos ⟨by rw [← r.expiring]; exact ready.1, ahead⟩]

omit [DecidableEq W] in
theorem Refines.init : Refines (wdInit : WdSys W) Timers.init where
  lags := rfl
  active w := by simp [wdInit, Timers.init]
  expiring := rfl

/-- Every run of the watchdog code from boot is matched by a run of the specification. -/
theorem wdRun_refines (evs : List (Event W)) {s : WdSys W} (ran : wdRun wdInit evs = some s) :
    ∃ t, Timers.run Timers.init evs = some t ∧ Refines s t ∧ t.Good :=
  Machine.run_simulation Refines Timers.Good (fun _ e _ good stepped => good.step e stepped)
    (fun _ _ e _ good r stepped => wdStep_refines r good e stepped) evs wdInit s Timers.init
    Timers.Good.init Refines.init ran

example : (wdRun wdInit [.start 0 3, .start 1 3, .start 2 1]).map (·.wd.activelist) =
    some [(2, 2), (0, 2), (1, 0)] := by
  decide

/-! ## What the refinement shows of the code -/

/-- `wd_gettime` of an armed watchdog is its ticks left. -/
theorem Refines.gettime (r : Refines s t) (good : t.Good) {a : Armed W} (ha : a ∈ t.armed) :
    wdGettime s.wd a.wdog = a.deadline - t.clock := by
  have queued : s.wd.active a.wdog = true := (r.active a.wdog).mpr (List.mem_map_of_mem ha)
  have entry : (a.wdog, a.deadline - t.clock) ∈ absolute 0 s.wd.activelist := by
    rw [r.lags]
    exact List.mem_map_of_mem ha
  rw [wdGettime, if_pos queued]
  exact gettimeFrom_absolute s.wd.activelist 0 (r.nodup good) _ entry

/-- A pass of the expiration loop can fire `wdog` exactly when it heads the specification's
list and is due now. -/
theorem Refines.expire_iff (r : Refines s t) (good : t.Good) (wdog : W) :
    (∃ s', wdStep s (.expire wdog) = some s') ↔
      s.expiring = true ∧ ∃ a ∈ t.armed.head?, a.wdog = wdog ∧ a.deadline = t.clock := by
  constructor
  · rintro ⟨s', stepped⟩
    obtain ⟨t', spec, -⟩ := wdStep_refines r good _ stepped
    simp only [Timers.step] at spec
    split_ifs at spec with busy
    split at spec
    · rename_i a rest armed
      split_ifs at spec with ok
      have := good.pending a (by simp [armed])
      exact ⟨by rw [r.expiring]; exact busy, a, by simp [armed], ok.1, by omega⟩
    · cases spec
  · rintro ⟨busy, a, ha, fired, due⟩
    obtain ⟨rest', armed⟩ : ∃ rest', t.armed = a :: rest' := by
      cases h : t.armed with
      | nil => simp [h] at ha
      | cons b rest' =>
          rw [h, List.head?_cons, Option.mem_def, Option.some.injEq] at ha
          exact ⟨rest', by rw [ha]⟩
    have lags := r.lags
    cases list : s.wd.activelist with
    | nil => simp [list, Timers.remaining, armed] at lags
    | cons head rest =>
        simp only [list, armed, absolute_cons, Timers.remaining, List.map_cons, List.cons.injEq,
          Prod.mk.injEq] at lags
        -- the head's lag is the ticks left of `a`, which are none
        have spent : head.2 ≤ 0 := by omega
        simp [wdStep, busy, wdExpireHead, list, spent, lags.1.1, fired]

theorem Refines.settle_iff (r : Refines s t) (good : t.Good) :
    (∃ s', wdStep s .settle = some s') ↔
      s.expiring = true ∧ ∀ a ∈ t.armed, t.clock < a.deadline := by
  have ahead : (∀ lag ∈ headLag s.wd, 0 < lag) ↔ ∀ a ∈ t.armed, t.clock < a.deadline := by
    rw [r.headLag_eq]
    cases armed : t.armed with
    | nil => simp
    | cons a rest =>
        simp only [List.head?_cons, Option.map_some, Option.mem_def, Option.some.injEq,
          forall_eq', List.mem_cons, forall_eq_or_imp]
        constructor
        · intro first
          refine ⟨by omega, fun b hb => ?_⟩
          have := good.head_le armed b (by simp [armed, hb])
          omega
        · intro later
          have := later.1
          omega
  simp only [wdStep]
  rw [← ahead]
  constructor
  · rintro ⟨s', stepped⟩
    split_ifs at stepped with ready
    exact ready
  · intro ready
    exact ⟨_, if_pos ready⟩

/-- What a state of the watchdog code shows, against the specification state `t`. -/
structure Observed (s : WdSys W) (t : Timers W) : Prop where
  /-- The lags summed from the head give each queued watchdog's ticks left, in list order. -/
  lags : absolute 0 s.wd.activelist = t.remaining
  once : (s.wd.activelist.map Prod.fst).Nodup
  /-- `WDOG_ISACTIVE` holds exactly for the queued watchdogs. -/
  active : ∀ w, s.wd.active w = true ↔ w ∈ s.wd.activelist.map Prod.fst
  gettime : ∀ a ∈ t.armed, wdGettime s.wd a.wdog = a.deadline - t.clock
  /-- The expiration loop fires only the head, and only when it is due now. -/
  fire : ∀ w, (∃ s', wdStep s (.expire w) = some s') ↔
    s.expiring = true ∧ ∃ a ∈ t.armed.head?, a.wdog = w ∧ a.deadline = t.clock
  /-- The expiration loop ends only when no armed watchdog is due. -/
  settle : (∃ s', wdStep s .settle = some s') ↔
    s.expiring = true ∧ ∀ a ∈ t.armed, t.clock < a.deadline

theorem Refines.observed (r : Refines s t) (good : t.Good) : Observed s t where
  lags := r.lags
  once := r.nodup good
  active w := by rw [r.active, r.keys]
  gettime _ ha := r.gettime good ha
  fire := r.expire_iff good
  settle := r.settle_iff good

theorem wdRun_implements_timers (evs : List (Event W)) (s : WdSys W)
    (ran : wdRun wdInit evs = some s) :
    ∃ t, Timers.run Timers.init evs = some t ∧ t.Good ∧ Observed s t := by
  obtain ⟨t, spec, r, good⟩ := wdRun_refines evs ran
  exact ⟨t, spec, good, r.observed good⟩

theorem wdRun_implements_timers_start_tick :
    ∃ t, Timers.run Timers.init [.start 0 3, .tick, .settle] = some t ∧ t.Good ∧
      Observed (⟨⟨Function.update (fun _ => false) 0 true, [(0, 3)]⟩, false⟩ : WdSys Nat) t :=
  wdRun_implements_timers _ _ rfl

end Simulation

end TinyAra.Kernel.Wdog