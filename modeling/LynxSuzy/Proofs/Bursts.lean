import LynxSuzy.Proofs.Refusals
import Mathlib.Tactic.SplitIfs

/-!
Contract: how many messages a rate limiter lets through at once.

Owns: what a window leaves to be admitted during a second that begins at any time;
that no message adds to it and that one admitted in that second takes from it; and
the bound on every such second.

Windows open on demand, so a second need not fall into one of them. While times
are in order, two windows open at least a second apart, and a second meets two of
them at most.
-/

set_option autoImplicit false

namespace LynxSuzy.Journal

def Request.time? : Request → Option Time
  | .judge _ now => some now
  | .setRate _ => none

def Request.rate? : Request → Option Nat
  | .judge _ _ => none
  | .setRate perSecond => some perSecond

def inSecond (start now : Time) : Bool :=
  decide (start ≤ now ∧ now < start + second)

/-- How many messages were admitted in the second from a time on. -/
def Ruling.burst (start : Time) (rulings : List Ruling) : Nat :=
  rulings.countP fun ruling => ruling.verdict.admitted && inSecond start ruling.now

theorem Ruling.burst_cons (start : Time) (ruling : Ruling) (rulings : List Ruling) :
    burst start (ruling :: rulings)
      = (if ruling.verdict.admitted && inSecond start ruling.now then 1 else 0)
        + burst start rulings := by
  rw [burst, List.countP_cons, Nat.add_comm]
  rfl

/-! ## Windows -/

namespace Window

/-- What can still be admitted in the second from `start` on by a window that opened at
a time and has admitted so many, and by those behind it: what it has left, and a whole
budget for each window that can open in that second. One that opens in it is the last. -/
def remaining (most start opened admitted : Nat) : Nat :=
  if opened + second ≤ start then 2 * most
  else if opened < start then most - admitted + most
  else if opened < start + second then most - admitted
  else 0

section Arithmetic

variable {most start opened admitted now : Nat}

theorem remaining_le : remaining most start opened admitted ≤ 2 * most := by
  unfold remaining
  split_ifs <;> omega

/-- A window that opens once another has run out leaves no more than that one did. -/
theorem remaining_opened (expired : opened + second ≤ now) :
    remaining most start now 0 ≤ remaining most start opened admitted := by
  unfold remaining
  split_ifs <;> omega

/-- A message that a window admits in the second takes one from what remains. -/
theorem remaining_admitted (fewer : admitted < most) (before : opened ≤ now)
    (isOpen : now < opened + second) :
    (if start ≤ now ∧ now < start + second then 1 else 0)
        + remaining most start opened (admitted + 1)
      ≤ remaining most start opened admitted := by
  unfold remaining
  split_ifs <;> omega

end Arithmetic

def OpenedBy (window : Window) (now : Time) : Prop :=
  ∀ opened, window.opened = some opened → opened ≤ now

def Covers (window : Window) (now : Time) : Prop :=
  ∃ opened, window.opened = some opened ∧ opened ≤ now ∧ now < opened + second

/-- What can still be admitted in the second from a time on, if no budget exceeds a
number. -/
def allowance (most : Nat) (start : Time) (window : Window) : Nat :=
  match window.opened with
  | none => 2 * most
  | some opened => remaining most start opened window.admitted

section Windows

variable {window : Window} {now : Time}

theorem current_of_over (expired : window.isOver now = true) :
    window.current now = ⟨some now, 0, 0⟩ :=
  if_pos expired

theorem current_of_open (isOpen : window.isOver now = false) : window.current now = window :=
  if_neg (Bool.eq_false_iff.1 isOpen)

theorem allowance_of_opened {opened : Time} (begun : window.opened = some opened) (most : Nat)
    (start : Time) :
    window.allowance most start = remaining most start opened window.admitted := by
  rw [allowance, begun]

theorem covers_current (before : window.OpenedBy now) : (window.current now).Covers now := by
  cases expired : window.isOver now with
  | true =>
      rw [current_of_over expired]
      exact ⟨now, rfl, Nat.le_refl now, Nat.lt_add_of_pos_right (by decide)⟩
  | false =>
      rw [current_of_open expired]
      unfold isOver at expired
      cases begun : window.opened with
      | none => simp [begun] at expired
      | some opened =>
          rw [begun] at expired
          have elapsed : now - opened < second := Nat.not_le.1 (of_decide_eq_false expired)
          have earlier := before opened begun
          exact ⟨opened, begun, earlier, (Nat.sub_lt_iff_lt_add' earlier).1 elapsed⟩

theorem Covers.openedBy (covers : window.Covers now) {later : Time} (ordered : now ≤ later) :
    window.OpenedBy later := by
  obtain ⟨opened, begun, earlier, _⟩ := covers
  intro other same
  obtain rfl : opened = other := Option.some.inj (begun.symm.trans same)
  exact Nat.le_trans earlier ordered

/-- Opening a window adds nothing to what can be admitted. -/
theorem allowance_current_le (most : Nat) (start : Time) (before : window.OpenedBy now) :
    (window.current now).allowance most start ≤ window.allowance most start := by
  cases expired : window.isOver now with
  | false => exact Nat.le_of_eq (congrArg _ (current_of_open expired))
  | true =>
      rw [current_of_over expired, allowance_of_opened rfl]
      unfold isOver at expired
      cases begun : window.opened with
      | none =>
          rw [allowance, begun]
          exact remaining_le
      | some opened =>
          rw [begun] at expired
          have elapsed : second ≤ now - opened := of_decide_eq_true expired
          rw [allowance_of_opened begun]
          exact remaining_opened (Nat.add_le_of_le_sub' (before opened begun) elapsed)

/-- **A message that is admitted in the second takes one from what can be.** -/
theorem allowance_count {most : Nat} {admitted : Bool} (start : Time) (covers : window.Covers now)
    (room : admitted = true → window.admitted < most) :
    (if admitted && inSecond start now then 1 else 0)
        + (window.count admitted).allowance most start
      ≤ window.allowance most start := by
  obtain ⟨opened, begun, earlier, isOpen⟩ := covers
  cases admitted with
  | false => exact Nat.le_of_eq (Nat.zero_add _)
  | true =>
      have counted : (window.count true).opened = some opened := begun
      rw [allowance_of_opened begun, allowance_of_opened counted, inSecond, Bool.true_and]
      simp only [decide_eq_true_eq]
      exact remaining_admitted (room rfl) earlier isOpen

end Windows

end Window

/-! ## Requests in order -/

namespace RateLimiter

/-- What is demanded of a limiter and the requests to come: no budget exceeds a
number, times do not go back, and the window of a category has not been opened
later than any of them. -/
structure Orderly (most : Nat) (category : Category) (limiter : RateLimiter)
    (requests : List Request) : Prop where
  budget : limiter.perSecond ≤ most
  rates : ∀ rate ∈ requests.filterMap Request.rate?, rate ≤ most
  times : (requests.filterMap Request.time?).Pairwise (· ≤ ·)
  opened : ∀ now ∈ requests.filterMap Request.time?,
    (limiter.windows.get category).OpenedBy now

section Requests

variable {most : Nat} {category : Category} {limiter : RateLimiter} {rest : List Request}

theorem Orderly.setRate {perSecond : Nat}
    (orderly : Orderly most category limiter (.setRate perSecond :: rest)) :
    Orderly most category (limiter.withRate perSecond) rest where
  budget := orderly.rates perSecond List.mem_cons_self
  rates rate among := orderly.rates rate (List.mem_cons_of_mem _ among)
  times := orderly.times
  opened := orderly.opened

variable {named : Category} {now : Time}

theorem Orderly.openedBy (orderly : Orderly most category limiter (.judge named now :: rest)) :
    (limiter.windows.get category).OpenedBy now :=
  orderly.opened now List.mem_cons_self

theorem Orderly.judge (orderly : Orderly most category limiter (.judge named now :: rest)) :
    Orderly most category (limiter.judge named now).2 rest where
  budget := orderly.budget
  rates := orderly.rates
  times := (List.pairwise_cons.1 orderly.times).2
  opened later among := by
    by_cases own : named = category
    · subst own
      have ordered : now ≤ later := (List.pairwise_cons.1 orderly.times).1 later among
      rw [window_judge]
      have covers := Window.covers_current orderly.openedBy
      cases (limiter.judge named now).1.admitted <;> exact covers.openedBy ordered
    · rw [limiter.window_judge_other named now (Ne.symm own)]
      exact orderly.opened later (List.mem_cons_of_mem now among)

/-- A message of a category, admitted or refused, leaves the rest of the allowance. -/
theorem Orderly.allowance_judge (start : Time)
    (orderly : Orderly most category limiter (.judge category now :: rest)) :
    let judged := limiter.judge category now
    (if judged.1.admitted && inSecond start now then 1 else 0)
        + (judged.2.windows.get category).allowance most start
      ≤ (limiter.windows.get category).allowance most start := by
  intro judged
  have covers := Window.covers_current orderly.openedBy
  have room : judged.1.admitted = true →
      ((limiter.windows.get category).current now).admitted < most := by
    intro admitted
    exact Nat.lt_of_lt_of_le (of_decide_eq_true admitted) orderly.budget
  calc
    _ = (if judged.1.admitted && inSecond start now then 1 else 0)
          + (((limiter.windows.get category).current now).count judged.1.admitted).allowance
              most start := by rw [limiter.window_judge category now]
    _ ≤ ((limiter.windows.get category).current now).allowance most start :=
        Window.allowance_count start covers room
    _ ≤ _ := Window.allowance_current_le most start orderly.openedBy

end Requests

/-- **A category gets no more than its allowance.** -/
theorem burst_le_allowance (most : Nat) (category : Category) (start : Time)
    (requests : List Request) :
    ∀ limiter : RateLimiter, Orderly most category limiter requests →
      Ruling.burst start (Ruling.about category (limiter.rulings requests))
        ≤ (limiter.windows.get category).allowance most start := by
  induction requests with
  | nil => exact fun _ _ => Nat.zero_le _
  | cons request rest recurse =>
      intro limiter orderly
      cases request with
      | setRate perSecond => exact recurse _ orderly.setRate
      | judge named now =>
          have later := recurse _ orderly.judge
          by_cases own : named = category
          · subst own
            have first := orderly.allowance_judge start
            rw [about_judge, Ruling.burst_cons]
            dsimp only at first ⊢
            omega
          · rw [limiter.about_judge_other category now rest own]
            rw [limiter.window_judge_other named now (Ne.symm own)] at later
            exact later

/-- **No second sees more than two budgets.** While times are in order and no budget in
force exceeds a number, a limiter that began without messages admits at most twice as
many messages of a category in the second from any time on, wherever its windows
open. -/
theorem bursts_are_bounded {most perSecond : Nat} {requests : List Request}
    (rates : ∀ rate ∈ perSecond :: requests.filterMap Request.rate?, rate ≤ most)
    (ordered : (requests.filterMap Request.time?).Pairwise (· ≤ ·))
    (category : Category) (start : Time) :
    Ruling.burst start (Ruling.about category ((fresh perSecond).rulings requests))
      ≤ 2 * most := by
  have unopened : (fresh perSecond).windows.get category = Window.unopened :=
    PerCategory.get_const _ _
  have orderly : Orderly most category (fresh perSecond) requests := by
    refine ⟨rates _ List.mem_cons_self, fun rate among => rates rate ?_, ordered, ?_⟩
    · exact List.mem_cons_of_mem _ among
    · intro now _ opened begun
      rw [unopened] at begun
      cases begun
  have bounded := burst_le_allowance most category start requests _ orderly
  rw [unopened] at bounded
  exact bounded

/-- A window opened by a message that was refused under no budget at all, and the one
behind it, can spend two budgets in a tenth of a second. -/
theorem two_budgets_in_a_second :
    let requests : List Request :=
      [.judge .math 0, .setRate 2, .judge .math 900000000, .judge .math 900000001,
        .judge .bus 900000002, .judge .math 1000000000, .judge .math 1000000001,
        .judge .math 1000000002]
    (∀ rate ∈ 0 :: requests.filterMap Request.rate?, rate ≤ 2)
      ∧ (requests.filterMap Request.time?).Pairwise (· ≤ ·)
      ∧ Ruling.burst 900000000 (Ruling.about .math ((fresh 0).rulings requests)) = 4
      ∧ Ruling.burst 900000000 (Ruling.about .math ((fresh 0).rulings requests)) ≤ 2 * 2 := by
  intro requests
  have rates : ∀ rate ∈ 0 :: requests.filterMap Request.rate?, rate ≤ 2 := by decide
  have ordered : (requests.filterMap Request.time?).Pairwise (· ≤ ·) := by decide
  exact ⟨rates, ordered, by decide, bursts_are_bounded rates ordered .math 900000000⟩

end RateLimiter

end LynxSuzy.Journal
