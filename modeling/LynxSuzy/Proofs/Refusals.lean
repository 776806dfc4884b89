import LynxSuzy.Journal.RateLimiter
import Mathlib.Algebra.Order.Ring.Nat

/-!
Contract: what a rate limiter tells of the messages that it refuses.

Owns: requests to a limiter one after another, and the rulings on the messages
among them; that every refused message is in one report or still counted in the
open window; and that a category is judged as if there were no other.

Times need not be in order here.

Does **not** own: how many messages are let through (`Proofs.Bursts`).
-/

set_option autoImplicit false

namespace LynxSuzy.Journal

inductive Request where
  /-- Decide about a message. -/
  | judge (category : Category) (now : Time)
  /-- Set the budget. -/
  | setRate (perSecond : Nat)

/-- Whether a request can bear on the messages of a category. -/
def Request.concerns (category : Category) : Request → Bool
  | .judge other _ => other == category
  | .setRate _ => true

/-- What was decided about a message, and when. -/
structure Ruling where
  category : Category
  now : Time
  verdict : Verdict

namespace Ruling

def about (category : Category) (rulings : List Ruling) : List Ruling :=
  rulings.filter fun ruling => ruling.category == category

def refusals (rulings : List Ruling) : Nat :=
  rulings.countP fun ruling => !ruling.verdict.admitted

def reports (rulings : List Ruling) : List Nat :=
  rulings.filterMap fun ruling => ruling.verdict.reported

theorem refusals_cons (ruling : Ruling) (rulings : List Ruling) :
    refusals (ruling :: rulings)
      = (if ruling.verdict.admitted then 0 else 1) + refusals rulings := by
  rw [refusals, List.countP_cons, Nat.add_comm]
  cases ruling.verdict.admitted <;> rfl

theorem sum_reports_cons (ruling : Ruling) (rulings : List Ruling) :
    (reports (ruling :: rulings)).sum
      = ruling.verdict.reported.getD 0 + (reports rulings).sum := by
  rw [reports, List.filterMap_cons]
  cases ruling.verdict.reported with
  | none => exact (Nat.zero_add _).symm
  | some count => exact List.sum_cons

end Ruling

/-! ## One message -/

namespace Window

/-- A window that is closed reports what it has refused, and the next begins with
nothing. -/
theorem refused_current (window : Window) (now : Time) :
    (window.report now).getD 0 + (window.current now).refused = window.refused := by
  unfold report current
  by_cases expired : window.isOver now = true
  · by_cases nothing : window.refused = 0
    · simp [expired, nothing]
    · simp [expired, nothing]
  · simp [expired]

theorem report_ne_zero (window : Window) (now : Time) : window.report now ≠ some 0 := by
  unfold report
  split
  · rename_i due
    rw [ne_eq, Option.some.injEq]
    exact due.2
  · exact Option.some_ne_none 0 ∘ Eq.symm

theorem refused_count (window : Window) (admitted : Bool) :
    (window.count admitted).refused = (if admitted then 0 else 1) + window.refused := by
  cases admitted with
  | true => exact (Nat.zero_add _).symm
  | false => exact Nat.add_comm _ _

end Window

namespace RateLimiter

def fresh (perSecond : Nat) : RateLimiter :=
  ⟨perSecond, PerCategory.const Window.unopened⟩

def perform (limiter : RateLimiter) : Request → RateLimiter
  | .judge category now => (limiter.judge category now).2
  | .setRate perSecond => limiter.withRate perSecond

def after (limiter : RateLimiter) (requests : List Request) : RateLimiter :=
  requests.foldl perform limiter

def rulings (limiter : RateLimiter) : List Request → List Ruling
  | [] => []
  | .judge category now :: rest =>
      let judged := limiter.judge category now
      ⟨category, now, judged.1⟩ :: judged.2.rulings rest
  | .setRate perSecond :: rest => (limiter.withRate perSecond).rulings rest

section Judging

variable (limiter : RateLimiter) (category : Category) (now : Time) (rest : List Request)

theorem about_judge :
    Ruling.about category (limiter.rulings (.judge category now :: rest))
      = ⟨category, now, (limiter.judge category now).1⟩
        :: Ruling.about category ((limiter.judge category now).2.rulings rest) :=
  List.filter_cons_of_pos (beq_self_eq_true category)

theorem about_judge_other {other : Category} (apart : other ≠ category) :
    Ruling.about category (limiter.rulings (.judge other now :: rest))
      = Ruling.about category ((limiter.judge other now).2.rulings rest) :=
  List.filter_cons_of_neg (by rwa [beq_iff_eq])

theorem window_judge :
    (limiter.judge category now).2.windows.get category
      = ((limiter.windows.get category).current now).count
          (limiter.judge category now).1.admitted :=
  PerCategory.get_set_self _ _ _

theorem window_judge_other {other : Category} (apart : other ≠ category) :
    (limiter.judge category now).2.windows.get other = limiter.windows.get other :=
  PerCategory.get_set_ne _ _ apart

/-- **A message that is refused is counted, and a report takes its count away.** -/
theorem refused_judge :
    let judged := limiter.judge category now
    (if judged.1.admitted then 0 else 1) + (limiter.windows.get category).refused
      = judged.1.reported.getD 0 + (judged.2.windows.get category).refused := by
  intro judged
  have closed := (limiter.windows.get category).refused_current now
  have reported : judged.1.reported = (limiter.windows.get category).report now := rfl
  have counted : (judged.2.windows.get category).refused
      = (if judged.1.admitted then 0 else 1)
        + ((limiter.windows.get category).current now).refused := by
    rw [limiter.window_judge category now, Window.refused_count]
  rw [counted, reported]
  omega

end Judging

def Unrefused (limiter : RateLimiter) : Prop :=
  ∀ category, (limiter.windows.get category).refused = 0

/-- A message that is admitted leaves it at that, and nothing is reported with it. -/
theorem Unrefused.judge {limiter : RateLimiter} (unrefused : limiter.Unrefused)
    {category : Category} {now : Time} (admitted : (limiter.judge category now).1.admitted = true) :
    (limiter.judge category now).1 = ⟨true, none⟩
      ∧ (limiter.judge category now).2.Unrefused := by
  have balance := limiter.refused_judge category now
  have unreported : (limiter.judge category now).1.reported ≠ some 0 :=
    Window.report_ne_zero _ now
  dsimp only at balance
  rw [admitted, if_pos rfl, unrefused category] at balance
  constructor
  · generalize (limiter.judge category now).1 = verdict at admitted balance unreported
    obtain ⟨isAdmitted, reported⟩ := verdict
    obtain rfl : isAdmitted = true := admitted
    cases reported with
    | none => rfl
    | some count =>
        obtain rfl : count = 0 := by
          rw [Option.getD_some] at balance
          omega
        exact absurd rfl unreported
  · intro other
    by_cases own : other = category
    · subst own
      omega
    · rw [limiter.window_judge_other category now own]
      exact unrefused other

/-! ## Any number of messages -/

/-- **The counts of a category are in balance**, whatever the limiter begins with. -/
theorem refusals_balance (category : Category) (requests : List Request) :
    ∀ limiter : RateLimiter,
      let own := Ruling.about category (limiter.rulings requests)
      Ruling.refusals own + (limiter.windows.get category).refused
        = (Ruling.reports own).sum
          + ((limiter.after requests).windows.get category).refused := by
  induction requests with
  | nil => exact fun _ => rfl
  | cons request rest recurse =>
      intro limiter
      cases request with
      | setRate perSecond => exact recurse (limiter.withRate perSecond)
      | judge named now =>
          have later := recurse (limiter.judge named now).2
          dsimp only at later ⊢
          by_cases own : named = category
          · subst own
            have first := limiter.refused_judge named now
            rw [about_judge, Ruling.refusals_cons, Ruling.sum_reports_cons]
            change _ = _ + (((limiter.judge named now).2.after rest).windows.get named).refused
            dsimp only at first ⊢
            omega
          · rw [limiter.about_judge_other category now rest own]
            rw [limiter.window_judge_other named now (Ne.symm own)] at later
            exact later

theorem reported_ne_zero (requests : List Request) :
    ∀ (limiter : RateLimiter), ∀ ruling ∈ limiter.rulings requests,
      ruling.verdict.reported ≠ some 0 := by
  induction requests with
  | nil => exact fun _ _ among => absurd among List.not_mem_nil
  | cons request rest recurse =>
      intro limiter
      cases request with
      | setRate perSecond => exact recurse (limiter.withRate perSecond)
      | judge category now =>
          rw [rulings, List.forall_mem_cons]
          exact ⟨Window.report_ne_zero _ now, recurse _⟩

/-! ## One category among others -/

/-- Two limiters that cannot be told apart by the messages of a category. -/
structure Alike (category : Category) (first second : RateLimiter) : Prop where
  perSecond : first.perSecond = second.perSecond
  window : first.windows.get category = second.windows.get category

section Alike

variable {category : Category} {first second : RateLimiter}

theorem Alike.verdict (alike : Alike category first second) (now : Time) :
    (first.judge category now).1 = (second.judge category now).1 := by
  simp only [judge, alike.perSecond, alike.window]

theorem Alike.judge (alike : Alike category first second) (now : Time) :
    Alike category (first.judge category now).2 (second.judge category now).2 where
  perSecond := alike.perSecond
  window := by rw [window_judge, window_judge, alike.verdict now, alike.window]

theorem Alike.judge_other (alike : Alike category first second) {other : Category}
    (apart : other ≠ category) (now : Time) : Alike category (first.judge other now).2 second where
  perSecond := alike.perSecond
  window := (first.window_judge_other other now apart.symm).trans alike.window

theorem Alike.withRate (alike : Alike category first second) (perSecond : Nat) :
    Alike category (first.withRate perSecond) (second.withRate perSecond) where
  perSecond := rfl
  window := alike.window

end Alike

/-- **The messages of other categories can be left out.** -/
theorem rulings_about (category : Category) (requests : List Request) :
    ∀ {first second : RateLimiter}, Alike category first second →
      Ruling.about category (first.rulings requests)
        = second.rulings (requests.filter (Request.concerns category)) := by
  induction requests with
  | nil => exact fun _ => rfl
  | cons request rest recurse =>
      intro first second alike
      cases request with
      | setRate perSecond =>
          rw [List.filter_cons_of_pos rfl]
          exact recurse (alike.withRate perSecond)
      | judge named now =>
          by_cases own : named = category
          · subst own
            have concerned : Request.concerns named (.judge named now) = true :=
              beq_self_eq_true named
            rw [List.filter_cons_of_pos concerned, about_judge, recurse (alike.judge now),
              alike.verdict now]
            rfl
          · have others : ¬Request.concerns category (.judge named now) = true := by
              rwa [Request.concerns, beq_iff_eq]
            rw [List.filter_cons_of_neg others, first.about_judge_other category now rest own]
            exact recurse (alike.judge_other own now)

/-- **Every refused message is accounted for, category by category.** Whatever a
limiter that no message has come to is asked, at whatever times: the messages of a
category that were refused are those in the reports on it and those counted in its
current window; no report is of nothing; and the rulings on the category are those
that its own messages and the changes of the budget would have got alone. -/
theorem refusals_are_accounted (perSecond : Nat) (requests : List Request)
    (category : Category) :
    let limiter := fresh perSecond
    let own := Ruling.about category (limiter.rulings requests)
    Ruling.refusals own
        = (Ruling.reports own).sum + ((limiter.after requests).windows.get category).refused
      ∧ 0 ∉ Ruling.reports own
      ∧ own = limiter.rulings (requests.filter (Request.concerns category)) := by
  intro limiter own
  refine ⟨?_, ?_, rulings_about category requests ⟨rfl, rfl⟩⟩
  · have balance := refusals_balance category requests limiter
    have nothing : (limiter.windows.get category).refused = 0 := by
      rw [show limiter.windows.get category = Window.unopened from PerCategory.get_const _ _]
      rfl
    rw [nothing] at balance
    exact balance
  · intro reported
    obtain ⟨ruling, among, zero⟩ := List.mem_filterMap.1 reported
    exact reported_ne_zero requests limiter ruling (List.mem_filter.1 among).1 zero

end RateLimiter

end LynxSuzy.Journal
