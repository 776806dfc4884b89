import LynxSuzy.Journal.Level

/-!
Contract: at most so many messages a second from each category.

Owns: the window of each category and the verdict on each message. A window
opens with the first message after the last one has run out, and stays open for
a second. Messages over the budget are refused and counted; the count is
reported with the verdict on the message that opens the next window.

Does **not** own: what is printed for a verdict (`Journal`).
-/

set_option autoImplicit false

namespace LynxSuzy.Journal

/-- Nanoseconds since some start. -/
abbrev Time := Nat

/-- One second. -/
def second : Time := 1000000000

/-- What has been admitted and refused since a window opened. -/
structure Window where
  /-- When it opened, if any has opened yet. -/
  opened : Option Time
  admitted : Nat
  refused : Nat
  deriving DecidableEq

namespace Window

/-- Before the first message. -/
def unopened : Window := ⟨none, 0, 0⟩

/-- Whether a message at a time needs a new window. A time before the window
opened counts as no time elapsed. -/
def isOver (window : Window) (now : Time) : Bool :=
  match window.opened with
  | none => true
  | some opened => decide (second ≤ now - opened)

/-- The window that a message at a time falls into. -/
def current (window : Window) (now : Time) : Window :=
  if window.isOver now then ⟨some now, 0, 0⟩ else window

/-- The count that a message at a time reports: what was refused in the window
it closes, if anything was. -/
def report (window : Window) (now : Time) : Option Nat :=
  if window.isOver now ∧ window.refused ≠ 0 then some window.refused else none

def hasRoom (window : Window) (budget : Nat) : Bool :=
  decide (window.admitted < budget)

def count (window : Window) (isAdmitted : Bool) : Window :=
  if isAdmitted then { window with admitted := window.admitted + 1 }
  else { window with refused := window.refused + 1 }

end Window

/-- What is decided about one message. -/
structure Verdict where
  admitted : Bool
  /-- Messages refused in the window that this message closed. -/
  reported : Option Nat
  deriving DecidableEq

/-- The budget and the window of each category. -/
structure RateLimiter where
  perSecond : Nat
  windows : PerCategory Window
  deriving DecidableEq

namespace RateLimiter

/-- Sixty messages a second, none so far. -/
def initial : RateLimiter := ⟨60, PerCategory.const Window.unopened⟩

/-- The limiter with another budget; open windows stay open. -/
def withRate (limiter : RateLimiter) (perSecond : Nat) : RateLimiter :=
  { limiter with perSecond := perSecond }

/-- Decide about a message of a category at a time. -/
def judge (limiter : RateLimiter) (category : Category) (now : Time) : Verdict × RateLimiter :=
  let before := limiter.windows.get category
  let window := before.current now
  let admitted := window.hasRoom limiter.perSecond
  (⟨admitted, before.report now⟩,
    { limiter with windows := limiter.windows.set category (window.count admitted) })

end RateLimiter

end LynxSuzy.Journal
