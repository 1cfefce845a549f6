/-!
# Throttles

A warning that could repeat with every notification is let through at most `cap` times in a
window of time. A throttle counts the requests since its window began; a request after the window
has run out begins a new one. A bank keeps one throttle per category, made when its category is
first used, so that one category never uses up the share of another. Times are readings of a
clock in milliseconds, given by the caller.
-/

namespace MeterBridge

/-- Limits how often something is let through in a window of time. -/
structure Throttle where
  /-- The length of a window in milliseconds. -/
  window : Nat
  /-- How many requests a window lets through. -/
  cap : Nat
  /-- The requests made since the window began. -/
  count : Nat
  /-- When the window began. -/
  start : Nat
  deriving DecidableEq, Repr

namespace Throttle

/-- A throttle whose first window begins now. -/
def new (window cap now : Nat) : Throttle := { window, cap, count := 0, start := now }

/-- A new window begins now. -/
def reset (t : Throttle) (now : Nat) : Throttle := { t with count := 0, start := now }

/-- The window has run out. -/
def hasExpired (t : Throttle) (now : Nat) : Bool := t.window < now - t.start

/-- A request: whether it is let through, and the throttle afterwards. -/
def allow (t : Throttle) (now : Nat) : Bool × Throttle :=
  let t := if t.hasExpired now then t.reset now else t
  (t.count < t.cap, { t with count := t.count + 1 })

/-- Throttles by category, all with one window and one cap. -/
structure Bank (κ : Type) where
  /-- The length of a window in milliseconds. -/
  window : Nat
  /-- How many requests a window lets through. -/
  cap : Nat
  /-- The throttles of the categories used so far. -/
  throttles : List (κ × Throttle)

namespace Bank

variable {κ : Type} [DecidableEq κ]

/-- A bank in which no category has been used. -/
def new (window cap : Nat) : Bank κ := { window, cap, throttles := [] }

/-- The throttle of a category; a new one if the category has not been used. -/
def get (b : Bank κ) (category : κ) (now : Nat) : Throttle :=
  (b.throttles.lookup category).getD (Throttle.new b.window b.cap now)

/-- The bank with another throttle for a category. -/
def set (b : Bank κ) (category : κ) (t : Throttle) : Bank κ :=
  { b with throttles := (category, t) :: b.throttles.filter (·.1 ≠ category) }

/-- A request in a category. -/
def allow (b : Bank κ) (category : κ) (now : Nat) : Bool × Bank κ :=
  let (allowed, t) := (b.get category now).allow now
  (allowed, b.set category t)

/-- A new window begins for a category. -/
def reset (b : Bank κ) (category : κ) (now : Nat) : Bank κ :=
  b.set category ((b.get category now).reset now)

/-- A new window begins for every category used so far. -/
def resetAll (b : Bank κ) (now : Nat) : Bank κ :=
  { b with throttles := b.throttles.map fun (category, t) => (category, t.reset now) }

end Bank

end Throttle

end MeterBridge
