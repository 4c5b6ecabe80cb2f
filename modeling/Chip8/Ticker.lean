import Chip8.Decimal.Binary64
import Chip8.Decimal.Shortest

/-!
The ticker: it posts one tick each period until it is told to stop.
-/

namespace Chip8

/-- A rate in ticks a second. -/
inductive Rate where
  | whole (value : Int)
  | real (value : Float)

namespace Rate

def shown : Rate → String
  | .whole value => toString value
  | .real value => Shortest.render value

def toFloat : Rate → Float
  | .whole value => Binary64.ofInt value
  | .real value => value

/-- Whether no ticker can have the rate. -/
def isTooLow : Rate → Bool
  | .whole value => value ≤ 0
  | .real value => value ≤ 0

end Rate

/-- Whether a rate lies past the numbers that a period is computed with. -/
def Rate.isTooHigh : Rate → Bool
  | .whole value => Binary64.isTooLarge value
  | .real _ => false

/-- Why there is no ticker of a rate. -/
inductive RateRefusal where
  | tooLow (rate : Rate)
  | tooHigh

/-- The complaint about a rate, where there is one to show. -/
def RateRefusal.message? : RateRefusal → Option String
  | .tooLow rate => some ("Timer rate must be positive, got " ++ rate.shown)
  | .tooHigh => none

/-- A ticker by its period in seconds. -/
structure Ticker where
  interval : Float

structure Ticker.Record where
  /-- The ticks posted. -/
  events : List Nat
  /-- How many periods it waited for, the last one cut short. -/
  waits : Nat
deriving DecidableEq, Repr

namespace Ticker

def threadName : String := "chip8-timer"

/-- The ticker of a rate, or why there is none. -/
def ofRate (rate : Rate) : Except RateRefusal Ticker :=
  if rate.isTooLow then .error (.tooLow rate)
  else if rate.isTooHigh then .error .tooHigh
  else .ok ⟨1 / rate.toFloat⟩

/-- Wait period after period; each wait says whether it was cut short by the
order to stop. -/
def post : List Bool → Record
  | [] => ⟨[], 0⟩
  | true :: _ => ⟨[], 1⟩
  | false :: rest =>
      let later := post rest
      ⟨1 :: later.events, later.waits + 1⟩

/-- What a ticker does in a row of waits.  One whose period is zero has no rate
and does not run. -/
def run? (ticker : Ticker) (waits : List Bool) : Option Record :=
  if ticker.interval == 0 then none else some (post waits)

end Ticker
end Chip8
