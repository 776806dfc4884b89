import LynxSuzy.Text.Blank
import LynxSuzy.Text.Quoted

/-!
Contract: how much a message matters and which part of the console it is from.

Owns: the levels in order, their names and the reading of a level's name, the
categories, and a value for each category.

Does **not** own: which messages are kept (`Journal.Thresholds`).
-/

set_option autoImplicit false

namespace LynxSuzy.Journal

/-- The level of a message, or the threshold of a category. -/
inductive Level where
  | off
  | error
  | warn
  | info
  | debug
  | trace
  deriving DecidableEq, Repr

namespace Level

/-- The place of a level in the order from silent to verbose. -/
def rank : Level → Nat
  | .off => 0
  | .error => 1
  | .warn => 2
  | .info => 3
  | .debug => 4
  | .trace => 5

def order (first second : Level) : Ordering :=
  compare first.rank second.rank

def name : Level → String
  | .off => "Off"
  | .error => "Error"
  | .warn => "Warn"
  | .info => "Info"
  | .debug => "Debug"
  | .trace => "Trace"

def ofWord? : String → Option Level
  | "off" | "none" | "0" => some .off
  | "error" | "err" | "1" => some .error
  | "warn" | "warning" | "2" => some .warn
  | "info" | "3" => some .info
  | "debug" | "4" => some .debug
  | "trace" | "5" => some .trace
  | _ => none

structure ParseError where
  text : String
  deriving DecidableEq

/-- The message for a text that names no level, which quotes it as it came. -/
def ParseError.message (error : ParseError) : String :=
  "unknown log level: " ++ Text.quote error.text

/-- Read a level's name. Blanks around it and the case of ASCII letters do not
count. -/
def parse (text : String) : Except ParseError Level :=
  match ofWord? ((Text.trim text).map Char.toLower) with
  | some level => .ok level
  | none => .error ⟨text⟩

end Level

/-- The part of the console that a message is from. -/
inductive Category where
  /-- The processor and its stalls. -/
  | cpu
  /-- The memory bus. -/
  | bus
  /-- Sprite chains, descriptors and drawing. -/
  | sprites
  /-- The multiply and divide unit. -/
  | math
  /-- Joystick, switches and cartridge reads. -/
  | input
  /-- Registers that do nothing. -/
  | stubs
  deriving DecidableEq, Repr

namespace Category

/-- Every category, in the order in which hosts list them. -/
def all : List Category := [.cpu, .bus, .sprites, .math, .input, .stubs]

def index : Category → Fin 6
  | .cpu => 0
  | .bus => 1
  | .sprites => 2
  | .math => 3
  | .input => 4
  | .stubs => 5

def name : Category → String
  | .cpu => "CPU"
  | .bus => "Bus"
  | .sprites => "Sprites"
  | .math => "Math"
  | .input => "Input"
  | .stubs => "Stubs"

theorem index_injective {first second : Category} (same : first.index = second.index) :
    first = second := by
  cases first <;> cases second <;> first | rfl | exact absurd same (by decide)

end Category

structure PerCategory (α : Type) where
  values : Vector α 6
  deriving DecidableEq

namespace PerCategory

variable {α : Type}

def const (value : α) : PerCategory α :=
  ⟨Vector.replicate 6 value⟩

def get (table : PerCategory α) (category : Category) : α :=
  table.values[category.index]

def set (table : PerCategory α) (category : Category) (value : α) : PerCategory α :=
  ⟨table.values.set category.index value⟩

@[simp] theorem get_const (value : α) (category : Category) :
    (const value).get category = value := by
  simp [get, const]

@[simp] theorem get_set_self (table : PerCategory α) (category : Category) (value : α) :
    (table.set category value).get category = value := by
  simp [get, set]

theorem get_set_ne (table : PerCategory α) {category other : Category} (value : α)
    (apart : other ≠ category) : (table.set category value).get other = table.get other := by
  have distinct : category.index.val ≠ other.index.val :=
    fun same => apart (Category.index_injective (Fin.ext same.symm))
  simp [get, set, distinct]

end PerCategory

end LynxSuzy.Journal
