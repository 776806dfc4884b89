import LynxSuzy.Chip
import LynxSuzy.Journal
import LynxSuzy.Text.Hexadecimal

/-!
Contract: what the console has to say about what it does.

Owns: the events worth a message, and the category, level and wording of each.
Events are values: nothing is put in words until a journal keeps it.
-/

set_option autoImplicit false

namespace LynxSuzy

/-- An event that a journal may keep. -/
inductive Notice where
  /-- A cartridge whose first bank has this page size has been mounted. -/
  | cartridgeMounted (pageSize : Nat)
  /-- The processor has been charged. -/
  | stallCharged (cycles : Nat)
  | joystickRead (value : UInt8) (leftHanded : Bool)
  | switchesRead (value : UInt8)
  | cartridgeRead (bank : Nat) (value : UInt8)
  | cartridgeAddressed (bank : Nat) (value : UInt8)
  | unmappedRead (offset : UInt8)
  | unmappedWrite (offset value : UInt8)
  /-- The unit has multiplied and is now in this state. -/
  | multiplied (unit : Arithmetic)
  /-- The unit has divided and is now in this state. -/
  | divided (unit : Arithmetic)
  /-- A start with the bus disabled. -/
  | startIgnored
  | runStarted (address : UInt16)
  | runCapped (limit : Nat) (address : UInt16)
  | runStopped (address : UInt16)
  | runFinished (account : RunAccount)
  | spriteSkipped (address : UInt16)
  /-- A descriptor has been read and left these latches. -/
  | spriteRead (descriptor : Sprite.Descriptor) (latches : Sprite.Latches)
  | quadrantSuperclipped (address : UInt16) (quadrant : Sprite.Quadrant)
  | dataOverrun (address data : UInt16)
  | spriteDrawn (address : UInt16) (pixels : List Nat)
  deriving DecidableEq

namespace Notice

open Journal (Category Level)

/-- The part of the console that the event belongs to. -/
def category : Notice → Category
  | cartridgeMounted _ => .bus
  | stallCharged _ => .cpu
  | joystickRead _ _ | switchesRead _ | cartridgeRead _ _ | cartridgeAddressed _ _ => .input
  | unmappedRead _ | unmappedWrite _ _ => .stubs
  | multiplied _ | divided _ => .math
  | startIgnored | runStarted _ | runCapped _ _ | runStopped _ | runFinished _
  | spriteSkipped _ | spriteRead _ _ | quadrantSuperclipped _ _ | dataOverrun _ _
  | spriteDrawn _ _ => .sprites

/-- How much the event matters. -/
def level : Notice → Level
  | cartridgeMounted _ => .info
  | runCapped _ _ | dataOverrun _ _ => .warn
  | startIgnored | runStarted _ | runStopped _ | runFinished _ => .debug
  | stallCharged _ | joystickRead _ _ | switchesRead _ | cartridgeRead _ _
  | cartridgeAddressed _ _ | unmappedRead _ | unmappedWrite _ _ | multiplied _ | divided _
  | spriteSkipped _ | spriteRead _ _ | quadrantSuperclipped _ _ | spriteDrawn _ _ => .trace

/-- The start of what is said about a sprite. -/
def spriteAt (address : UInt16) : String :=
  "SCB " ++ Text.word address

def bracketed (values : List Nat) : String :=
  "[" ++ String.intercalate ", " (values.map toString) ++ "]"

def productText (unit : Arithmetic) : String :=
  "multiply " ++ Text.word unit.ab ++ " * " ++ Text.word unit.cd ++ " = " ++ Text.long unit.efgh
    ++ " (signed=" ++ toString unit.signed ++ ", jklm=" ++ Text.long unit.jklm ++ ")"

def quotientText (unit : Arithmetic) : String :=
  if unit.np = 0 then "divide " ++ Text.long unit.efgh ++ " by zero"
  else
    "divide " ++ Text.long unit.efgh ++ " / " ++ Text.word unit.np ++ " = "
      ++ Text.long unit.quotient ++ " r " ++ Text.long unit.jklm
      ++ " (signed=" ++ toString unit.signed ++ ")"

def descriptorText (descriptor : Sprite.Descriptor) (latches : Sprite.Latches) : String :=
  spriteAt descriptor.address ++ ": " ++ descriptor.control.kind.name ++ " "
    ++ toString descriptor.control.depth ++ "bpp pos=(" ++ toString (Word.signed latches.hpos)
    ++ "," ++ toString (Word.signed latches.vpos) ++ ") size=" ++ Text.word latches.hsize
    ++ "x" ++ Text.word latches.vsize ++ " data=" ++ Text.word descriptor.data
    ++ " next=" ++ Text.word descriptor.link

def text : Notice → String
  | cartridgeMounted pageSize =>
      "cartridge mounted, page size " ++ toString pageSize ++ " bytes"
  | stallCharged cycles => "CPU charged " ++ toString cycles ++ " stall cycles"
  | joystickRead value leftHanded =>
      "JOYSTICK read " ++ Text.byte value ++ " (lefthand=" ++ toString leftHanded ++ ")"
  | switchesRead value => "SWITCHES read " ++ Text.byte value
  | cartridgeRead bank value =>
      "RCART" ++ toString bank ++ " read " ++ Text.byte value
  | cartridgeAddressed bank value =>
      "RCART" ++ toString bank ++ " address low " ++ Text.byte value
  | unmappedRead offset => "Suzy read from unmapped register FC" ++ Text.byte offset
  | unmappedWrite offset value =>
      "Suzy write " ++ Text.byte value ++ " to read-only or unmapped FC" ++ Text.byte offset
  | multiplied unit => productText unit
  | divided unit => quotientText unit
  | startIgnored => "sprite engine started with bus disabled, ignoring"
  | runStarted address => "sprite chain start at " ++ Text.word address
  | runCapped limit address =>
      "sprite chain hit the " ++ toString limit ++ " sprite limit at " ++ Text.word address
        ++ ", stopping"
  | runStopped address =>
      "sprite chain stopped after " ++ Text.word address ++ " on request"
  | runFinished account =>
      "sprite chain done: " ++ toString account.sprites ++ " sprites, " ++ toString account.pixels
        ++ " pixels, " ++ toString account.accesses ++ " stall cycles"
  | spriteSkipped address => spriteAt address ++ " skipped"
  | spriteRead descriptor latches => descriptorText descriptor latches
  | quadrantSuperclipped address quadrant =>
      spriteAt address ++ ": quadrant " ++ toString quadrant.number ++ " superclipped"
  | dataOverrun address data =>
      spriteAt address ++ ": no end of sprite within " ++ toString Sprite.Cursor.limit
        ++ " bytes of data at " ++ Text.word data ++ ", abandoned"
  | spriteDrawn address pixels =>
      spriteAt address ++ ": drew " ++ bracketed pixels ++ " pixels per quadrant"

end Notice

/-- The lines that thresholds keep of a row of events, in order. -/
def Journal.Thresholds.linesOf (thresholds : Journal.Thresholds) (notices : List Notice) :
    List String :=
  (notices.filter fun notice => thresholds.keeps notice.category notice.level).map
    fun notice => Journal.line notice.category notice.text

def Sprite.Summary.notices (summary : Sprite.Summary) (descriptor : Sprite.Descriptor) :
    List Notice :=
  summary.superclipped.map (Notice.quadrantSuperclipped descriptor.address)
    ++ (if summary.overrun then [.dataOverrun descriptor.address descriptor.data] else [])
    ++ [.spriteDrawn descriptor.address (Sprite.Quadrant.all.map summary.pixels)]

def Chain.Visit.notices (visit : Chain.Visit) : List Notice :=
  match visit.summary with
  | none => [.spriteSkipped visit.descriptor.address]
  | some summary =>
      .spriteRead visit.descriptor visit.latches :: summary.notices visit.descriptor

/-- The event of a walk's end, if it is worth one. -/
def Chain.Exit.notices (exit : Chain.Exit) (budget : Nat) : List Notice :=
  match exit with
  | .ended => []
  | .capped address => [.runCapped budget address]
  | .stopped address => [.runStopped address]

def Run.notices (run : Run) (address : UInt16) (budget : Nat) : List Notice :=
  .runStarted address :: run.visits.flatMap Chain.Visit.notices
    ++ run.exit.notices budget ++ [.runFinished run.account]

/-- The event of loading an operand byte, if it started an operation that left
the unit in this state. -/
def Arithmetic.noticeAfter? (unit : Arithmetic) (operand : Arithmetic.Operand) : Option Notice :=
  operand.starts?.map fun
    | .multiplication => .multiplied unit
    | .division => .divided unit

end LynxSuzy
