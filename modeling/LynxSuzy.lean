import LynxSuzy.Word
import LynxSuzy.Memory
import LynxSuzy.Memory.Metered
import LynxSuzy.Screen
import LynxSuzy.Collisions
import LynxSuzy.Brush
import LynxSuzy.Line.Bits
import LynxSuzy.Line.Decoder
import LynxSuzy.Sprite.Control
import LynxSuzy.Sprite.Quadrant
import LynxSuzy.Sprite.Descriptor
import LynxSuzy.Sprite.Data
import LynxSuzy.Sprite.Scene
import LynxSuzy.Sprite.Row
import LynxSuzy.Sprite.Pass
import LynxSuzy.Sprite.Drawing
import LynxSuzy.Arithmetic
import LynxSuzy.Chip.Registers
import LynxSuzy.Chip.Address
import LynxSuzy.Chip.Access
import LynxSuzy.Chip.Chain
import LynxSuzy.Chip
import LynxSuzy.Cartridge
import LynxSuzy.Cartridge.Socket
import LynxSuzy.Text.Ranges
import LynxSuzy.Text.Blank
import LynxSuzy.Text.Printable
import LynxSuzy.Text.Extending
import LynxSuzy.Text.Hexadecimal
import LynxSuzy.Text.Quoted
import LynxSuzy.Journal.Level
import LynxSuzy.Journal.Thresholds
import LynxSuzy.Journal.RateLimiter
import LynxSuzy.Journal.Shelf
import LynxSuzy.Journal.Writer
import LynxSuzy.Journal
import LynxSuzy.Notice
import LynxSuzy.Board
import LynxSuzy.Picture
import LynxSuzy.Console
import LynxSuzy.Json
import LynxSuzy.Json.Codec
import LynxSuzy.Console.State
import LynxSuzy.Proofs.Painting
import LynxSuzy.Proofs.Reading
import LynxSuzy.Proofs.Trace
import LynxSuzy.Proofs.Script
import LynxSuzy.Proofs.Consumption
import LynxSuzy.Proofs.Bits
import LynxSuzy.Proofs.BitString
import LynxSuzy.Proofs.Decoding
import LynxSuzy.Proofs.Exhaustion
import LynxSuzy.Proofs.Coverage
import LynxSuzy.Proofs.Walk
import LynxSuzy.Proofs.Costs
import LynxSuzy.Proofs.Ranges
import LynxSuzy.Proofs.Bounds
import LynxSuzy.Proofs.Scaling
import LynxSuzy.Proofs.Superclipping
import LynxSuzy.Proofs.Footprint
import LynxSuzy.Proofs.Layout
import LynxSuzy.Proofs.Charging
import LynxSuzy.Proofs.Resuming
import LynxSuzy.Proofs.Blindness
import LynxSuzy.Proofs.Nibbles
import LynxSuzy.Proofs.Display
import LynxSuzy.Proofs.Overlap
import LynxSuzy.Proofs.Visits
import LynxSuzy.Proofs.Redrawing
import LynxSuzy.Proofs.Meetings
import LynxSuzy.Proofs.Independence
import LynxSuzy.Proofs.Commuting
import LynxSuzy.Proofs.Records
import LynxSuzy.Proofs.Restoring
import LynxSuzy.Proofs.Saving
import LynxSuzy.Proofs.Itinerary
import LynxSuzy.Proofs.Billing
import LynxSuzy.Proofs.Histories
import LynxSuzy.Proofs.Stalls
import LynxSuzy.Proofs.Rest
import LynxSuzy.Proofs.Slots
import LynxSuzy.Proofs.Maxima
import LynxSuzy.Proofs.Passes
import LynxSuzy.Proofs.Growth
import LynxSuzy.Proofs.Shear
import LynxSuzy.Proofs.Operands
import LynxSuzy.Proofs.Products
import LynxSuzy.Proofs.Quotients
import LynxSuzy.Proofs.Fields
import LynxSuzy.Proofs.Mirroring
import LynxSuzy.Proofs.Bursts
import LynxSuzy.Proofs.Writers
import LynxSuzy.Proofs.Routing
import LynxSuzy.Proofs.Images
import LynxSuzy.Proofs.Mounting
import LynxSuzy.Proofs.Streaming
