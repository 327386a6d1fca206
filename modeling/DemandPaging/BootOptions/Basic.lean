import DemandPaging.Replacement.Standard
import DemandPaging.BootOptions.Blank
import DemandPaging.BootOptions.Decimal

/-!
The options of the virtual memory on the boot line: `key=value` tokens between blanks. Tokens
with other keys belong to somebody else and are skipped; of the tokens with one key the last
counts.
-/
namespace DemandPaging

/-- User frames if the boot line names no number. -/
def defaultFrames : Nat := 256

/-- The stack limit in KiB if the boot line names none. -/
def defaultStackKib : Nat := 1024

structure BootOptions where
  /-- The device to swap to; the first swap device if it is `none`. -/
  swapDevice : Option String
  userFrames : Nat
  placement : PlacementName
  replacement : ReplacementName
  /-- In bytes. -/
  stackLimit : Nat
deriving DecidableEq, Repr

inductive OptionKey where
  | swap
  | frames
  | placement
  | evict
  | stack
deriving DecidableEq, Repr

namespace OptionKey

def name : OptionKey → String
  | swap => "swap"
  | frames => "frames"
  | placement => "placement"
  | evict => "evict"
  | stack => "stack"

def all : List OptionKey := [swap, frames, placement, evict, stack]

def ofName? (name : String) : Option OptionKey := all.find? (·.name == name)

end OptionKey

inductive OptionError where
  /-- The value of a known option is not one that it takes. -/
  | invalidValue (key : OptionKey)
deriving DecidableEq, Repr

namespace OptionError

def label : OptionError → String
  | invalidValue key => "InvalidValue(\"" ++ key.name ++ "\")"

def message : OptionError → String
  | invalidValue key => "invalid value for \x60" ++ key.name ++ "\x60"

end OptionError

/-- What one token sets. -/
inductive Setting where
  | swapDevice (name : String)
  | userFrames (count : Nat)
  | placement (name : PlacementName)
  | replacement (name : ReplacementName)
  | stackLimit (bytes : Nat)
deriving DecidableEq, Repr

namespace Setting

/-- The name of an option, in lowercase ASCII letters, with the `=` behind it. -/
def nameParser : Parser (List Char) :=
  (Parser.run fun c => 'a' ≤ c && c ≤ 'z').endedBy (.tag ['='])

/-- A number of frames that a pool can have, and at least one. -/
def framesParser : Parser Nat :=
  Decimal.number.verify fun count => 1 ≤ count && count ≤ frameLimit

def placementParser : Parser PlacementName :=
  .either ((Parser.tag "next-fit".toList).value .nextFit)
    ((Parser.tag "first-fit".toList).value .firstFit)

def replacementParser : Parser ReplacementName :=
  .either ((Parser.tag "fifo".toList).value .fifo) ((Parser.tag "clock".toList).value .clock)

/-- A size in KiB, read as the bytes that it comes to if they can be counted in 64 bits. -/
def sizeParser : Parser Nat :=
  Decimal.number.mapOption fun count =>
    if count * kib < 0x10000000000000000 then some (count * kib) else none

/-- A token as the name in front of its first `=` and the text behind it. -/
def split? (token : List Char) : Option (String × List Char) :=
  (nameParser token).map fun (name, value) => (String.ofList name, value)

/-- The setting that `value` stands for as the value of `key`. -/
def ofValue? (key : OptionKey) (value : List Char) : Option Setting :=
  match key with
  | .swap => if value.isEmpty then none else some (swapDevice (String.ofList value))
  | .frames => (framesParser.whole value).map userFrames
  | .placement => (placementParser.whole value).map placement
  | .evict => (replacementParser.whole value).map replacement
  | .stack => (sizeParser.whole value).map stackLimit

/-- What a token sets, `none` for one that is not an option of the virtual memory. -/
def ofToken? (token : List Char) : Option (Except OptionError Setting) := do
  let (name, value) ← split? token
  let key ← OptionKey.ofName? name
  match ofValue? key value with
  | some setting => some (.ok setting)
  | none => some (.error (.invalidValue key))

end Setting

namespace BootOptions

def default : BootOptions where
  swapDevice := none
  userFrames := defaultFrames
  placement := .nextFit
  replacement := .clock
  stackLimit := defaultStackKib * kib

def apply (options : BootOptions) : Setting → BootOptions
  | .swapDevice name => { options with swapDevice := some name }
  | .userFrames count => { options with userFrames := count }
  | .placement name => { options with placement := name }
  | .replacement name => { options with replacement := name }
  | .stackLimit bytes => { options with stackLimit := bytes }

/-- Reads a boot line from left to right; the first bad value ends it. -/
def parse (line : String) : Except OptionError BootOptions :=
  ((splitBlank line.toList).filterMap Setting.ofToken?).foldlM
    (fun options setting => options.apply <$> setting) default

end BootOptions

end DemandPaging
