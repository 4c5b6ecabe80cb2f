import Chip8.Decimal.Binary64
import Chip8.Screen
import Chip8.Settings

/-!
The picture in the window: lit pixels in the chosen colour, a glow around them
made by blurring, and a background with scan lines.  Intensities are numbers of
32 bits, rounded after every operation.
-/

namespace Chip8

/-- A colour as what intensities are multiplied by.  Its parts may lie outside
what a byte holds. -/
structure Tint where
  red : Float32
  green : Float32
  blue : Float32

/-- A whole number as a part of a tint.  It is rounded to 64 bits first and to 32
bits from there. -/
def Tint.part (value : Int) : Float32 := (Binary64.ofInt value).toFloat32

def Tint.ofParts (red green blue : Int) : Tint :=
  ⟨part red, part green, part blue⟩

/-- The tint with the given parts, unless one of them lies past the numbers of 64
bits. -/
def Tint.ofParts? (red green blue : Int) : Option Tint :=
  if [red, green, blue].any Binary64.isTooLarge then none else some (ofParts red green blue)

def Rgb.tint (color : Rgb) : Tint :=
  .ofParts color.red.toNat color.green.toNat color.blue.toNat

/-- Intensities by rows. -/
abbrev Intensities := Array (Array Float32)

namespace Intensities

/-- The rows with each value replaced by the mean of itself and its neighbours
left and right; the row closes on itself. -/
def blurRow (row : Array Float32) : Array Float32 :=
  let size := row.size
  Array.ofFn fun column : Fin size =>
    (row.getD ((column + size - 1) % size) 0 + row.getD column 0 +
      row.getD ((column + 1) % size) 0) / 3

/-- Each value replaced by the mean of itself and its neighbours above and
below; the columns close on themselves. -/
def blurColumns (rows : Intensities) : Intensities :=
  let size := rows.size
  Array.ofFn fun number : Fin size =>
    let above := rows.getD ((number + size - 1) % size) #[]
    let row := rows.getD number #[]
    let below := rows.getD ((number + 1) % size) #[]
    Array.ofFn fun column : Fin row.size =>
      (above.getD column 0 + row.getD column 0 + below.getD column 0) / 3

/-- Blur along the rows and then along the columns, a number of times. -/
def blur (rows : Intensities) : Nat → Intensities
  | 0 => rows
  | passes + 1 => blur (blurColumns (rows.map blurRow)) passes

/-- Every value repeated over a square. -/
def enlarge (factor : Nat) (rows : Intensities) : Intensities :=
  rows.flatMap fun row =>
    Array.replicate factor (row.flatMap fun value => Array.replicate factor value)

/-- The screen as intensities zero and one. -/
def ofScreen {width height : Nat} (screen : Screen width height) : Intensities :=
  (screen.rows.map fun row =>
    (row.map fun lit => if lit then (1 : Float32) else 0).toArray).toArray

/-- A part of a colour at an intensity: cut to what a byte holds, and the
fraction dropped. -/
def shade (intensity part : Float32) : UInt8 :=
  (intensity * part).toUInt8

/-- A tint at an intensity. -/
def tinted (tint : Tint) (intensity : Float32) : Rgb :=
  ⟨shade intensity tint.red, shade intensity tint.green, shade intensity tint.blue⟩

/-- Every intensity in a tint. -/
def colorize (tint : Tint) (rows : Intensities) : Array (Array Rgb) :=
  rows.map fun row => row.map (tinted tint)

end Intensities

structure Picture where
  width : Nat
  height : Nat
  pixel : Nat → Nat → Rgb

def Rgb.black : Rgb := ⟨0, 0, 0⟩

/-- The picture of rows of pixels, each repeated over a square. -/
def Picture.ofRows (scale : Nat) (width height : Nat) (rows : Array (Array Rgb)) :
    Picture where
  width := width * scale
  height := height * scale
  pixel x y := (rows.getD (y / scale) #[]).getD (x / scale) .black

namespace Glow

/-- How many pixels of the glow a pixel of the screen is wide. -/
def detail : Nat := 4

/-- How often the glow is blurred. -/
def passes : Nat := 2

/-- The strength of the glow: the number nearest to 0.55. -/
def strength : Float32 := Float32.ofBits 0x3F0CCCCD

/-- An intensity between zero and one. -/
def clampUnit (value : Float32) : Float32 :=
  if value < 0 then 0 else if 1 < value then 1 else value

def intensities (screen : Bitmap) : Intensities :=
  let blurred := ((Intensities.ofScreen screen).enlarge detail).blur passes
  blurred.map fun row => row.map fun value => clampUnit (value * strength)

/-- The lit pixels. -/
def base (tint : Tint) (scale : Nat) (screen : Bitmap) : Picture :=
  .ofRows scale screenWidth screenHeight ((Intensities.ofScreen screen).colorize tint)

/-- The glow, four pixels to a pixel of the screen. -/
def halo (tint : Tint) (screen : Bitmap) : Picture :=
  .ofRows 1 (screenWidth * detail) (screenHeight * detail) ((intensities screen).colorize tint)

/-- The background, with every second row lighter. -/
def background (scale : Nat) : Picture where
  width := screenWidth * scale
  height := screenHeight * scale
  pixel _ y := if y % 2 = 0 then ⟨20, 20, 30⟩ else ⟨15, 15, 25⟩

/-- A sum of two parts that stops at the brightest. -/
def addPart (a b : UInt8) : UInt8 :=
  UInt8.ofNat (min 255 (a.toNat + b.toNat))

/-- The glow added to what is there. -/
def addLight (a b : Rgb) : Rgb :=
  ⟨addPart a.red b.red, addPart a.green b.green, addPart a.blue b.blue⟩

/-- The brighter of two colours part by part. -/
def brighter (a b : Rgb) : Rgb :=
  ⟨max a.red b.red, max a.green b.green, max a.blue b.blue⟩

/-- What the window shows of a screen: the glow over the background, and the lit
pixels where they are brighter. -/
def compose (color : Rgb) (scale : Nat) (screen : Bitmap) : Picture :=
  let lit := base color.tint scale screen
  let light := halo color.tint screen
  let behind := background scale
  { width := lit.width
    height := lit.height
    pixel := fun x y =>
      brighter
        (addLight (behind.pixel x y) (light.pixel (x * detail / scale) (y * detail / scale)))
        (lit.pixel x y) }

end Glow
end Chip8
