import MountainRange.Entries
import MountainRange.Text.Lower
import MountainRange.Text.Numeral
import MountainRange.Text.Split
set_option autoImplicit false

/-!
# Styles of text

A style is described by words for colours and attributes.  A display without colours
shows nothing of it, but a tag is closed by any description of the style that opened
it, so each description has a normal form.
-/

namespace MountainRange.Markup

/-! ## Colours -/

/-- The names of colours. -/
def colorNames : String :=
  "black red green yellow blue magenta cyan white bright_black bright_red bright_green
    bright_yellow bright_blue bright_magenta bright_cyan bright_white grey0 gray0 navy_blue
    dark_blue blue3 blue1 dark_green deep_sky_blue4 dodger_blue3 dodger_blue2 green4
    spring_green4 turquoise4 deep_sky_blue3 dodger_blue1 green3 spring_green3 dark_cyan
    light_sea_green deep_sky_blue2 deep_sky_blue1 spring_green2 cyan3 dark_turquoise
    turquoise2 green1 spring_green1 medium_spring_green cyan2 cyan1 dark_red deep_pink4
    purple4 purple3 blue_violet orange4 grey37 gray37 medium_purple4 slate_blue3 royal_blue1
    chartreuse4 dark_sea_green4 pale_turquoise4 steel_blue steel_blue3 cornflower_blue
    chartreuse3 cadet_blue sky_blue3 steel_blue1 pale_green3 sea_green3 aquamarine3
    medium_turquoise chartreuse2 sea_green2 sea_green1 aquamarine1 dark_slate_gray2
    dark_magenta dark_violet purple light_pink4 plum4 medium_purple3 slate_blue1 yellow4
    wheat4 grey53 gray53 light_slate_grey light_slate_gray medium_purple light_slate_blue
    dark_olive_green3 dark_sea_green light_sky_blue3 sky_blue2 dark_sea_green3
    dark_slate_gray3 sky_blue1 chartreuse1 light_green pale_green1 dark_slate_gray1 red3
    medium_violet_red magenta3 dark_orange3 indian_red hot_pink3 medium_orchid3 medium_orchid
    medium_purple2 dark_goldenrod light_salmon3 rosy_brown grey63 gray63 medium_purple1 gold3
    dark_khaki navajo_white3 grey69 gray69 light_steel_blue3 light_steel_blue yellow3
    dark_sea_green2 light_cyan3 light_sky_blue1 green_yellow dark_olive_green2 dark_sea_green1
    pale_turquoise1 deep_pink3 magenta2 hot_pink2 orchid medium_orchid1 orange3 light_pink3
    pink3 plum3 violet light_goldenrod3 tan misty_rose3 thistle3 plum2 khaki3 light_goldenrod2
    light_yellow3 grey84 gray84 light_steel_blue1 yellow2 dark_olive_green1 honeydew2
    light_cyan1 red1 deep_pink2 deep_pink1 magenta1 orange_red1 indian_red1 hot_pink
    dark_orange salmon1 light_coral pale_violet_red1 orchid2 orchid1 orange1 sandy_brown
    light_salmon1 light_pink1 pink1 plum1 gold1 navajo_white1 misty_rose1 thistle1 yellow1
    light_goldenrod1 khaki1 wheat1 cornsilk1 grey100 gray100 grey3 gray3 grey7 gray7 grey11
    gray11 grey15 gray15 grey19 gray19 grey23 gray23 grey27 gray27 grey30 gray30 grey35 gray35
    grey39 gray39 grey42 gray42 grey46 gray46 grey50 gray50 grey54 gray54 grey58 gray58 grey62
    gray62 grey66 gray66 grey70 gray70 grey74 gray74 grey78 gray78 grey82 gray82 grey85 gray85
    grey89 gray89 grey93 gray93"

/-- Greatest part of a colour. -/
def maxColorPart : Int := 255

/-- What stands between an opening and the bracket at the end. -/
def insideCall? (opening : Text) (t : Text) : Option Text :=
  if opening.isPrefixOf t && t.getLast? = some ')' then
    some ((t.drop opening.length).dropLast)
  else none

/-- Whether digits are the number of a colour. -/
def isColorNumber (digits : Text) : Bool :=
  digits.all Letter.isDigit && 0 < digits.length && digits.length ≤ 3 &&
    Text.Numeral.valueOf digits ≤ maxColorPart

/-- Whether a text is a triple of the parts of a colour.  What looks like one may have
parts that are no numerals. -/
def isColorTriple (inside : Text) : Except Text.NumeralError Bool :=
  if inside.isEmpty || !inside.all (fun c => (Text.decimalDigit? c).isSome || c = ',') then
    .ok false
  else
    match Text.splitAt (· = ',') inside with
    | [red, green, blue] => do
        let parts ← [red, green, blue].mapM fun part => Text.readInt part
        return parts.all (· ≤ maxColorPart)
    | _ => .ok false

/-- Whether a word in small letters is a colour: a name, six hexadecimal digits, a number
or a triple of numbers. -/
def isColor (word : Text) : Except Text.NumeralError Bool :=
  if word = "default" || (Text.splitBlanks colorNames).contains word then .ok true
  else
    match word, insideCall? "color(" word, insideCall? "rgb(" word with
    | .char '#' :: digits, _, _ => .ok (digits.length = 6 && digits.all Text.isHexDigit)
    | _, some digits, _ => .ok (isColorNumber digits)
    | _, _, some inside => isColorTriple inside
    | _, _, _ => .ok false

/-! ## Styles -/

/-- The attributes of a style in the order in which they are told. -/
def attributes : List Text :=
  ["bold", "dim", "italic", "underline", "blink", "blink2", "reverse", "conceal", "strike",
   "underline2", "frame", "encircle", "overline"]

/-- The short forms of attributes. -/
def shortAttributes : List (Text × Text) :=
  [("b", "bold"), ("d", "dim"), ("i", "italic"), ("u", "underline"), ("uu", "underline2"),
   ("r", "reverse"), ("c", "conceal"), ("s", "strike"), ("o", "overline")]

/-- The attribute of a word. -/
def attribute? (word : Text) : Option Text :=
  if attributes.contains word then some word else Entries.get? shortAttributes word

/-- A style: the attributes that are set, for or against, two colours and a link. -/
structure Style where
  set : List (Text × Bool) := []
  color : Option Text := none
  background : Option Text := none
  link : Option Text := none
  deriving DecidableEq, Repr

namespace Style

/-- A word in small letters. -/
def small (word : Text) : Text := Text.lower word

/-- The style of a description, behind what was read of it already. -/
def readWords (style : Style) : List Text → Except Text.NumeralError (Option Style)
  | [] => .ok (some style)
  | word :: rest =>
      let word := small word
      if word = "on" then
        match rest with
        | [] => .ok none
        | color :: rest => do
            let color := small color
            if ← isColor color then readWords { style with background := some color } rest
            else return none
      else if word = "not" then
        match rest with
        | [] => .ok none
        | name :: rest =>
            match attribute? name with
            | some name => readWords { style with set := Entries.put style.set name false } rest
            | none => .ok none
      else if word = "link" then
        match rest with
        | [] => .ok none
        | link :: rest => readWords { style with link := some link } rest
      else
        match attribute? word with
        | some name => readWords { style with set := Entries.put style.set name true } rest
        | none => do
            if ← isColor word then readWords { style with color := some word } rest
            else return none

/-- The words for an attribute that is set, for or against. -/
def attributeWords (style : Style) (name : Text) : List Text :=
  match Entries.get? style.set name with
  | none => []
  | some true => [name]
  | some false => ["not", name]

/-- A word with another one in front, if it is there. -/
def introduced (word : Text) : Option Text → List Text
  | none => []
  | some given => [word, given]

/-- The words of a style in their order. -/
def words (style : Style) : List Text :=
  attributes.flatMap style.attributeWords ++ style.color.toList ++
    introduced "on" style.background ++ introduced "link" style.link

/-- The description of a style; one that sets nothing has a word for that. -/
def describe (style : Style) : Text :=
  match style.words with
  | [] => "none"
  | words => Text.join " " words

/-- The normal form of a description.  What describes no style is only written in small
letters. -/
def normalize (description : Text) : Except Text.NumeralError Text := do
  if Text.trim description = "none" then return "none"
  match ← readWords {} (Text.splitBlanks description) with
  | some style => return style.describe
  | none => return small (Text.trim description)

end Style

end MountainRange.Markup
