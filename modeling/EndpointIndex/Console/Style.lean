import EndpointIndex.Text.Blank
import EndpointIndex.Text.Case
import EndpointIndex.Text.Numeral

/-!
# Styles

A style is described by words: attributes such as `bold` or `not italic`, a color, `on` and a color
for the background, `link` and an address. Two descriptions of one style have the same normal form:
the attributes in a fixed order under their long names, then the color, the background and the link.
-/

namespace EndpointIndex.Console

/-- Why words describe no style. -/
inductive StyleError where
  /-- A word that is no attribute and no color, or that something should follow. -/
  | unknown
  /-- A component of a color that is no number. -/
  | notNumber
  deriving DecidableEq, Repr

/-! ## Colors -/

namespace Color

def nameList : String :=
  "default black red green yellow blue magenta cyan white bright_black bright_red bright_green
   bright_yellow bright_blue bright_magenta bright_cyan bright_white grey0 gray0 navy_blue
   dark_blue blue3 blue1 dark_green deep_sky_blue4 dodger_blue3 dodger_blue2 green4 spring_green4
   turquoise4 deep_sky_blue3 dodger_blue1 green3 spring_green3 dark_cyan light_sea_green
   deep_sky_blue2 deep_sky_blue1 spring_green2 cyan3 dark_turquoise turquoise2 green1
   spring_green1 medium_spring_green cyan2 cyan1 dark_red deep_pink4 purple4 purple3 blue_violet
   orange4 grey37 gray37 medium_purple4 slate_blue3 royal_blue1 chartreuse4 dark_sea_green4
   pale_turquoise4 steel_blue steel_blue3 cornflower_blue chartreuse3 cadet_blue sky_blue3
   steel_blue1 pale_green3 sea_green3 aquamarine3 medium_turquoise chartreuse2 sea_green2
   sea_green1 aquamarine1 dark_slate_gray2 dark_magenta dark_violet purple light_pink4 plum4
   medium_purple3 slate_blue1 yellow4 wheat4 grey53 gray53 light_slate_grey light_slate_gray
   medium_purple light_slate_blue dark_olive_green3 dark_sea_green light_sky_blue3 sky_blue2
   dark_sea_green3 dark_slate_gray3 sky_blue1 chartreuse1 light_green pale_green1
   dark_slate_gray1 red3 medium_violet_red magenta3 dark_orange3 indian_red hot_pink3
   medium_orchid3 medium_orchid medium_purple2 dark_goldenrod light_salmon3 rosy_brown grey63
   gray63 medium_purple1 gold3 dark_khaki navajo_white3 grey69 gray69 light_steel_blue3
   light_steel_blue yellow3 dark_sea_green2 light_cyan3 light_sky_blue1 green_yellow
   dark_olive_green2 dark_sea_green1 pale_turquoise1 deep_pink3 magenta2 hot_pink2 orchid
   medium_orchid1 orange3 light_pink3 pink3 plum3 violet light_goldenrod3 tan misty_rose3
   thistle3 plum2 khaki3 light_goldenrod2 light_yellow3 grey84 gray84 light_steel_blue1 yellow2
   dark_olive_green1 honeydew2 light_cyan1 red1 deep_pink2 deep_pink1 magenta1 orange_red1
   indian_red1 hot_pink dark_orange salmon1 light_coral pale_violet_red1 orchid2 orchid1 orange1
   sandy_brown light_salmon1 light_pink1 pink1 plum1 gold1 navajo_white1 misty_rose1 thistle1
   yellow1 light_goldenrod1 khaki1 wheat1 cornsilk1 grey100 gray100 grey3 gray3 grey7 gray7
   grey11 gray11 grey15 gray15 grey19 gray19 grey23 gray23 grey27 gray27 grey30 gray30 grey35
   gray35 grey39 gray39 grey42 gray42 grey46 gray46 grey50 gray50 grey54 gray54 grey58 gray58
   grey62 gray62 grey66 gray66 grey70 gray70 grey74 gray74 grey78 gray78 grey82 gray82 grey85
   gray85 grey89 gray89 grey93 gray93"

/-- The colors that have a name. -/
def names : List String := (Text.words nameList.toList).map String.ofList

def isHex (c : Char) : Bool := c.isDigit || ('a' ≤ c && c ≤ 'f')

/-- What stands between a start of a text and a closing parenthesis at its end. -/
def inside? (start : String) (s : List Char) : Option (List Char) :=
  if start.toList.isPrefixOf s && s.getLast? = some ')' && start.length < s.length then
    some (s.drop start.length).dropLast
  else none

/-- The stretches between commas; `part` holds the current one in reverse. -/
def componentsAfter (part : List Char) : List Char → List (List Char)
  | [] => [part.reverse]
  | c :: r => if c = ',' then part.reverse :: componentsAfter [] r else componentsAfter (c :: part) r

def component (s : List Char) : Except StyleError Nat :=
  match Text.digits? 10 s with
  | some n => if Text.maxIntDigits < s.length then .error .notNumber else .ok n
  | none => .error .notNumber

/-- Three numbers up to 255, with commas between them. -/
def checkComponents (s : List Char) : Except StyleError Unit :=
  match componentsAfter [] s with
  | [red, green, blue] => do
    let r ← component red
    let g ← component green
    let b ← component blue
    if r ≤ 255 && g ≤ 255 && b ≤ 255 then .ok () else .error .unknown
  | _ => .error .unknown

/-- The name of a color in lower case, if it is one: a known name, `#` and six hexadecimal digits,
`color(n)` with a number up to 255, or `rgb(r,g,b)`. -/
def check (word : List Char) : Except StyleError String :=
  let s := Text.lowerChars word
  let name := String.ofList s
  if names.contains name then .ok name
  else if s.length = 7 && s.head? = some '#' && (s.drop 1).all isHex then .ok name
  else
    match inside? "color(" s, inside? "rgb(" s with
    | some digits, _ =>
      if 0 < digits.length && digits.length ≤ 3 && digits.all Char.isDigit
          && (Text.digits? 10 digits).any (· ≤ 255) then .ok name
      else .error .unknown
    | none, some parts =>
      if !parts.isEmpty && parts.all (fun c => (Text.decimalValue? c).isSome || c = ',') then
        (checkComponents parts).map fun _ => name
      else .error .unknown
    | none, none => .error .unknown

end Color

/-! ## Descriptions -/

structure Style where
  /-- The attributes that are set on or off, by their long names. -/
  attributes : List (String × Bool)
  color : Option String
  background : Option String
  link : Option String
  deriving DecidableEq, Repr

namespace Style

def plain : Style := ⟨[], none, none, none⟩

/-- The attributes in their order, each with its short names. -/
def attributeNames : List (String × List String) :=
  [("bold", ["b"]), ("dim", ["d"]), ("italic", ["i"]), ("underline", ["u"]), ("blink", []),
   ("blink2", []), ("reverse", ["r"]), ("conceal", ["c"]), ("strike", ["s"]), ("underline2", ["uu"]),
   ("frame", []), ("encircle", []), ("overline", ["o"])]

/-- The long name of an attribute. -/
def attribute? (word : String) : Option String :=
  (attributeNames.find? fun a => a.1 == word || a.2.contains word).map Prod.fst

def setAttribute (s : Style) (name : String) (on : Bool) : Style :=
  { s with attributes := (name, on) :: s.attributes.filter (·.1 ≠ name) }

/-- The style that words describe, after those that described `s`. The case of words does not matter,
except for an attribute after `not` and an address. -/
def read (s : Style) : List (List Char) → Except StyleError Style
  | [] => .ok s
  | [w] =>
    let word := String.ofList (Text.lowerChars w)
    if word == "on" || word == "not" || word == "link" then .error .unknown
    else
      match attribute? word with
      | some name => .ok (s.setAttribute name true)
      | none => (Color.check w).map fun c => { s with color := some c }
  | w :: next :: rest =>
    let word := String.ofList (Text.lowerChars w)
    if word == "on" then
      match Color.check next with
      | .ok c => read { s with background := some c } rest
      | .error e => .error e
    else if word == "not" then
      match attribute? (String.ofList next) with
      | some name => read (s.setAttribute name false) rest
      | none => .error .unknown
    else if word == "link" then read { s with link := some (String.ofList next) } rest
    else
      match attribute? word with
      | some name => read (s.setAttribute name true) (next :: rest)
      | none =>
        match Color.check w with
        | .ok c => read { s with color := some c } (next :: rest)
        | .error e => .error e

/-- The words of the normal form. -/
def describe (s : Style) : List String :=
  (attributeNames.flatMap fun a =>
      match s.attributes.lookup a.1 with
      | some true => [a.1]
      | some false => ["not", a.1]
      | none => [])
    ++ s.color.toList
    ++ (s.background.map fun c => ["on", c]).getD []
    ++ (s.link.map fun l => ["link", l]).getD []

/-- The normal form of a style that sets nothing. -/
def nothing : String := "none"

def render (s : Style) : String :=
  match s.describe with
  | [] => nothing
  | ws => String.intercalate " " ws

/-- The style that a text describes. -/
def parse (text : List Char) : Except StyleError Style :=
  if String.ofList (Text.trim text) == nothing then .ok plain else plain.read (Text.words text)

/-- The name under which a style is known: its normal form, or the text itself in lower case where it
describes no style. -/
def nameOf (text : List Char) : Except StyleError String :=
  match parse text with
  | .ok s => .ok s.render
  | .error .unknown => .ok (String.ofList (Text.lowerChars (Text.trim text)))
  | .error .notNumber => .error .notNumber

end Style

end EndpointIndex.Console
