import BlockCalc.Markup.Colour

/-! # Styles

A style is written as a sequence of words: attributes, each of which `not` switches off, a colour, a
colour of the ground behind `on`, and a target behind `link`. Different words may say the same;
`Style.normalName` is a name that styles share exactly when they do. What is no style has its own
lower case for a name. -/

namespace BlockCalc

/-- A style: attributes that are on or off, two colours and a target. -/
structure Style where
  attributes : List (String × Bool)
  colour : Option (List Char)
  ground : Option (List Char)
  link : Option (List Char)

namespace Style

/-- The style that says nothing. -/
def plain : Style := ⟨[], none, none, none⟩

/-- The attributes in the order of a normal name, with the short words for some of them. -/
def attributeWords : List (String × Option String) :=
  [("bold", some "b"), ("dim", some "d"), ("italic", some "i"), ("underline", some "u"),
    ("blink", none), ("blink2", none), ("reverse", some "r"), ("conceal", some "c"),
    ("strike", some "s"), ("underline2", some "uu"), ("frame", none), ("encircle", none),
    ("overline", some "o")]

/-- The attribute that a word stands for. -/
def attribute? (word : List Char) : Option String :=
  (attributeWords.find? fun (name, short) =>
    name.toList = word || short.any (·.toList = word)).map (·.1)

/-- Why words are no style: one of them says nothing, or a number lacks its digits. -/
inductive Stop
  | unknown
  | numeral
deriving DecidableEq, Repr

/-- A word that has to name a colour, in lower case. -/
def readColour (word : List Char) : Except Stop (List Char) :=
  let word := lowerCase word
  match Colour.read word with
  | .colour => .ok word
  | .none => .error .unknown
  | .numeral => .error .numeral

/-- What words add to a style. -/
def read (s : Style) : List (List Char) → Except Stop Style
  | [] => .ok s
  | w :: ws =>
    let word := lowerCase w
    if word = "on".toList then
      match ws with
      | [] => .error .unknown
      | c :: rest =>
        match readColour c with
        | .ok c => read { s with ground := some c } rest
        | .error e => .error e
    else if word = "not".toList then
      match ws with
      | [] => .error .unknown
      | a :: rest =>
        match attribute? a with
        | some a => read { s with attributes := (a, false) :: s.attributes } rest
        | none => .error .unknown
    else if word = "link".toList then
      match ws with
      | [] => .error .unknown
      | l :: rest => read { s with link := some l } rest
    else
      match attribute? word with
      | some a => read { s with attributes := (a, true) :: s.attributes } ws
      | none =>
        match readColour word with
        | .ok c => read { s with colour := some c } ws
        | .error e => .error e

/-- The words of a style in the order of the attributes, then colours and target. -/
def normalWords (s : Style) : List (List Char) :=
  let attributes := attributeWords.filterMap fun (name, _) =>
    (s.attributes.lookup name).map fun on => if on then name.toList else ("not " ++ name).toList
  attributes ++ s.colour.toList ++ (s.ground.map ("on ".toList ++ ·)).toList
    ++ (s.link.map ("link ".toList ++ ·)).toList

/-- A style on one line. -/
def text (s : Style) : List Char :=
  match s.normalWords with
  | [] => "none".toList
  | ws => [' '].intercalate ws

/-- The normal name of what is written as a style; there is none if a number lacks its digits. -/
def normalName (name : List Char) : Option (List Char) :=
  if trim name = "none".toList then some "none".toList
  else
    match plain.read (bareWords name) with
    | .ok s => some s.text
    | .error .unknown => some (lowerCase (trim name))
    | .error .numeral => none

end Style

end BlockCalc
