import MarkupTemplate.Plan.Basic

/-!
# The source text of a plan

A plan can be written out as a JavaScript function of the values, for hosts that compile text and
for people who want to see what a template became. An element is an object with the fields `tag`,
`key`, `attrs` and `children`; a text with reads is a sum of strings; a splice is an object with the
list in its only field. A comment at the end names the key of the template.
-/

namespace MarkupTemplate

namespace Source

/-! ### Strings -/

/-- A character of a string constant: quotes, backslashes and whatever ends a line are escaped. -/
def escape (c : Char) : Text :=
  if c = '\\' then ['\\', '\\']
  else if c = '"' then ['\\', '"']
  else if c = '\n' then ['\\', 'n']
  else if c = '\r' then ['\\', 'r']
  else if c = '\t' then ['\\', 't']
  else if c = '\u2028' then txt "\\u2028"
  else if c = '\u2029' then txt "\\u2029"
  else [c]

/-- A text as a string constant. -/
def stringLiteral (t : Text) : Text := '"' :: (t.flatMap escape ++ ['"'])

/-- The value of a slot. -/
def read (slot : Slot) : Text := txt "props." ++ slot.token

/-- The summand of a piece. -/
def piece : Piece → Text
  | .literal t => stringLiteral t
  | .read slot => read slot

/-- Pieces as a sum. -/
def sum : Interpolation → Text
  | [] => []
  | [p] => piece p
  | p :: rest => piece p ++ '+' :: sum rest

/-- An interpolated text as an expression. A sum that begins with a value begins with an empty
string before it, so that it is a sum of strings. -/
def text : Interpolation → Text
  | [] => stringLiteral []
  | .read slot :: rest => stringLiteral [] ++ '+' :: sum (.read slot :: rest)
  | i => sum i

/-! ### Elements -/

/-- Named expressions, between commas. -/
def fields : List (Text × Text) → Text
  | [] => []
  | [(name, value)] => stringLiteral name ++ ':' :: value
  | (name, value) :: rest => stringLiteral name ++ ':' :: (value ++ ',' :: fields rest)

/-- The object of an element, from the expressions of its parts. -/
def object (tag : Text) (key : Option Text) (attributes : List (Text × Text)) (content : Text) :
    Text :=
  txt "\x7btag:" ++ stringLiteral tag
    ++ (match key with
      | some key => txt ",key:" ++ key
      | none => [])
    ++ txt ",attrs:\x7b" ++ fields attributes ++ txt "\x7d,children:" ++ content ++ ['\x7d']

/-- Expressions as an array. -/
def array (items : Text) : Text := '[' :: (items ++ [']'])

mutual
/-- The expression of a rendered element. -/
def rendered : Rendered → Text
  | .mk head (.text body) =>
    object head.tag (head.key.map stringLiteral)
      (head.attributes.entries.map fun e => (e.1, stringLiteral e.2)) (stringLiteral body)
  | .mk head (.nodes children) =>
    object head.tag (head.key.map stringLiteral)
      (head.attributes.entries.map fun e => (e.1, stringLiteral e.2))
      (array (renderedChildren children))

/-- The expressions of rendered children, between commas. A splice that is rendered already has no
expression, and leaves its place empty. -/
def renderedChildren : List (Child Rendered Splice) → Text
  | [] => []
  | [.element e] => rendered e
  | [.splice _] => []
  | .element e :: rest => rendered e ++ ',' :: renderedChildren rest
  | .splice _ :: rest => ',' :: renderedChildren rest
end

/-- The expression of a splice. -/
def splice (slot : Slot) : Text := txt "\x7bchildren:" ++ read slot ++ ['\x7d']

mutual
/-- The expression of a plan. -/
def plan : Plan → Text
  | .static e => rendered e
  | .dynamic tag key attributes (.text body) =>
    object tag (key.map text) (attributes.map fun e => (e.1, text e.2)) (text body)
  | .dynamic tag key attributes (.nodes children) =>
    object tag (key.map text) (attributes.map fun e => (e.1, text e.2))
      (array (planChildren children))

/-- The expressions of the plans of children, between commas. -/
def planChildren : List (Child Plan Slot) → Text
  | [] => []
  | [.element p] => plan p
  | [.splice slot] => splice slot
  | .element p :: rest => plan p ++ ',' :: planChildren rest
  | .splice slot :: rest => splice slot ++ ',' :: planChildren rest
end

end Source

/-- The source text of the plan of a template with a key. -/
def Plan.source (key : Key) (plan : Plan) : Text :=
  txt "function(props)\x7b\"use strict\";return " ++ Source.plan plan ++ ['\x7d']
    ++ txt "\n//# sourceURL=" ++ key.text

end MarkupTemplate
