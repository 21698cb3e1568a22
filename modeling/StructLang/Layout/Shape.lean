/-!
# Shapes

A shape is a text with a structure: an atom, a shape with a label before it, or a group of shapes
between an opening and a closing text. A group that fits into what is left of a line is written on
it; otherwise each of its items starts a line, in the column after the opening text.
-/

namespace StructLang

/-- A text that may be written on one line or on several. The reserve of a group is the room that
its last item leaves for the closing text. -/
inductive Shape
  | atom (text : String)
  | labelled (label : String) (value : Shape)
  | group (opening closing : String) (reserve : Nat) (items : List Shape)
  deriving Repr

namespace Shape

mutual

/-- A shape on one line. -/
def flat : Shape → String
  | atom text => text
  | labelled label value => label ++ "=" ++ flat value
  | group opening closing _ items => opening ++ flatItems items ++ closing

/-- Items on one line, with commas between them. -/
def flatItems : List Shape → String
  | [] => ""
  | [last] => flat last
  | head :: tail => flat head ++ ", " ++ flatItems tail

end

mutual

/-- A shape in lines of a width, given the column it starts in and the room to leave after it. -/
def format (width column room : Nat) : Shape → String
  | atom text => text
  | labelled label value =>
      label ++ "=" ++ format width (column + label.length + 1) room value
  | group opening closing reserve items =>
      let whole := flat (group opening closing reserve items)
      if whole.length + column + room ≤ width then whole
      else
        opening ++ formatItems width (column + opening.length) (room + reserve) items ++ closing

/-- Items that each start a line in a column, with the room to leave after the last one. The
others leave room for a comma. -/
def formatItems (width column room : Nat) : List Shape → String
  | [] => ""
  | [last] => format width column room last
  | head :: tail =>
      format width column 1 head ++ ",\n" ++ String.ofList (List.replicate column ' ') ++
        formatItems width column room tail

end

/-- A name with labelled values in parentheses. The last value leaves no room for the closing
parenthesis. -/
def record (name : String) (fields : List (String × Shape)) : Shape :=
  group (name ++ "(") ")" 0 (fields.map fun (label, value) => labelled label value)

/-- Items in brackets. -/
def list (items : List Shape) : Shape := group "[" "]" 1 items

/-- Items in parentheses; a single one is followed by a comma. -/
def tuple (items : List Shape) : Shape :=
  match items with
  | [_] => group "(" ",)" 2 items
  | _ => group "(" ")" 1 items

end Shape

end StructLang
