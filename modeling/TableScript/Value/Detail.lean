import TableScript.Text.Detail
import TableScript.Value.Show

/-!
# Values in full detail

The text of a value that names its kind and leaves nothing out: the segments of a string with
their looks, the code of an error, a point in every double.
-/

namespace TableScript

/-- A word with its first letter in upper case. -/
def capitalised (word : String) : String :=
  match word.toList with
  | c :: rest => String.ofList (c.toUpper :: rest)
  | [] => ""

/-- The name of a code as one word of capitalised parts. -/
def ErrorCode.label (c : ErrorCode) : String :=
  String.join ((c.name.splitOn "-").map capitalised)

/-- A style as its word. -/
def Style.detail (s : Style) : String := "Attr(" ++ toString s.bits ++ ")"

/-- A colour by its components. -/
def Rgb.detail (c : Rgb) : String :=
  recordDetail "Rgb" [("r", toString c.red), ("g", toString c.green), ("b", toString c.blue)]

/-- A segment with its look. -/
def Segment.detail (s : Segment) : String :=
  recordDetail "Segment" [("text", quoted s.text), ("attr", s.look.style.detail),
    ("rgb", optionDetail Rgb.detail s.look.rgb), ("hyperlink", optionDetail quoted s.look.link)]

/-- A text by its segments. -/
def RichText.detail (t : RichText) : String :=
  recordDetail "RichStr"
    [("segments", "[" ++ ", ".intercalate (t.segments.map Segment.detail) ++ "]")]

/-- An error value with its code. -/
def ErrorValue.detail (e : ErrorValue) : String :=
  recordDetail "ErrorValue" [("code", e.code.label), ("message", quoted e.message)]

/-- A value with its kind. -/
def Store.detail (st : Store) (v : Value) : String :=
  match v with
  | .int n => "Int(" ++ toString n ++ ")"
  | .float x => "Float(" ++ NumberText.debugText x ++ ")"
  | .str t => "Str(" ++ t.detail ++ ")"
  | .bool b => "Bool(" ++ boolDetail b ++ ")"
  | .list _ => "List(List(" ++ st.text v ++ "))"
  | .map _ => "Map(Map(" ++ st.text v ++ "))"
  | .fn _ => "Fn(" ++ st.text v ++ ")"
  | .error e => "Error(" ++ e.detail ++ ")"
  | .null => "Null"

end TableScript
