import FlowCanvas.Json.Number
import FlowCanvas.Json.Token

/-!
# JSON documents

A document is a JSON text without its white space: every field of every object in its place,
repeated ones included, and numbers as numerals. `Document.parse?` reads a document from a text
and `Document.print` writes one, on a single line or indented.

Reading feeds the tokens of the text one by one to a `Reader`, which keeps the arrays and objects
that are still open. Text that nests more deeply than `maxDepth` is refused.
-/

set_option autoImplicit false

namespace FlowCanvas.Json

/-- A JSON text as a tree. -/
inductive Document where
  | null
  | bool (value : Bool)
  | number (value : Numeral)
  | string (value : String)
  | array (items : List Document)
  | object (fields : List (String × Document))
  /-- A string, or an object with a key, that holds half of a surrogate pair. It is well formed,
  but it has no value. -/
  | unreadable

/-- How many arrays and objects may be open at the same time. -/
def maxDepth : Nat := 127

/-! ## Reading -/

/-- An array or an object that is still open. What has been read of it comes latest first. -/
inductive Reader.Frame where
  | array (before : List Document)
  | object (before : List (Option String × Document)) (key : Option String)

/-- What has been read of a text, and what may follow. -/
inductive Reader where
  /-- A value must follow. -/
  | expectValue (frames : List Reader.Frame)
  /-- An array has just been opened: a value or its end must follow. -/
  | arrayStart (frames : List Reader.Frame)
  /-- An object has just been opened: a key or its end must follow. -/
  | objectStart (frames : List Reader.Frame)
  /-- A key must follow, after the fields read so far. -/
  | expectKey (frames : List Reader.Frame) (before : List (Option String × Document))
  /-- A colon must follow the key. -/
  | expectColon (frames : List Reader.Frame) (before : List (Option String × Document))
      (key : Option String)
  /-- A value has been read. -/
  | done (frames : List Reader.Frame) (value : Document)

namespace Reader

/-- The object with the given fields; unreadable if a key is. -/
def objectOf (fields : List (Option String × Document)) : Document :=
  match fields.mapM (fun field => field.1.map (·, field.2)) with
  | some fields => .object fields
  | none => .unreadable

/-- Starts a value with its first token. -/
def start? (frames : List Frame) : Token → Option Reader
  | .null => some (.done frames .null)
  | .bool b => some (.done frames (.bool b))
  | .number n => some (.done frames (.number n))
  | .string s => some (.done frames (.string s))
  | .brokenString => some (.done frames .unreadable)
  | .arrayOpen => if frames.length < maxDepth then some (.arrayStart frames) else none
  | .objectOpen => if frames.length < maxDepth then some (.objectStart frames) else none
  | _ => none

/-- Goes on after a value: the innermost open array or object takes it. -/
def continue? (value : Document) : List Frame → Token → Option Reader
  | .array before :: frames, .comma => some (.expectValue (.array (value :: before) :: frames))
  | .array before :: frames, .arrayClose =>
    some (.done frames (.array (value :: before).reverse))
  | .object before key :: frames, .comma => some (.expectKey frames ((key, value) :: before))
  | .object before key :: frames, .objectClose =>
    some (.done frames (objectOf ((key, value) :: before).reverse))
  | _, _ => none

/-- Reads one more token. -/
def feed? : Reader → Token → Option Reader
  | .expectValue frames, token => start? frames token
  | .arrayStart frames, .arrayClose => some (.done frames (.array []))
  | .arrayStart frames, token => start? (.array [] :: frames) token
  | .objectStart frames, .objectClose => some (.done frames (.object []))
  | .objectStart frames, .string key => some (.expectColon frames [] (some key))
  | .objectStart frames, .brokenString => some (.expectColon frames [] none)
  | .expectKey frames before, .string key => some (.expectColon frames before (some key))
  | .expectKey frames before, .brokenString => some (.expectColon frames before none)
  | .expectColon frames before key, .colon => some (.expectValue (.object before key :: frames))
  | .done frames value, token => continue? value frames token
  | _, _ => none

/-- The document, once the text is over. -/
def result? : Reader → Option Document
  | .done [] value => some value
  | _ => none

end Reader

namespace Document

/-- Reads a document from the tokens of a text. -/
def ofTokens? (tokens : List Token) : Option Document :=
  (tokens.foldlM Reader.feed? (.expectValue [])).bind Reader.result?

/-- Reads a document from a text, which must hold it and nothing else. -/
def parse? (text : String) : Option Document :=
  (tokens? text.toList).bind ofTokens?

end Document

/-! ## Writing -/

/-- How a document is laid out on the page. -/
structure PageLayout where
  /-- What stands between two tokens where a line may break, at a given depth. -/
  lineBreak : Nat → List Char
  /-- What stands after the colon of a field. -/
  afterColon : List Char

/-- Everything on one line, without blanks. -/
def compact : PageLayout := ⟨fun _ => [], []⟩

/-- One item or field to a line, indented by two blanks for each level. -/
def indented : PageLayout := ⟨fun depth => '\n' :: List.replicate (2 * depth) ' ', [' ']⟩

/-- A lower-case hexadecimal digit. -/
def hexChar (n : Nat) : Char :=
  if n < 10 then Char.ofNat (48 + n) else Char.ofNat (87 + n)

/-- A character inside a string: quotes, backslashes and control characters are escaped, and no
other character is. -/
def escaped (c : Char) : List Char :=
  match c with
  | '"' => ['\\', '"']
  | '\\' => ['\\', '\\']
  | '\x08' => ['\\', 'b']
  | '\x0c' => ['\\', 'f']
  | '\n' => ['\\', 'n']
  | '\r' => ['\\', 'r']
  | '\t' => ['\\', 't']
  | c =>
    if c.toNat < 0x20 then ['\\', 'u', '0', '0', hexChar (c.toNat / 16), hexChar (c.toNat % 16)]
    else [c]

/-- A string with its quotes. -/
def quoted (s : String) : List Char :=
  '"' :: (s.toList.flatMap escaped ++ ['"'])

namespace Document

mutual

/-- The characters of a document at a given depth. -/
def chars (layout : PageLayout) (depth : Nat) : Document → List Char
  | .null => ['n', 'u', 'l', 'l']
  | .bool true => ['t', 'r', 'u', 'e']
  | .bool false => ['f', 'a', 'l', 's', 'e']
  | .number n => n.chars
  | .string s => quoted s
  | .array [] => ['[', ']']
  | .array (item :: items) =>
    '[' :: (layout.lineBreak (depth + 1) ++ chars layout (depth + 1) item ++
      itemChars layout (depth + 1) items ++ layout.lineBreak depth ++ [']'])
  | .object [] => ['\x7b', '\x7d']
  | .object ((key, value) :: fields) =>
    '\x7b' :: (layout.lineBreak (depth + 1) ++ quoted key ++ ':' :: layout.afterColon ++
      chars layout (depth + 1) value ++ fieldChars layout (depth + 1) fields ++
      layout.lineBreak depth ++ ['\x7d'])
  | .unreadable => ['n', 'u', 'l', 'l']

/-- The characters of the items after the first, each behind a comma. -/
def itemChars (layout : PageLayout) (depth : Nat) : List Document → List Char
  | [] => []
  | item :: items =>
    ',' :: (layout.lineBreak depth ++ chars layout depth item ++ itemChars layout depth items)

/-- The characters of the fields after the first, each behind a comma. -/
def fieldChars (layout : PageLayout) (depth : Nat) : List (String × Document) → List Char
  | [] => []
  | (key, value) :: fields =>
    ',' :: (layout.lineBreak depth ++ quoted key ++ ':' :: layout.afterColon ++
      chars layout depth value ++ fieldChars layout depth fields)

end

/-- The text of a document. -/
def print (layout : PageLayout) (d : Document) : String :=
  String.ofList (d.chars layout 0)

end Document

end FlowCanvas.Json
