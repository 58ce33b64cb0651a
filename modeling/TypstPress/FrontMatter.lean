import TypstPress.Attempt
import TypstPress.Options.Markdown
import TypstPress.Text.Blank
import TypstPress.Text.Lines
import TypstPress.Yaml

/-!
# Front matter

A document may start with a block of YAML between two lines of three hyphens. Its mapping becomes
the metadata of the document, and the text after the block is what is read as Markdown. A block
that is not well formed or is no mapping is dropped with a warning; a scalar that stands for no
value of its type is a failure.
-/

namespace TypstPress.FrontMatter

/-- The part of the library that warns about front matter. -/
def speaker : String := "md2typst.parsers.markdown"

/-- Whether a line ends the block: three hyphens between blanks. -/
def isFence (line : List Char) : Bool := Text.trim line == ['-', '-', '-']

/-- Whether a text starts with the line that opens a block. -/
def isOpened : List Char → Bool
  | '-' :: '-' :: '-' :: '\n' :: _ => true
  | '-' :: '-' :: '-' :: '\r' :: '\n' :: _ => true
  | _ => false

/-- The block of a text and the text after it, if it starts with one. -/
def split? (cs : List Char) : Option (List Char × List Char) :=
  if isOpened cs then
    let later := (Text.linesKept cs).drop 1
    let block := later.takeWhile (!isFence ·)
    match later.dropWhile (!isFence ·) with
    | [] => none
    | _ :: after => some (block.flatten, after.flatten)
  else none

/-- The name of the type of a value. -/
def typeName : Value → String
  | .null => "NoneType"
  | .bool _ => "bool"
  | .int _ => "int"
  | .float _ => "float"
  | .text _ => "str"
  | .date _ => "date"
  | .timestamp .. => "datetime"
  | .bytes _ => "bytes"
  | .list _ => "list"
  | .set _ => "set"
  | .map _ => "dict"

/-- The metadata of a block. -/
def metadata (block : List Char) : Attempt Metadata :=
  match Yaml.load block with
  | .ok .null => .succeed []
  | .ok (.map entries) => .succeed entries
  | .ok value =>
    (Attempt.note .warning speaker
      ("Ignoring YAML front matter that is not a mapping: " ++ typeName value)).andThen fun _ =>
        .succeed []
  | .error (.malformed rule) =>
    (Attempt.note .warning speaker
      ("Ignoring malformed YAML front matter: " ++ rule)).andThen fun _ => .succeed []
  | .error (.fault fault) => .fail (.fault fault)

/-- The text without its front matter, and the metadata. -/
def extract (options : MarkdownOptions) (text : String) : Attempt (String × Metadata) :=
  match if options.frontMatter then split? text.toList else none with
  | none => .succeed (text, [])
  | some (block, rest) =>
    (metadata block).andThen fun found => .succeed (String.ofList rest, found)

end TypstPress.FrontMatter
