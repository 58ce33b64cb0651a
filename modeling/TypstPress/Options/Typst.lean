import TypstPress.Options.Basic
import TypstPress.Text.Blank

/-!
# Options of the Typst compiler

Footnote labels are a prefix followed by the identifier of the note, and only listed attributes of
an image are passed on. A label needs a prefix that is not empty, and an attribute a name that is
not blank.
-/

namespace TypstPress

/-- How the compiler writes footnote labels and images. -/
structure TypstOptions where
  footnoteLabelPrefix : String := "user-footnote: "
  imageAttributes : List String := ["width", "height"]
deriving DecidableEq, Repr, Inhabited

namespace TypstOptions

/-- The failure for an empty label prefix. -/
def emptyPrefix : Failure :=
  .fault (Fault.wrongValue "footnote_label_prefix must not be empty")

/-- The failure for a list of attributes with a blank name. -/
def blankAttribute (names : List String) : Failure :=
  .fault (Fault.wrongValue ("image_attributes entries must be non-empty, got " ++
    Text.quotedTuple names))

/-- The options, if the prefix is not empty and no attribute name is blank. -/
def validated (o : TypstOptions) : Except Failure TypstOptions :=
  if o.footnoteLabelPrefix.isEmpty then .error emptyPrefix
  else if o.imageAttributes.any fun name => Text.isAllBlank name.toList then
    .error (blankAttribute o.imageAttributes)
  else .ok o

/-- The fields in order, by name. -/
def fields (o : TypstOptions) : List (String × OptionValue) :=
  [("footnote_label_prefix", .text o.footnoteLabelPrefix),
   ("image_attributes", .texts o.imageAttributes)]

/-- The options with one field changed; fails for a field that does not exist. -/
def set (o : TypstOptions) : String × OptionValue → Except Failure TypstOptions
  | ("footnote_label_prefix", .text s) => .ok { o with footnoteLabelPrefix := s }
  | ("image_attributes", .texts names) => .ok { o with imageAttributes := names }
  | (name, _) => .error (.unknownOption name)

/-- The options with several fields changed and then checked. -/
def updated (o : TypstOptions) (changes : List (String × OptionValue)) :
    Except Failure TypstOptions :=
  (changes.foldlM set o).bind validated

/-- The descriptions of the fields. -/
def descriptions : List (String × OptionInfo) :=
  [("footnote_label_prefix",
     [("help", "Prefix for generated footnote labels"), ("importance", "advanced")]),
   ("image_attributes",
     [("help", "Image attributes passed through to Typst"), ("importance", "advanced")])]

end TypstOptions

end TypstPress
