/-!
# Flags of the command line

The flags with their names, what their values are called, and what they do. A name of one dash and
one letter is short; long names have two dashes.
-/

namespace TypstPress

/-- A flag of the command line. -/
inductive Flag where
  | help
  | output
  | assetsManifest
  | preamble
  | preambleFile
  | noImageAttributes
  | noTableSpans
  | logLevel
  | logFile
  | trace
  | version
deriving DecidableEq, Repr, Inhabited

namespace Flag

/-- The flags in the order in which they are listed. -/
def all : List Flag :=
  [help, output, assetsManifest, preamble, preambleFile, noImageAttributes, noTableSpans, logLevel,
   logFile, trace, version]

/-- The names of a flag, a short one first. -/
def names : Flag → List String
  | help => ["-h", "--help"]
  | output => ["-o", "--output"]
  | assetsManifest => ["--assets-manifest"]
  | preamble => ["--preamble"]
  | preambleFile => ["--preamble-file"]
  | noImageAttributes => ["--no-image-attributes"]
  | noTableSpans => ["--no-table-spans"]
  | logLevel => ["--log-level"]
  | logFile => ["--log-file"]
  | trace => ["--trace"]
  | version => ["--version"]

/-- The words that the log level is chosen from. -/
def levels : List String := ["DEBUG", "INFO", "WARNING", "ERROR", "CRITICAL"]

/-- What the value of a flag is called, for flags that take a value. -/
def valueName? : Flag → Option String
  | output => some "OUTPUT"
  | assetsManifest => some "PATH"
  | preamble => some "TEXT"
  | preambleFile => some "PATH"
  | logLevel => some ("\x7b" ++ ",".intercalate levels ++ "\x7d")
  | logFile => some "PATH"
  | _ => none

/-- Whether a flag takes a value. -/
def takesValue (flag : Flag) : Bool := flag.valueName?.isSome

/-- What a flag does. -/
def purpose : Flag → String
  | help => "show this help message and exit"
  | output => "Write Typst source to this file instead of stdout"
  | assetsManifest => "Write a JSON list of the image assets referenced by the output"
  | preamble => "Raw Typst inserted before the document body"
  | preambleFile => "Read the preamble from a file"
  | noImageAttributes => "Leave \x7bkey=value\x7d blocks after images as text"
  | noTableSpans => "Do not merge '<' and '^' table cells into spans"
  | logLevel => "Logging level (default: WARNING)"
  | logFile => "Also write log messages to this file"
  | trace => "Verbose log format including third-party loggers"
  | version => "show program's version number and exit"

/-- The flag as messages call it. -/
def title (flag : Flag) : String := "/".intercalate flag.names

/-- The flag of a name. -/
def ofName? (name : String) : Option Flag := all.find? (·.names.contains name)

/-- The names that start with a text, each with its flag, in order. -/
def completions (start : String) : List (String × Flag) :=
  all.flatMap fun flag => (flag.names.filter (·.startsWith start)).map (·, flag)

end Flag

end TypstPress
