import TypstPress.Charset.Detection
import TypstPress.Files.FileError

/-!
# Where text comes from and goes to

A text is given as it is, as bytes, as a file or as a stream; bytes of any origin are decoded the
same way. A string is always the text itself and never the name of a file. Written text goes to
files and binary receivers as UTF-8 and to others as it is.
-/

namespace TypstPress

/-- Where a text comes from. -/
inductive Source where
  | text (s : String)
  | bytes (bs : List UInt8)
  | file (path : Path)
  | textStream (s : String)
  | byteStream (bs : List UInt8)
  /-- Anything else, with the name of its type. -/
  | other (typeName : String) (value : Value)
deriving Inhabited

namespace Source

/-- How files are opened and bytes of unknown encoding are read. -/
structure Access where
  openFile : Path → Except FileError (List UInt8)
  detector : Charset.Detector
  further : Charset.Registry := Charset.noFurther

/-- Access to no files. -/
def Access.withoutFiles (detector : Charset.Detector)
    (further : Charset.Registry := Charset.noFurther) : Access where
  openFile _ := .error .missing
  detector
  further

/-- The text of bytes. -/
def ofBytes (access : Access) (bytes : List UInt8) : Attempt String := do
  return (← Charset.readBytes access.detector [] bytes access.further).text

/-- The failure for a source of an unknown kind. -/
def unsupported (typeName : String) (value : Value) : Failure :=
  .validation ("Unsupported input type: " ++ typeName) (some "input_data") value none

/-- The text of a source. -/
def read (access : Access) : Source → Attempt String
  | .text s | .textStream s => .succeed s
  | .bytes bs | .byteStream bs => ofBytes access bs
  | .file path =>
    match access.openFile path with
    | .ok bs => ofBytes access bs
    | .error e => .fail (.fault (e.fault path.text))
  | .other typeName value => .fail (unsupported typeName value)

/-- Whether a fault is an error of the system. -/
def isSystemFault (f : Fault) : Bool :=
  ["FileNotFoundError", "IsADirectoryError", "NotADirectoryError", "PermissionError",
    "OSError"].contains f.name

/-- A failure to read a source as the reader of documents reports it. What is neither an unknown
kind nor an error of the system is passed on. -/
def loadFailure (f : Failure) : Failure :=
  match f with
  | .validation message .. => .parsing message (some "input_loading") (some f)
  | .fault fault =>
    if isSystemFault fault then
      .parsing ("Failed to read input: " ++ fault.message) (some "input_loading") (some f)
    else f
  | f => f

/-- The text of a source for a reader of documents. -/
def load (access : Access) (source : Source) : Attempt String :=
  (source.read access).mapFailure loadFailure

end Source

/-- Where a text goes to. -/
inductive Sink where
  | file (path : Path)
  | textStream
  | byteStream
  /-- Something that can be written to, with its mode if it has one. -/
  | writer (mode : Option String)
  /-- Anything else, with the name of its type. -/
  | other (typeName : String)
deriving Inhabited

/-- What a receiver gets. -/
inductive Delivery where
  | text (s : String)
  | bytes (bs : List UInt8)
deriving DecidableEq, Repr, Inhabited

namespace Sink

/-- Whether a receiver takes bytes: files and binary streams, and anything whose mode says so. -/
def isBinary : Sink → Bool
  | .file _ | .byteStream => true
  | .writer (some mode) => mode.toList.contains 'b'
  | _ => false

/-- What a receiver gets for a text. -/
def deliver (content : String) (sink : Sink) : Except Failure Delivery :=
  match sink with
  | .other typeName =>
    .error (.fault (Fault.wrongType ("Unsupported output type: <class '" ++ typeName ++ "'>")))
  | sink =>
    if sink.isBinary then .ok (.bytes (Charset.Utf8.encode content.toList))
    else .ok (.text content)

end Sink

end TypstPress
