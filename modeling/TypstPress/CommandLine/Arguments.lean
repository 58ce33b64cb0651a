import TypstPress.CommandLine.Word

/-!
# Arguments

What a command line asks for. Flags act in the order in which they stand, so that help is given
before a later mistake is noticed; a word whose flags lack a value is a mistake before any of its
flags acts. The first plain word that is no value is the input, together with a separator next to
it; other plain words and names that fit no flag are collected and refused at the end.
-/

namespace TypstPress

/-- What a compilation is asked to do. -/
structure Arguments where
  input : String := ""
  output : Option String := none
  manifest : Option String := none
  preamble : Option String := none
  preambleFile : Option String := none
  imageAttributes : Bool := true
  tableSpans : Bool := true
  logLevel : String := "WARNING"
  logFile : Option String := none
  trace : Bool := false
deriving DecidableEq, Repr, Inhabited

/-- What a command line asks for. -/
inductive Request where
  | help
  | version
  | compile (arguments : Arguments)
deriving DecidableEq, Repr, Inhabited

namespace Arguments

/-- The arguments as far as they were read. -/
structure Draft where
  arguments : Arguments := {}
  input : Option String := none
  /-- Words that nothing was made of. -/
  unused : List String := []
deriving Repr, Inhabited

/-- A flag with its value, if it takes one and has one. -/
structure Use where
  flag : Flag
  value : Option String := none
deriving DecidableEq, Repr, Inhabited

/-- What a word of flags comes to: uses, and the last flag if its value has to be the next word. -/
structure Cluster where
  uses : List Use := []
  waiting : Option Flag := none
deriving Repr, Inhabited

/-- A flag without a value attached. -/
def Cluster.ofFlag (flag : Flag) : Cluster :=
  if flag.takesValue then { waiting := some flag } else { uses := [{ flag }] }

/-- A flag with a text attached. A short flag that takes no value may be followed by the letters
of other short flags. Two dashes are no value, so the flag then stands without one. -/
def Cluster.ofAttached (flag : Flag) (short : Bool) (text : List Char) :
    Except UsageError Cluster :=
  if flag.takesValue then
    let value := String.ofList text
    .ok { uses := [{ flag, value := if value == "--" then none else some value }] }
  else
    match text with
    | [] => .error (.ignoredValue flag "")
    | c :: more =>
      match Flag.ofName? (String.ofList ['-', c]) with
      | none => .error (.ignoredValue flag (String.ofList (c :: more)))
      | some next =>
        if !short then .error (.ignoredValue flag (String.ofList (c :: more)))
        else do
          let others ← if more.isEmpty then pure (ofFlag next) else ofAttached next true more
          return { others with uses := { flag } :: others.uses }
termination_by text.length

/-- What a flag comes to. -/
def Cluster.of (flag : Flag) (short : Bool) : Option (List Char) → Except UsageError Cluster
  | none => .ok (ofFlag flag)
  | some attached => ofAttached flag short attached

/-- The arguments with another log level, which is one of the known ones. A flag without a value
asks for a level of no name. -/
def withLogLevel (a : Arguments) : Option String → Except UsageError Arguments
  | none => .ok { a with logLevel := "" }
  | some level =>
    if Flag.levels.contains level then .ok { a with logLevel := level }
    else .error (.invalidChoice .logLevel level Flag.levels)

/-- The arguments after a flag, or what the flag asks for in their place. -/
def apply (a : Arguments) (use : Use) : Except UsageError (Arguments ⊕ Request) :=
  let value := some (use.value.getD "")
  match use.flag with
  | .help => .ok (.inr .help)
  | .version => .ok (.inr .version)
  | .output => .ok (.inl { a with output := value })
  | .assetsManifest => .ok (.inl { a with manifest := value })
  | .preamble =>
    if a.preambleFile.isSome then .error (.conflict .preamble .preambleFile)
    else .ok (.inl { a with preamble := value })
  | .preambleFile =>
    if a.preamble.isSome then .error (.conflict .preambleFile .preamble)
    else .ok (.inl { a with preambleFile := value })
  | .noImageAttributes => .ok (.inl { a with imageAttributes := false })
  | .noTableSpans => .ok (.inl { a with tableSpans := false })
  | .logLevel => (a.withLogLevel use.value).map .inl
  | .logFile => .ok (.inl { a with logFile := value })
  | .trace => .ok (.inl { a with trace := true })

/-- Uses in order, up to one that asks for something else. -/
def applyAll (a : Arguments) : List Use → Except UsageError (Arguments ⊕ Request)
  | [] => .ok (.inl a)
  | use :: rest => do
    match ← a.apply use with
    | .inl a => applyAll a rest
    | .inr request => return .inr request

/-- What the arguments ask for at the end of the command line. -/
def Draft.finish (draft : Draft) : Except UsageError Request :=
  match draft.input with
  | none => .error .missingInput
  | some input =>
    if draft.unused.isEmpty then .ok (.compile { draft.arguments with input })
    else .error (.unrecognized draft.unused)

/-- The draft with more texts that nothing was made of. -/
def Draft.leave (draft : Draft) (texts : List String) : Draft :=
  { draft with unused := draft.unused ++ texts }

/-- The draft after uses in order, or what one of them asks for in its place. -/
def Draft.use (draft : Draft) (uses : List Use) : Except UsageError (Draft ⊕ Request) := do
  match ← draft.arguments.applyAll uses with
  | .inl arguments => return .inl { draft with arguments }
  | .inr request => return .inr request

/-- Reads words up to the end or up to a flag that asks for something else. -/
def Draft.read (draft : Draft) : List Word → Except UsageError Request
  | [] => draft.finish
  | .plain text :: .separator :: rest =>
    if draft.input.isNone then read { draft with input := some text } rest
    else read (draft.leave [text]) (.separator :: rest)
  | .plain text :: rest =>
    if draft.input.isNone then read { draft with input := some text } rest
    else read (draft.leave [text]) rest
  | .separator :: .plain text :: rest =>
    if draft.input.isNone then read { draft with input := some text } rest
    else read (draft.leave ["--"]) (.plain text :: rest)
  | .separator :: rest => read (draft.leave ["--"]) rest
  | .unknown text :: rest => read (draft.leave [text]) rest
  | .flag flag short attached :: rest =>
    match Cluster.of flag short attached with
    | .error e => .error e
    | .ok cluster =>
      match cluster.waiting, rest with
      | none, rest =>
        match draft.use cluster.uses with
        | .ok (.inl draft) => read draft rest
        | .ok (.inr request) => .ok request
        | .error e => .error e
      | some last, .plain value :: rest =>
        match draft.use (cluster.uses ++ [⟨last, some value⟩]) with
        | .ok (.inl draft) => read draft rest
        | .ok (.inr request) => .ok request
        | .error e => .error e
      | some last, _ => .error (.missingValue last)
termination_by words => words.length

/-- Reads the words of a command line. -/
def read (texts : List String) : Except UsageError Request := do
  ({} : Draft).read (← Word.ofTexts texts)

end Arguments

end TypstPress
