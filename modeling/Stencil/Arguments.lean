import Stencil.Text.Find
import Stencil.Text.Letter
import Stencil.Text.Quoted
/-!
# Stencil.Arguments -- the words of a command line

Words that start with a hyphen are options, everything else names templates. An option of one letter
may carry its argument in the same word, several letters without arguments may share a word, and a
long option may be cut short as long as it is clear. After two hyphens alone everything names
templates. All templates stand together: words after a later option are not taken any more.
-/

namespace Stencil

/-- The options. -/
inductive CommandOption where
  | help | base | output | encoding | parameter | verbose
  deriving DecidableEq, Repr

namespace CommandOption

/-- The spellings of the options, in the order in which they are tried. -/
def spellings : List (String × CommandOption) :=
  [("-h", help), ("--help", help), ("-d", base), ("-o", output), ("-e", encoding),
   ("-p", parameter), ("-v", verbose), ("--verbose", verbose)]

/-- The option with a spelling. -/
def spelled? (s : List Char) : Option CommandOption := spellings.lookup (String.ofList s)

/-- Whether an option has an argument. -/
def hasArgument : CommandOption → Bool
  | help | verbose => false
  | _ => true

/-- An option as faults name it. -/
def name (o : CommandOption) : String :=
  "/".intercalate ((spellings.filter (·.2 == o)).map (·.1))

end CommandOption

/-- Why a command line is not carried out. -/
inductive Usage where
  /-- The user asks for help. -/
  | help
  | wrong (message : String)
  deriving DecidableEq, Repr

/-- What a command line demands. -/
structure Arguments where
  files : List String := []
  base : Option String := none
  output : Option String := none
  encoding : Option String := none
  parameters : List String := []
  verbose : Bool := false
  deriving DecidableEq, Repr, Inhabited

namespace Arguments

/-! ## Kinds of words -/

/-- What a word is. -/
inductive Word where
  | plain (text : String)
  /-- Two hyphens alone, after which all words are plain. -/
  | separator
  /-- An option, how it is spelled, and the argument in the same word. -/
  | option (o : CommandOption) (spelling : List Char) (attached : Option (List Char))
  /-- A word that looks like an option but is none. -/
  | unknown (text : String)
  deriving DecidableEq, Repr

/-- Whether a word is an option or looks like one. -/
def Word.isOption : Word → Bool
  | option .. | unknown _ => true
  | _ => false

/-- The text of a word that names no option. -/
def Word.text : Word → String
  | plain text | unknown text => text
  | separator => "--"
  | option .. => ""

/-- A text up to the first equals sign, and what follows it. -/
def cutAtEquals (s : List Char) : List Char × Option (List Char) :=
  match s.span (· != '=') with
  | (before, _ :: after) => (before, some after)
  | (before, []) => (before, none)

/-- The options that a word may mean that is none as it stands. -/
def candidates (s : List Char) : List (CommandOption × List Char × Option (List Char)) :=
  match s with
  | '-' :: '-' :: _ =>
    let (start, attached) := cutAtEquals s
    (CommandOption.spellings.filter fun o => Text.startsWith start o.1.toList).map fun o =>
      (o.2, o.1.toList, attached)
  | a :: b :: rest =>
    match CommandOption.spelled? [a, b] with
    | some o => [(o, [a, b], some rest)]
    | none => []
  | _ => []

/-- Whether a text is a negative number. -/
def isNegativeNumber (s : List Char) : Bool :=
  match s with
  | '-' :: r =>
    match r.span Text.isDecimal with
    | (whole, []) => !whole.isEmpty
    | (_, '.' :: fraction) => !fraction.isEmpty && fraction.all Text.isDecimal
    | _ => false
  | _ => false

/-- What a word is that is no exact spelling of an option. -/
def classifyOther (s : List Char) : Except Usage Word :=
  match candidates s with
  | [(o, spelling, attached)] => .ok (.option o spelling attached)
  | [] =>
    if isNegativeNumber s || s.contains ' ' then .ok (.plain (String.ofList s))
    else .ok (.unknown (String.ofList s))
  | several =>
    .error (.wrong ("ambiguous option: " ++ String.ofList s ++ " could match " ++
      ", ".intercalate (several.map fun c => String.ofList c.2.1)))

/-- What a word is. -/
def classify (s : List Char) : Except Usage Word :=
  match s with
  | '-' :: _ :: _ =>
    match CommandOption.spelled? s with
    | some o => .ok (.option o s none)
    | none =>
      match cutAtEquals s with
      | (start, some attached) =>
        match CommandOption.spelled? start with
        | some o => .ok (.option o start (some attached))
        | none => classifyOther s
      | _ => classifyOther s
  | _ => .ok (.plain (String.ofList s))

/-- What the words of a command line are. -/
def classifyAll : List String → Except Usage (List Word)
  | [] => .ok []
  | s :: ss =>
    if s == "--" then .ok (.separator :: ss.map .plain)
    else do
      let w ← classify s.toList
      return w :: (← classifyAll ss)

/-! ## Taking words -/

/-- What has been taken: the demands, whether the templates have been taken, and the words that
nothing could be made of. -/
structure Taken where
  arguments : Arguments := {}
  haveFiles : Bool := false
  extra : List String := []

/-- Take an option without its argument, or with it. -/
def setOption (a : Arguments) (o : CommandOption) (value : String) : Except Usage Arguments :=
  match o with
  | .help => .error .help
  | .verbose => .ok { a with verbose := true }
  | .base => .ok { a with base := some value }
  | .output => .ok { a with output := some value }
  | .encoding => .ok { a with encoding := some value }
  | .parameter => .ok { a with parameters := a.parameters ++ [value] }

/-- The fault of an argument. -/
def argumentFault {α : Type} (o : CommandOption) (message : String) : Except Usage α :=
  .error (.wrong ("argument " ++ o.name ++ ": " ++ message))

/-- The fault of an attached argument that the option has no use for. -/
def ignored {α : Type} (o : CommandOption) (s : List Char) : Except Usage α :=
  argumentFault o ("ignored explicit argument " ++ String.ofList (Text.quoted s))

/-- The options and their arguments in one word: letters without arguments, and at the end one that
has its argument there or in the next word. An option that lacks its argument stands last. -/
def letters (o : CommandOption) (spelling : List Char) :
    Option (List Char) → Except Usage (List (CommandOption × Option (List Char)))
  | none => .ok [(o, none)]
  | some s =>
    if o.hasArgument then .ok [(o, some s)]
    else
      match spelling, s with
      | '-' :: '-' :: _, _ => ignored o s
      | _, [] => ignored o []
      | _, c :: r =>
        match CommandOption.spelled? ['-', c] with
        | none => ignored o (c :: r)
        | some o' => do
          let rest ← match r with
            | [] => pure [(o', none)]
            | r => letters o' ['-', c] (some r)
          return (o, none) :: rest

/-- Find the arguments of options. The last one may lack its argument, which then is the first of
the words that follow. -/
def withArguments (rest : List Word) :
    List (CommandOption × Option (List Char)) →
      Except Usage (List (CommandOption × String) × List Word)
  | [] => .ok ([], rest)
  | (o, attached) :: os =>
    if !o.hasArgument then do
      let (more, rest) ← withArguments rest os
      return ((o, "") :: more, rest)
    else
      match attached, rest with
      | some s, _ => .ok ([(o, String.ofList s)], rest)
      | none, .plain s :: rest => .ok ([(o, s)], rest)
      | none, _ => argumentFault o "expected one argument"

/-- Take options with their arguments. -/
def setOptions (a : Arguments) : List (CommandOption × String) → Except Usage Arguments
  | [] => .ok a
  | (o, value) :: os => do setOptions (← setOption a o value) os

/-- Take the words that name templates, if there are any and none have been taken yet. One pair of
hyphens among them is dropped. -/
def takeFiles (t : Taken) (ws : List Word) : Taken × List Word :=
  let (mine, rest) := ws.span (!·.isOption)
  if t.haveFiles || !mine.any (· != .separator) then (t, ws)
  else
    let files := (mine.erase .separator).map Word.text
    ({ t with arguments := { t.arguments with files }, haveFiles := true }, rest)

/-- Take all words. Each round takes one option and what stands before it. -/
def takeAll : Nat → Taken → List Word → Except Usage Taken
  | 0, t, _ => .ok t
  | fuel + 1, t, ws =>
    let (t, ws) := takeFiles t ws
    if !ws.any Word.isOption then .ok { t with extra := t.extra ++ ws.map Word.text }
    else
      let (left, ws) := ws.span (!·.isOption)
      let t := { t with extra := t.extra ++ left.map Word.text }
      match ws with
      | .unknown text :: ws => takeAll fuel { t with extra := t.extra ++ [text] } ws
      | .option o spelling attached :: ws => do
        let os ← letters o spelling attached
        let (values, ws) ← withArguments ws os
        takeAll fuel { t with arguments := ← setOptions t.arguments values } ws
      | ws => .ok { t with extra := t.extra ++ ws.map Word.text }

/-- Read a command line. -/
def parse (argv : List String) : Except Usage Arguments := do
  let t ← takeAll (argv.length + 1) {} (← classifyAll argv)
  if !t.haveFiles then throw (.wrong "the following arguments are required: FILE")
  if !t.extra.isEmpty then
    throw (.wrong ("unrecognized arguments: " ++ " ".intercalate t.extra))
  return t.arguments

end Arguments

end Stencil
