import LinePalette.Palette.Source

/-!
# Command-line arguments

Arguments are read from left to right.  Long options take their value after an
equals sign or from the next argument, unless that looks like an option itself;
two hyphens end the options.  An option may be given once, and there is at most
one file.  The value of an option is judged when it is complete, so a faulty
value before a request for help or the version is an error.
-/

namespace LinePalette

structure Arguments where
  file : Option Text
  terse : Bool
  noPrompt : Bool
  json : Bool
  source : Option Source
  logFile : Option Text
  /-- Save the flags as defaults. -/
  save : Bool
  /-- Clear saved defaults. -/
  clear : Bool
deriving Repr, DecidableEq

inductive Request where
  | session (arguments : Arguments)
  | version
  | help
  | misuse
deriving Repr, DecidableEq

namespace Arguments

def empty : Arguments :=
  { file := none, terse := false, noPrompt := false, json := false, source := none,
    logFile := none, save := false, clear := false }

/-!
# Options
-/

inductive Switch where
  | terse
  | noPrompt
  | json
  | save
  | clear
deriving Repr, DecidableEq

inductive Choice where
  | source
  | logFile
deriving Repr, DecidableEq

inductive LongOption where
  | switch (which : Switch)
  | choice (which : Choice)
  | version
  | help
deriving Repr, DecidableEq

def longOptions : List (Text × LongOption) :=
  [
    ("terse".toList, .switch .terse),
    ("no-prompt".toList, .switch .noPrompt),
    ("json".toList, .switch .json),
    ("save".toList, .switch .save),
    ("clear".toList, .switch .clear),
    ("source".toList, .choice .source),
    ("log-file".toList, .choice .logFile),
    ("version".toList, .version),
    ("help".toList, .help)
  ]

def isOn (arguments : Arguments) : Switch -> Bool
  | .terse => arguments.terse
  | .noPrompt => arguments.noPrompt
  | .json => arguments.json
  | .save => arguments.save
  | .clear => arguments.clear

/-- The arguments with a switch on, unless it is on already. -/
def switchOn? (arguments : Arguments) (which : Switch) : Option Arguments :=
  if arguments.isOn which then
    none
  else
    match which with
    | .terse => some { arguments with terse := true }
    | .noPrompt => some { arguments with noPrompt := true }
    | .json => some { arguments with json := true }
    | .save => some { arguments with save := true }
    | .clear => some { arguments with clear := true }

/-- The arguments with a value chosen, if it is one that the option takes and the first. -/
def choose? (arguments : Arguments) (which : Choice) (value : Text) : Option Arguments :=
  match which with
  | .source =>
      if arguments.source.isSome then
        none
      else
        (Source.ofFlagName? value).map fun source => { arguments with source := some source }
  | .logFile =>
      if arguments.logFile.isSome ∨ value = [] then
        none
      else
        some { arguments with logFile := some value }

def withFile? (arguments : Arguments) (path : Text) : Option Arguments :=
  if arguments.file.isSome ∨ path = [] then none else some { arguments with file := some path }

/-!
# Reading
-/

/-- The name of a long option and the value after its equals sign, if there is one. -/
def splitOption (body : Text) : Text × Option Text :=
  let name := body.takeWhile (· != '=')
  match body.drop name.length with
  | _ :: value => (name, some value)
  | [] => (name, none)

/-- Whether an argument is an option rather than a value; a lone hyphen is a value. -/
def looksLikeOption (argument : Text) : Bool :=
  argument.head? == some '-' && argument.length > 1

/-- The files behind the two hyphens that end the options. -/
def readFiles (arguments : Arguments) : List Text -> Request
  | [] => .session arguments
  | path :: paths =>
      match arguments.withFile? path with
      | some arguments => readFiles arguments paths
      | none => .misuse

/-- A cluster of short options, judged by the first. -/
def readShort (cluster : Text) : Request :=
  match cluster.head? with
  | some 'V' => .version
  | some 'h' => .help
  | _ => .misuse

def read (arguments : Arguments) : List Text -> Request
  | [] => .session arguments
  | ['-', '-'] :: rest => readFiles arguments rest
  | ('-' :: '-' :: body) :: rest =>
      let (name, value) := splitOption body
      match longOptions.lookup name, value with
      | some (.switch which), none =>
          match arguments.switchOn? which with
          | some arguments => read arguments rest
          | none => .misuse
      | some (.choice which), some value =>
          match arguments.choose? which value with
          | some arguments => read arguments rest
          | none => .misuse
      | some (.choice which), none =>
          match rest with
          | [] => .misuse
          | value :: rest =>
              if looksLikeOption value then
                .misuse
              else
                match arguments.choose? which value with
                | some arguments => read arguments rest
                | none => .misuse
      | some .version, none => .version
      | some .help, none => .help
      | _, _ => .misuse
  | ('-' :: c :: cluster) :: _ => readShort (c :: cluster)
  | path :: rest =>
      match arguments.withFile? path with
      | some arguments => read arguments rest
      | none => .misuse

def parse (words : List Text) : Request := read empty words

end Arguments
end LinePalette
