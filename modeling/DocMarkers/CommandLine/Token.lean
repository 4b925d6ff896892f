import DocMarkers.Text.Bytes
import DocMarkers.Text.Split

/-! # The tokens of a command line

A command line is a row of options, the name of a command, and the options and the operand of that
command. `tokens` reads the arguments on one side of the name, which needs to know only which
options there are and which of them take a value. Arguments are bytes, since they may be paths.
-/

namespace DocMarkers.CommandLine

/-- The commands. -/
inductive CommandName where
  | init
  | list
  | check
  | render
  deriving DecidableEq

/-- The name as it is written. -/
def CommandName.text : CommandName → String
  | init => "init"
  | list => "list"
  | check => "check"
  | render => "render"

/-- The command of a name. -/
def CommandName.ofBytes? (bytes : Bytes) : Option CommandName :=
  [init, list, check, render].find? fun name => Text.utf8 name.text == bytes

/-- The options without a value. -/
inductive Switch where
  | verbose
  | offline
  | strict
  | inPlace
  deriving DecidableEq

/-- The options with a value. -/
inductive Field where
  | format
  | out
  deriving DecidableEq

/-- What an option means. -/
inductive Meaning where
  | switch (switch : Switch)
  | field (field : Field)
  | version
  | help

/-- The options of one side of a command line, in their long and short spelling. In front of the
name of a command there is no command. -/
def options : Option CommandName → List (String × Option Char × Meaning)
  | none => shared
  | some .init | some .list => shared
  | some .check =>
    ("offline", none, .switch .offline) :: ("strict", none, .switch .strict) :: shared
  | some .render =>
    ("out", some 'o', .field .out) :: ("in-place", none, .switch .inPlace) ::
      ("offline", none, .switch .offline) :: shared
where
  /-- The options of every command. -/
  shared : List (String × Option Char × Meaning) :=
    [("format", some 'f', .field .format), ("verbose", some 'v', .switch .verbose),
      ("version", some 'V', .version), ("help", some 'h', .help)]

/-- The option of a long spelling. -/
def long? (side : Option CommandName) (name : Bytes) : Option Meaning :=
  ((options side).find? fun option => Text.utf8 option.1 == name).map (·.2.2)

/-- The option of a short spelling. -/
def short? (side : Option CommandName) (letter : UInt8) : Option Meaning :=
  ((options side).find? fun option => option.2.1.any (·.toNat == letter.toNat)).map (·.2.2)

/-- A part of a command line with a meaning. -/
inductive Token where
  | switch (switch : Switch)
  /-- An option with its value, which may stand apart from it. -/
  | value (field : Field) (bytes : Bytes) (apart : Bool)
  | version
  | help
  | operand (bytes : Bytes)
  /-- The name of a command, with all arguments behind it. -/
  | command (name : Bytes) (arguments : List Bytes)
  /-- An argument that nothing is known of, or one that lacks something. -/
  | fault

/-- The byte that options start with. -/
def dash : UInt8 := 0x2D

/-- The byte between an option and its value. -/
def equals : UInt8 := 0x3D

/-- An argument that is an option, and cannot be the value of the option before it. -/
def looksLikeOption (argument : Bytes) : Bool :=
  argument.head? == some dash && argument.length > 1

/-- The tokens of letters behind one dash, and the option at the end that lacks its value. -/
def letters (side : Option CommandName) : Bytes → List Token × Option Field
  | [] => ([], none)
  | letter :: rest =>
    match short? side letter with
    | none => ([.fault], none)
    | some .version => ([.version], none)
    | some .help => ([.help], none)
    | some (.switch switch) =>
      let (tokens, lacking) := letters side rest
      (.switch switch :: tokens, lacking)
    | some (.field field) =>
      if rest.isEmpty then ([], some field)
      else ([.value field ((Text.dropPrefix? [equals] rest).getD rest) false], none)

/-- The tokens of an argument behind two dashes, and the option that lacks its value. -/
def word (side : Option CommandName) (bytes : Bytes) : List Token × Option Field :=
  let (name, value?) := match Text.cutFirst? equals bytes with
    | none => (bytes, none)
    | some (name, value) => (name, some value)
  match long? side name, value? with
  | some (.field field), some value => ([.value field value false], none)
  | some (.field field), none => ([], some field)
  | some (.switch switch), none => ([.switch switch], none)
  | some .version, none => ([.version], none)
  | some .help, none => ([.help], none)
  | _, _ => ([.fault], none)

/-- The tokens of one side of a command line. In front of the name of a command, the first argument
that is no option is that name. Behind two lone dashes there are only operands. -/
def tokens (side : Option CommandName) : List Bytes → List Token
  | [] => []
  | argument :: rest =>
    if argument = [dash, dash] then if side.isNone then [.fault] else rest.map .operand
    else if looksLikeOption argument then
      let found := match Text.dropPrefix? [dash, dash] argument with
        | some name => word side name
        | none => letters side argument.tail
      match found.2 with
      | none => found.1 ++ tokens side rest
      | some field =>
        match rest with
        | [] => found.1 ++ [.fault]
        | value :: later =>
          if looksLikeOption value then found.1 ++ [.fault]
          else found.1 ++ .value field value true :: tokens side later
    else if side.isNone then [.command argument rest]
    else .operand argument :: tokens side rest

end DocMarkers.CommandLine
