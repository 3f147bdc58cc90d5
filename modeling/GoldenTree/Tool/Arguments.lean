import GoldenTree.Text.Affix

/-! The arguments of a tool: one directory, at most one option with a value, and one flag. -/
namespace GoldenTree.Tool

open Text

/-- The option with a value, by its long name and its letter, and the flag. -/
structure Options where
  valued : Option (String × Char)
  flag : String

structure Arguments where
  dir : Option String
  value : Option String
  flag : Bool
  deriving Repr, DecidableEq

namespace Arguments

def none : Arguments := ⟨.none, .none, false⟩

/-- A directory may be given once and is not empty. -/
def addDir (a : Arguments) (dir : String) : Option Arguments :=
  if a.dir.isNone && dir != "" then some { a with dir := some dir } else .none

def addValue (a : Arguments) (value : String) : Option Arguments :=
  if a.value.isNone then some { a with value := some value } else .none

def addFlag (a : Arguments) : Option Arguments :=
  if a.flag then .none else some { a with flag := true }

/-- How an argument begins that gives the option a value. -/
inductive Use where
  /-- The value is part of the argument. -/
  | inline (value : String)
  /-- The value is the next argument. -/
  | next
  deriving Repr, DecidableEq

/-- The value behind a long name. -/
def longUse (rest : List Char) : Option Use :=
  match rest with
  | [] => some .next
  | '=' :: value => some (.inline (String.ofList value))
  | _ => .none

/-- The value behind a letter. -/
def shortUse (rest : List Char) : Use :=
  match rest with
  | [] => .next
  | '=' :: value => .inline (String.ofList value)
  | value => .inline (String.ofList value)

def use? (o : Options) (arg : List Char) : Option Use :=
  o.valued.bind fun (name, letter) =>
    match (after? ("--" ++ name).toList arg).bind longUse with
    | some use => some use
    | .none => (after? ['-', letter] arg).map shortUse

/-- Reads the arguments after those read so far; nothing if they cannot be understood. -/
def readFrom (o : Options) (a : Arguments) : List String → Option Arguments
  | [] => some a
  | arg :: rest =>
    if arg = "--" then rest.foldlM addDir a
    else if arg = "--" ++ o.flag then (a.addFlag).bind fun a => readFrom o a rest
    else match use? o arg.toList with
      | some (.inline value) => (a.addValue value).bind fun a => readFrom o a rest
      | some .next =>
        match rest with
        | [] => .none
        | value :: rest =>
          if value.toList.head? = some '-' then .none
          else (a.addValue value).bind fun a => readFrom o a rest
      | .none =>
        if arg.toList.head? = some '-' ∧ arg ≠ "-" then .none
        else (a.addDir arg).bind fun a => readFrom o a rest

def read (o : Options) (args : List String) : Option Arguments := readFrom o none args

end Arguments

end GoldenTree.Tool
