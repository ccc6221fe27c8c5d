import TypedImport.Table

/-!
# Arguments

The words after the program's name: the path of an asset, options with a value, and switches.

**Reading.** An option is a long word (`--type`) or a short one (`-t`). Its value is the rest of the
word, after an equals sign that a short option may leave out, or else the next word, unless that looks
like an option itself. After `--` every word is a path. No option is given twice, and there is exactly
one path. `--help` and `--version` end the reading where they stand: what is wrong before them is told,
what is wrong after them is not.
-/

namespace TypedImport.CommandLine

/-- **An option with a value.** -/
inductive Field where
  | type
  | handler
  | encoding
  | policy
  | config
  deriving DecidableEq, Repr

namespace Field

/-- The long word of an option, without its hyphens. -/
def long : Field → String
  | .type => "type"
  | .handler => "handler"
  | .encoding => "encoding"
  | .policy => "policy"
  | .config => "config"

/-- The letter of an option, if it has one. -/
def short? : Field → Option Char
  | .type => some 't'
  | .policy => some 'p'
  | .config => some 'c'
  | .handler | .encoding => none

/-- All options with a value, as they are listed. -/
def all : List Field := [type, handler, encoding, policy, config]

/-- The option of a long word. -/
def ofLong? (name : String) : Option Field :=
  all.find? fun f => f.long = name

def ofShort? (letter : Char) : Option Field :=
  all.find? fun f => f.short? = some letter

/-- Whether a text is a value for an option: the path of a configuration is not empty. -/
def takes (f : Field) (value : String) : Bool :=
  f ≠ .config || !value.isEmpty

end Field

/-- **Why there is nothing to run.** -/
inductive Stop where
  | help
  | version
  | misuse
  deriving DecidableEq, Repr

/-- **What the arguments ask for.** -/
structure Arguments where
  path : String
  type : String
  handler : Option String := none
  encoding : Option String := none
  policy : Option String := none
  config : Option String := none
  verbose : Bool := false
  deriving DecidableEq, Repr

namespace Arguments

/-- **What has been read so far.** -/
structure Reading where
  fields : Table Field String := []
  path : Option String := none
  verbose : Bool := false
  /-- The option whose value is the next word. -/
  awaited : Option Field := none
  /-- Whether every word to come is a path. -/
  onlyPaths : Bool := false

namespace Reading

def putPath (r : Reading) (word : String) : Except Stop Reading :=
  match r.path with
  | none => .ok { r with path := some word }
  | some _ => .error .misuse

/-- The value of an option is given. -/
def putField (r : Reading) (f : Field) (value : String) : Except Stop Reading :=
  if r.fields.has f || !f.takes value then .error .misuse
  else .ok { r with fields := r.fields.put f value, awaited := none }

/-- The option is given; its value is here or is awaited. -/
def field (r : Reading) (f : Field) : Option String → Except Stop Reading
  | some value => r.putField f value
  | none => .ok { r with awaited := some f }

/-- A long word, cut at its first equals sign. -/
def longWord (r : Reading) (name : String) (value : Option String) : Except Stop Reading :=
  match Field.ofLong? name, value with
  | some f, value => r.field f value
  | none, some _ => .error .misuse
  | none, none =>
    if name = "help" then .error .help
    else if name = "version" then .error .version
    else if name = "verbose" && !r.verbose then .ok { r with verbose := true }
    else .error .misuse

/-- A short word: a letter, and what follows it. -/
def shortWord (r : Reading) (letter : Char) (rest : List Char) : Except Stop Reading :=
  if letter = 'h' then .error .help
  else if letter = 'V' then .error .version
  else
    match Field.ofShort? letter with
    | none => .error .misuse
    | some f =>
      r.field f (match rest with
        | [] => none
        | '=' :: value => some (String.ofList value)
        | value => some (String.ofList value))

/-- A word that looks like an option, which no option can have for its value. -/
def optionWord (r : Reading) (read : Reading → Except Stop Reading) : Except Stop Reading :=
  match r.awaited with
  | none => read r
  | some _ => .error .misuse

/-- **Reads a word.** -/
def word (r : Reading) (arg : String) : Except Stop Reading :=
  if r.onlyPaths then r.putPath arg
  else
    match arg.toList with
    | ['-', '-'] => r.optionWord fun r => .ok { r with onlyPaths := true }
    | '-' :: '-' :: rest =>
      r.optionWord fun r =>
        r.longWord (String.ofList (rest.takeWhile (· != '=')))
          (match rest.dropWhile (· != '=') with
            | [] => none
            | _ :: value => some (String.ofList value))
    | '-' :: letter :: rest => r.optionWord fun r => r.shortWord letter rest
    | _ =>
      match r.awaited with
      | some f => r.putField f arg
      | none => r.putPath arg

/-- What has been read, if nothing is missing. -/
def finish (r : Reading) : Except Stop Arguments :=
  match r.awaited, r.path, r.fields.get? .type with
  | none, some path, some type =>
    .ok
      { path := path
        type := type
        handler := r.fields.get? .handler
        encoding := r.fields.get? .encoding
        policy := r.fields.get? .policy
        config := r.fields.get? .config
        verbose := r.verbose }
  | _, _, _ => .error .misuse

end Reading

/-- **Reads the words after the program's name.** -/
def read (args : List String) : Except Stop Arguments := do
  (← args.foldlM Reading.word {}).finish

end Arguments

end TypedImport.CommandLine
