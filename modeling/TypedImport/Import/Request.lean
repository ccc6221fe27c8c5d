import TypedImport.Handler.Basic
import TypedImport.Import.Error
import TypedImport.Text.Blank

/-!
# Requests

An import names an asset and asserts its type; it may name a handler and an encoding, and it says what
it binds. A request is such an import with its URL, checked: the type is trimmed and not empty, and what
it binds and what it asserts go together.
-/

namespace TypedImport

/-- **The handler that an import names.** -/
inductive AssertedHandler where
  | inline (handler : Handler)
  | module (path : String)
  | absent

namespace AssertedHandler

/-- Whether an import names a handler. -/
def isExplicit : AssertedHandler → Bool
  | .absent => false
  | _ => true

/-- The text of a reference. -/
def text : AssertedHandler → String
  | .inline handler => "Inline(" ++ handler.name ++ " " ++ handler.id.text ++ ")"
  | .module path => "External(" ++ Text.quoted path ++ ")"
  | .absent => "Absent"

end AssertedHandler

/-- **What an import asserts.** -/
structure Assertion where
  type : String
  handler : AssertedHandler := .absent
  encoding : Option String := none

/-- **What an import binds.** -/
inductive Bindings where
  /-- Nothing: the import is made for its effect. -/
  | sideEffect
  | default (name : String)
  | named (names : List String)
  /-- All exports under one name. -/
  | all (name : String)
  /-- Nothing yet: the import is an expression. -/
  | dynamic
  deriving DecidableEq, Repr

namespace Assertion

/-- The keys of an assertion and their values, as they are read. -/
structure Slots where
  type : Option String := none
  handler : Option String := none
  encoding : Option String := none
  deriving DecidableEq, Repr

def Slots.write (slots : Slots) (key value : String) : Except AssertionFault Slots :=
  if key = "type" then
    if slots.type.isSome then .error (.duplicateKey key) else .ok { slots with type := some value }
  else if key = "handler" then
    if slots.handler.isSome then .error (.duplicateKey key)
    else .ok { slots with handler := some value }
  else if key = "encoding" then
    if slots.encoding.isSome then .error (.duplicateKey key)
    else .ok { slots with encoding := some value }
  else .error (.unsupportedKey key)

/-- Writes keys and values up to the first that cannot be written; then the slots so far are told
beside what is wrong. -/
def Slots.writeAll (slots : Slots) : List (String × String) → Except (Slots × AssertionFault) Slots
  | [] => .ok slots
  | (key, value) :: rest =>
    match slots.write key value with
    | .ok slots => slots.writeAll rest
    | .error fault => .error (slots, fault)

/-- **The assertion that keys and values spell.** In an error the specifier stands for the URL, which
is not known yet. -/
def ofPairs (specifier : String) (pairs : List (String × String)) : Except ImportError Assertion :=
  match ({} : Slots).writeAll pairs with
  | .error (slots, fault) =>
    .error (.assertion specifier specifier (slots.type.getD "") fault)
  | .ok slots =>
    match slots.type with
    | none => .error (.assertion specifier specifier "" .missingType)
    | some type =>
      .ok
        { type := type
          handler := match slots.handler with
            | some path => .module path
            | none => .absent
          encoding := slots.encoding }

/-- What is wrong with an assertion of a type that is not empty. -/
def fault? (a : Assertion) (bindings : Bindings) : Option AssertionFault :=
  let emptyPath := match a.handler with
    | .module path => Text.isBlankText path
    | _ => false
  if emptyPath then some .emptyModulePath
  else if a.handler.isExplicit && bindings = .sideEffect then some .handlerWithoutBinding
  else match bindings with
    | .named names =>
      if names.isEmpty || names.any Text.isBlankText then some .emptyNames else none
    | _ => none

/-- **Checks an assertion** for an import of a URL, and trims its type. -/
def check (a : Assertion) (specifier url : String) (bindings : Bindings) :
    Except ImportError Assertion :=
  let type := Text.trim a.type
  if type.isEmpty then .error (.assertion specifier url "" .emptyType)
  else
    match a.fault? bindings with
    | some fault => .error (.assertion specifier url type fault)
    | none => .ok { a with type := type }

end Assertion

/-- **A checked import of a URL.** -/
structure ImportRequest where
  specifier : String
  url : Url
  assertion : Assertion
  bindings : Bindings

namespace ImportRequest

/-- The request that an import makes, if its assertion is good. -/
def make (specifier : String) (url : Url) (assertion : Assertion) (bindings : Bindings) :
    Except ImportError ImportRequest :=
  match assertion.check specifier url.text bindings with
  | .ok assertion => .ok ⟨specifier, url, assertion, bindings⟩
  | .error e => .error e

/-- The asserted type. -/
def type (r : ImportRequest) : String :=
  r.assertion.type

end ImportRequest

end TypedImport
