import TypedImport.Handler.Native
import TypedImport.Handler.Module
import TypedImport.Handler.Registry
import TypedImport.Import.Request

/-!
# Resolving handlers

Which handler an import gets. One that it names counts; a module that it names gives its handler. If it
names none, the policy chooses between the default of the registry and the handler of the host. Whatever
was chosen must take the asserted type.

**Early and late.** The handler of the host depends on the media type of the asset, which is known only
once the asset is loaded. `needsMedia` tells whether the choice has to wait for it.
-/

namespace TypedImport

/-- **What handlers are resolved from.** -/
structure Resolver where
  policy : Policy
  registry : Registry := .empty
  native : NativeMemo
  modules : ModuleTable := {}
  memo : ModuleMemo := []

namespace Resolver

/-- **Whether the choice of a handler has to wait for the media type of the asset.** -/
def needsMedia (r : Resolver) (reference : AssertedHandler) (type : String) : Bool × Resolver :=
  match reference with
  | .absent =>
    let (offered, native) := r.native.offers type
    let needed := offered && match r.policy with
      | .registryOnly => false
      | .nativeOnRegistryMiss => (r.registry.forType? type).isNone
      | .preferNative => true
    (needed, { r with native := native })
  | _ => (false, r)

/-- The host's handler for a type and a media type. -/
def nativeChoice (r : Resolver) (type media : String) : Option Descriptor × Resolver :=
  let (supported, native) := r.native.supports type media
  if supported then
    let (handler, native) := native.handler? type
    (handler.map Descriptor.native, { r with native := native })
  else (none, { r with native := native })

/-- The handler that the policy chooses. -/
def choice (r : Resolver) (type media : String) : Option Descriptor × Resolver :=
  match r.policy with
  | .registryOnly => (r.registry.forType? type, r)
  | .nativeOnRegistryMiss =>
    match r.registry.forType? type with
    | some d => (some d, r)
    | none => r.nativeChoice type media
  | .preferNative =>
    match r.nativeChoice type media with
    | (some d, r) => (some d, r)
    | (none, r) => (r.registry.forType? type, r)

/-- Why the policy chose no handler. -/
def missReason (r : Resolver) (type : String) : ResolutionFault × Resolver :=
  match r.policy with
  | .registryOnly =>
    let (offered, native) := r.native.offers type
    (if offered then .nativeNotAsked type r.policy else .noHandler type, { r with native := native })
  | _ => (.noHandler type, r)

/-- The handler of an import that names none. -/
def resolveDefault (r : Resolver) (url type media : String) :
    Except ImportError Descriptor × Resolver :=
  match r.choice type media with
  | (some d, r) => (.ok d, r)
  | (none, r) =>
    let (reason, r) := r.missReason type
    (.error (.handlerResolution url type none reason), r)

/-- What an attempt to make a module gives the import that made it. -/
def settleModule (r : Resolver) (path url type : String) (result : Except Failure HandlerModule) :
    Except ImportError Descriptor × Resolver :=
  let (result, memo) := r.memo.settle path result
  (match result with
    | .ok d => .ok d
    | .error fault =>
      .error (.handlerResolution url type (some (HandlerId.derive .externalModule path))
        (.badModule path fault)),
    { r with memo := memo })

/-- The handler of an import that names a module. -/
def resolveModule (r : Resolver) (path url type : String) :
    Except ImportError Descriptor × Resolver :=
  match r.memo.find? path with
  | some d => (.ok d, r)
  | none =>
    let (result, modules) := r.modules.instantiate path
    { r with modules := modules }.settleModule path url type result

/-- The handler of an import before its type is looked at. -/
def candidate (r : Resolver) (reference : AssertedHandler) (url type media : String) :
    Except ImportError Descriptor × Resolver :=
  match reference with
  | .inline handler => (.ok (.inline handler), r)
  | .module path => r.resolveModule path url type
  | .absent => r.resolveDefault url type media

/-- A descriptor, if it takes a type. -/
def accepted (url type : String) (d : Descriptor) : Except ImportError Descriptor :=
  if d.supports type then .ok d
  else
    .error (.handlerResolution url type (some d.id)
      (.unsupportedType d.handler.name type d.types))

/-- **The handler of an import** of an asset of a media type. -/
def resolve (r : Resolver) (reference : AssertedHandler) (url type media : String) :
    Except ImportError Descriptor × Resolver :=
  match r.candidate reference url type media with
  | (.ok d, r) => (accepted url type d, r)
  | (.error e, r) => (.error e, r)

/-- Makes a handler the default of types. -/
def define (r : Resolver) (types : List String) (handler : Handler) :
    Except ImportError Descriptor × Resolver :=
  match r.registry.define types handler with
  | .ok (d, registry) => (.ok d, { r with registry := registry })
  | .error fault => (.error (.registry fault), r)

end Resolver

end TypedImport
