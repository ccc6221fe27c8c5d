import TypedImport.Text.Blank

/-!
# Fallback policies

What an import gets that names no handler: the default of the registry, the host's own handler, or one
of them before the other.
-/

namespace TypedImport

/-- **Which handler an import gets that names none.** -/
inductive Policy where
  /-- The default of the registry, or none. -/
  | registryOnly
  /-- The default of the registry, or else the host's handler. -/
  | nativeOnRegistryMiss
  /-- The host's handler, or else the default of the registry. -/
  | preferNative
  deriving DecidableEq, Repr

namespace Policy

def name : Policy → String
  | .registryOnly => "registry-only"
  | .nativeOnRegistryMiss => "native-on-registry-miss"
  | .preferNative => "prefer-native"

def all : List Policy := [registryOnly, nativeOnRegistryMiss, preferNative]

/-- The policy with exactly this name. -/
def ofName? (s : String) : Option Policy :=
  all.find? fun p => p.name = s

/-- **The policy that a text names**, whatever its case, with blanks around it and underscores for
hyphens. -/
def read? (s : String) : Option Policy :=
  ofName? (Text.replaceChar '_' '-' (Text.lower (Text.trim s)))

end Policy

end TypedImport
