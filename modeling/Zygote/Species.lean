import Zygote.FileDescriptors.Entry
import Zygote.Messages.Message

/-!
# Species

The callbacks of a species that decide something: its allow lists, its default
actions and the payloads it accepts. The ones that act on the process are answered by
the environment.
-/
namespace Zygote

inductive SpeciesTag where
  | androidNative
  | libApp
  | mock
  deriving DecidableEq, Repr

def SpeciesTag.name : SpeciesTag → String
  | .androidNative => "android-native-app"
  | .libApp => "lib-app"
  | .mock => "mock"

structure Species where
  tag : SpeciesTag
  boundAbstractSocketIsAllowed : String → Bool
  boundSocketPathIsAllowed : String → Bool
  peerSocketPathIsAllowed : String → Bool
  getPeerSocketAction : String → Option Action
  fileIsAllowed : Bytes → Bool
  getFileAction : Bytes → Option Action
  isSpawnPayloadType : SpawnPayload → Bool

def Species.name (species : Species) : String := species.tag.name

/-- An entry of an allow list. -/
structure AllowListEntry (α : Type) where
  data : α
  action : Action

namespace Mock

def allowedFilePaths : List (AllowListEntry Bytes) :=
  [⟨"/tmp/mock_file_1".toUTF8.data.toList, .ignore⟩]

def allowedSocketNames : List (AllowListEntry String) := [⟨"test_socket_abstract_1", .ignore⟩]

def allowedSocketPaths : List (AllowListEntry String) := [⟨"/tmp/test_socket_bound_1", .ignore⟩]

end Mock

def Species.turtle : Species where
  tag := .mock
  boundAbstractSocketIsAllowed name := Mock.allowedSocketNames.any (·.data == name)
  boundSocketPathIsAllowed path := Mock.allowedSocketPaths.any (·.data == path)
  peerSocketPathIsAllowed path := Mock.allowedSocketPaths.any (·.data == path)
  getPeerSocketAction path := (Mock.allowedSocketPaths.find? (·.data == path)).map (·.action)
  fileIsAllowed path := Mock.allowedFilePaths.any (·.data == path)
  getFileAction path := (Mock.allowedFilePaths.find? (·.data == path)).map (·.action)
  isSpawnPayloadType
    | .mock _ => true
    | _ => false

end Zygote
