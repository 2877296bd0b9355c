import Zygote.FileDescriptors.Info

/-!
# Registry entries and their actions

An entry says what is to happen to its descriptor after a fork. `execute` makes the
calls of the action the first time it is asked to and records that it did.
-/
namespace Zygote
open Effect Descriptors

/-- What to do with a descriptor when the actions are executed. -/
inductive Action where
  | close
  | closeUnlessSpawnSubspecies
  | dupeNull
  | ignore
  | reopen
  deriving DecidableEq, Repr

/-- The type of the spawned child process. -/
inductive ForkType where
  | application
  | subspecies
  deriving DecidableEq, Repr

inductive FileDescriptorEntryError where
  | closeFailed (fd : RawFd) (error : Errno)
  | dupFailed (existingFd newFd : RawFd) (path : Bytes) (error : Errno)
  | dupNullFailed (fd : RawFd) (error : Errno)
  | invalidCString
  | openFailure (path : Bytes) (error : Errno)
  | seekFailure (fd : RawFd) (path : Bytes) (offset : Int) (error : Errno)
  | setFdFlagsFailure (fd : RawFd) (path : Bytes) (flags : Flags) (error : Errno)
  | setFdStatusFlagsFailure (fd : RawFd) (path : Bytes) (flags : Flags) (error : Errno)
  deriving DecidableEq, Repr

structure FileDescriptorEntry where
  fd : RawFd
  info : FileDescriptorInfo
  action : Action
  executed : Bool
  deriving DecidableEq, Repr

namespace FileDescriptorEntry

def new (fd : RawFd) (info : FileDescriptorInfo) (action : Action) : FileDescriptorEntry :=
  { fd, info, action, executed := false }

/-- Check to see if the file descriptor has been closed. -/
def closed (entry : FileDescriptorEntry) : Bool :=
  match entry.action with
  | .close | .closeUnlessSpawnSubspecies => entry.executed
  | .dupeNull | .ignore | .reopen => false

/-- Open the recorded path again, give it the recorded flags and offset, and move it to
the entry's number. A call that fails leaves what the calls before it did. -/
def reopen (fd : RawFd) (path : CStringBuffer) (fdFlags fsFlagsOpen fsFlagsRest : Flags)
    (offset : Int) : Prog World FileDescriptorEntryError Unit := do
  let pathCStr ← Prog.lift (Outcome.ofOption .invalidCString path.asCStr)
  let newFd ← (openFd pathCStr fsFlagsOpen).mapErr (.openFailure pathCStr)
  (fcntlSetfd newFd fdFlags).mapErr (.setFdFlagsFailure newFd pathCStr fdFlags)
  (fcntlSetfl newFd fsFlagsRest).mapErr (.setFdStatusFlagsFailure newFd pathCStr fsFlagsRest)
  (lseekSet newFd offset).mapErr (.seekFailure newFd pathCStr offset)
  let dupFlags := if fdFlags &&& fdCloexec = fdCloexec then oCloexec else 0
  (dup3 newFd fd dupFlags).mapErr (.dupFailed fd newFd pathCStr)
  (close newFd).mapErr (.closeFailed fd)

/-- The calls of an action that has not been executed, and whether it then has been. -/
def perform (devNullFd : RawFd) (forkType : ForkType) (entry : FileDescriptorEntry) :
    Prog World FileDescriptorEntryError Bool :=
  match entry.action with
  | .close => do
      (close entry.fd).mapErr (.closeFailed entry.fd)
      pure true
  | .closeUnlessSpawnSubspecies =>
      match forkType with
      | .application => do
          (close entry.fd).mapErr (.closeFailed entry.fd)
          pure true
      | .subspecies => pure false
  | .dupeNull => do
      (dup3 devNullFd entry.fd oCloexec).mapErr (.dupNullFailed entry.fd)
      pure true
  | .ignore => pure false
  | .reopen =>
      match entry.info with
      | .file _ _ path fdFlags fsFlagsOpen fsFlagsRest offset => do
          reopen entry.fd path fdFlags fsFlagsOpen fsFlagsRest offset
          pure true
      | _ => Prog.panic "internal error: entered unreachable code"

/-- The mark is set last, so a call that fails leaves the entry as it was. -/
def execute (devNullFd : RawFd) (forkType : ForkType) :
    Prog (FileDescriptorEntry × World) FileDescriptorEntryError Bool := fun (entry, world) =>
  if entry.executed then (.ok true, entry, world)
  else match perform devNullFd forkType entry world with
    | (.ok done, after) => (.ok done, { entry with executed := done }, after)
    | (.err error, after) => (.err error, entry, after)
    | (.panic reason, after) => (.panic reason, entry, after)

/-- Close the descriptor whatever its action, unless that is to ignore it. -/
def overrideAndClose (entry : FileDescriptorEntry) : Prog World FileDescriptorEntryError Unit :=
  match entry.action with
  | .close | .closeUnlessSpawnSubspecies | .dupeNull | .reopen =>
      (close entry.fd).mapErr (.closeFailed entry.fd)
  | .ignore => pure ()

end FileDescriptorEntry
end Zygote
