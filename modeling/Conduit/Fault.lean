set_option autoImplicit false

namespace Conduit

inductive FaultKind
  | notFound
  | permissionDenied
  | connectionRefused
  | connectionReset
  | hostUnreachable
  | networkUnreachable
  | connectionAborted
  | notConnected
  | addressInUse
  | addressNotAvailable
  | networkDown
  | brokenPipe
  | alreadyExists
  | wouldBlock
  | notADirectory
  | isADirectory
  | resourceBusy
  | storageFull
  | deadlock
  | invalidInput
  | invalidData
  | timedOut
  | writeZero
  | interrupted
  | unsupported
  | unexpectedEnd
  | outOfMemory
  | nameTooLong
  | other
  | uncategorized
  deriving DecidableEq, Repr

def FaultKind.description : FaultKind → String
  | notFound => "entity not found"
  | permissionDenied => "permission denied"
  | connectionRefused => "connection refused"
  | connectionReset => "connection reset"
  | hostUnreachable => "host unreachable"
  | networkUnreachable => "network unreachable"
  | connectionAborted => "connection aborted"
  | notConnected => "not connected"
  | addressInUse => "address in use"
  | addressNotAvailable => "address not available"
  | networkDown => "network down"
  | brokenPipe => "broken pipe"
  | alreadyExists => "entity already exists"
  | wouldBlock => "operation would block"
  | notADirectory => "not a directory"
  | isADirectory => "is a directory"
  | resourceBusy => "resource busy"
  | storageFull => "no storage space"
  | deadlock => "deadlock"
  | invalidInput => "invalid input parameter"
  | invalidData => "invalid data"
  | timedOut => "timed out"
  | writeZero => "write zero"
  | interrupted => "operation interrupted"
  | unsupported => "unsupported"
  | unexpectedEnd => "unexpected end of file"
  | outOfMemory => "out of memory"
  | nameTooLong => "invalid filename"
  | other => "other error"
  | uncategorized => "uncategorized error"

structure SystemError where
  number : Nat
  kind : FaultKind
  text : String

def systemErrors : List SystemError :=
  [ ⟨1, .permissionDenied, "Operation not permitted"⟩,
    ⟨2, .notFound, "No such file or directory"⟩,
    ⟨4, .interrupted, "Interrupted system call"⟩,
    ⟨5, .uncategorized, "Input/output error"⟩,
    ⟨9, .uncategorized, "Bad file descriptor"⟩,
    ⟨11, .wouldBlock, "Resource temporarily unavailable"⟩,
    ⟨12, .outOfMemory, "Cannot allocate memory"⟩,
    ⟨13, .permissionDenied, "Permission denied"⟩,
    ⟨16, .resourceBusy, "Device or resource busy"⟩,
    ⟨17, .alreadyExists, "File exists"⟩,
    ⟨20, .notADirectory, "Not a directory"⟩,
    ⟨21, .isADirectory, "Is a directory"⟩,
    ⟨22, .invalidInput, "Invalid argument"⟩,
    ⟨24, .uncategorized, "Too many open files"⟩,
    ⟨28, .storageFull, "No space left on device"⟩,
    ⟨32, .brokenPipe, "Broken pipe"⟩,
    ⟨35, .deadlock, "Resource deadlock avoided"⟩,
    ⟨36, .nameTooLong, "File name too long"⟩,
    ⟨38, .unsupported, "Function not implemented"⟩,
    ⟨95, .unsupported, "Operation not supported"⟩,
    ⟨98, .addressInUse, "Address already in use"⟩,
    ⟨99, .addressNotAvailable, "Cannot assign requested address"⟩,
    ⟨100, .networkDown, "Network is down"⟩,
    ⟨101, .networkUnreachable, "Network is unreachable"⟩,
    ⟨103, .connectionAborted, "Software caused connection abort"⟩,
    ⟨104, .connectionReset, "Connection reset by peer"⟩,
    ⟨107, .notConnected, "Transport endpoint is not connected"⟩,
    ⟨110, .timedOut, "Connection timed out"⟩,
    ⟨111, .connectionRefused, "Connection refused"⟩,
    ⟨113, .hostUnreachable, "No route to host"⟩ ]

def SystemError.ofNumber (number : Nat) : SystemError :=
  (systemErrors.find? (·.number == number)).getD
    ⟨number, .uncategorized, s!"Unknown error {number}"⟩

inductive Fault
  | plain (kind : FaultKind)
  | described (kind : FaultKind) (text : String)
  | system (number : Nat)
  deriving DecidableEq, Repr

namespace Fault

def kind : Fault → FaultKind
  | plain kind => kind
  | described kind _ => kind
  | system number => (SystemError.ofNumber number).kind

def message : Fault → String
  | plain kind => kind.description
  | described _ text => text
  | system number => s!"{(SystemError.ofNumber number).text} (os error {number})"

def nulByte : Fault := described .invalidInput "file name contained an unexpected NUL byte"

end Fault

end Conduit
