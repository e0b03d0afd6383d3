import PartitionBoot.Status

/-!
The error codes with which the supervisor refuses a call.
-/

namespace PartitionBoot

inductive CallError where
  | notSupported
  | invalidParameters
  | noMemory
  | busy
  | interrupted
  | denied
  | retry
  | aborted
  | noData
  | unknown (code : Int32)
deriving DecidableEq

namespace CallError

def ofCode (code : Int32) : CallError :=
  match code.toInt with
  | -1 => notSupported
  | -2 => invalidParameters
  | -3 => noMemory
  | -4 => busy
  | -5 => interrupted
  | -6 => denied
  | -7 => retry
  | -8 => aborted
  | -9 => noData
  | _ => unknown code

def code : CallError → Int32
  | notSupported => -1
  | invalidParameters => -2
  | noMemory => -3
  | busy => -4
  | interrupted => -5
  | denied => -6
  | retry => -7
  | aborted => -8
  | noData => -9
  | unknown code => code

def status : CallError → Status
  | notSupported => .unsupported
  | invalidParameters => .invalidParameter
  | noMemory => .outOfResources
  | denied => .accessDenied
  | noData => .notFound
  | _ => .deviceError

def name : CallError → String
  | notSupported => "NotSupported"
  | invalidParameters => "InvalidParameters"
  | noMemory => "NoMemory"
  | busy => "Busy"
  | interrupted => "Interrupted"
  | denied => "Denied"
  | retry => "Retry"
  | aborted => "Aborted"
  | noData => "NoData"
  | unknown _ => "Unknown"

def text : CallError → String
  | unknown code => s!"Unknown({code.toInt})"
  | other => other.name

end CallError

end PartitionBoot
