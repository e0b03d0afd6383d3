/-!
The status a boot step completes with and the exit code that reports it.
-/

namespace PartitionBoot

inductive Status where
  | success
  | unsupported
  | invalidParameter
  | notFound
  | outOfResources
  | accessDenied
  | deviceError
deriving DecidableEq

namespace Status

def exitCode : Status → Int
  | unsupported => -1
  | invalidParameter => -2
  | notFound => -7
  | _ => 0

def text : Status → String
  | success => "Success"
  | unsupported => "Unsupported"
  | invalidParameter => "Invalid Parameter"
  | notFound => "Not Found"
  | outOfResources => "Out of Resources"
  | accessDenied => "Access Denied"
  | deviceError => "Device Error"

end Status

end PartitionBoot
