import PackageSearch.Host.Fault

/-!
Why one way of detecting installed packages fails.
-/

namespace PackageSearch

inductive ProbeError where
  | notStarted (command : String) (fault : Host.Fault)
  /-- The command ended without success; there is no exit code if a signal ended it. -/
  | exited (command : String) (code : Option Int) (complaint : String)
  | noOutput (command : String)
  | timedOut (command : String) (seconds : Nat)
  deriving DecidableEq, Repr

namespace ProbeError

def codeText : Option Int → String
  | none => "None"
  | some code => "Some(" ++ toString code ++ ")"

def message : ProbeError → String
  | .notStarted command fault => "无法启动 " ++ command ++ ": " ++ fault.message
  | .exited command code complaint =>
      command ++ " 退出码 " ++ codeText code ++ ": " ++ complaint
  | .noOutput command => command ++ " 没有输出"
  | .timedOut command seconds => command ++ " 超时 (" ++ toString seconds ++ "s)"

end ProbeError

end PackageSearch
