import RpcSession.Value.Basic

/-!
# Configuration of a session

What can be chosen for a session, with what holds when nothing is chosen.
-/

namespace RpcSession

def defaultCapabilities : List (String × Value) := [
  ("window", .object [
    ("workDoneProgress", .bool true),
    ("showMessage", .bool true),
    ("showDocument", .bool true)]),
  ("referencesProvider", .object [("workDoneProgress", .bool true)]),
  ("definitionProvider", .object [("workDoneProgress", .bool true)]),
  ("textDocument", .object [("formatting", .object [("dynamicRegistration", .bool true)])])]

structure Configuration where
  name : Value := .string "notify"
  logLevel : String := "INFO"
  structuredLogging : Bool := false
  /-- Whether a method that nobody answers is refused. -/
  strictMethods : Bool := false
  /-- Whether a change of a progress that has ended is refused. -/
  strictProgress : Bool := false
  capabilities : Value := .object defaultCapabilities
  progressDelay : Float := Float.ofBits 0x3fc999999999999a
  progressInterval : Float := Float.ofBits 0x3fb999999999999a
  deriving Inhabited

end RpcSession
