import Terracotta.Contracts
import Terracotta.Text
import Mathlib.Data.List.Sort
/-!
# Game sessions, LAN ports and room codes on the plugin's side

`GameSessionCoordinator.Select`, `LanAddressResolver.ToLoopbackAddress` and `RoomCode.TryParse`.
-/
namespace Terracotta

def isNullOrWhiteSpace : Option String → Bool
  | none => true
  | some s => s.toList.all Text.isWhitespace

/-! ## `GameSessionCoordinator` -/

inductive PluginGameSessionState where
  | starting | running | exited | crashed | terminated
deriving DecidableEq, Repr

structure PluginGameSessionSnapshot where
  sessionId : String
  instanceId : Option String
  state : PluginGameSessionState
  startedAt : Nat
  lanAddress : Option String
deriving DecidableEq, Repr

structure GameSessionSelection where
  selected : Option PluginGameSessionSnapshot
  candidates : List PluginGameSessionSnapshot
  reason : Option String
deriving DecidableEq, Repr

def utf16 (s : String) : List Nat :=
  s.toList.flatMap (fun c =>
    if c.toNat < 0x10000 then [c.toNat]
    else [0xD800 + (c.toNat - 0x10000) / 0x400, 0xDC00 + (c.toNat - 0x10000) % 0x400])

/-- `OrderByDescending(StartedAt).ThenBy(SessionId, Ordinal)`. -/
def startedBefore (a b : PluginGameSessionSnapshot) : Prop :=
  b.startedAt < a.startedAt ∨ a.startedAt = b.startedAt ∧ utf16 a.sessionId ≤ utf16 b.sessionId

instance : DecidableRel startedBefore := fun a b =>
  inferInstanceAs (Decidable (b.startedAt < a.startedAt ∨ a.startedAt = b.startedAt ∧
    utf16 a.sessionId ≤ utf16 b.sessionId))

def GameSessionCoordinator.select (sessions : List PluginGameSessionSnapshot) (explicitSessionId : Option String)
    (currentInstanceId : Option String) (selectMostRecent : Bool) : GameSessionSelection :=
  let running := (sessions.filter (·.state = .running)).insertionSort startedBefore
  if !isNullOrWhiteSpace explicitSessionId then
    match running.find? (fun session => some session.sessionId = explicitSessionId) with
    | none => ⟨none, running, some "The selected Minecraft session is not running."⟩
    | some selected => ⟨some selected, running, some "Explicit selection"⟩
  else match running with
  | [only] => ⟨some only, running, some "Only running session"⟩
  | _ =>
    match if isNullOrWhiteSpace currentInstanceId then []
      else running.filter (fun session => session.instanceId = currentInstanceId) with
    | [only] => ⟨some only, running, some "Current instance"⟩
    | _ => match running with
      | [] => ⟨none, running, some "No running Minecraft session was found."⟩
      | first :: _ =>
        if selectMostRecent then ⟨some first, running, some "Most recently started session"⟩
        else ⟨none, running, some "Multiple Minecraft sessions require a user selection."⟩

/-! ## `LanAddressResolver.ToLoopbackAddress` -/

/-- The address, or the message of the `ArgumentOutOfRangeException`. -/
def toLoopbackAddress (port : Int) : Except String String :=
  if 0 < port ∧ port ≤ 65535 then .ok ("127.0.0.1:" ++ toString port)
  else .error "LAN port must be between 1 and 65535. (Parameter 'port')"

/-! ## `RoomCode` -/

/-- `RoomCode.TryNormalize`.  A character outside ASCII is refused whatever its length in UTF-16. -/
def RoomCode.tryNormalize (value : Option String) : Option String := do
  let text ← value
  if isNullOrWhiteSpace (some text) then none
  else
    let compact := (Text.trim text.toList).filter (· ≠ '-')
    if compact.length ≠ 12 ∨ !compact.all Char.isAlphanum then none
    else
      let upper := compact.map Char.toUpper
      some (String.ofList (upper.take 4 ++ '-' :: (upper.drop 4).take 4 ++ '-' :: upper.drop 8))

/-- `RoomCode.TryParse`; the constructor normalizes what was normalized once more. -/
def RoomCode.tryParse (value : Option String) : Option String := do
  let normalized ← RoomCode.tryNormalize value
  RoomCode.tryNormalize (some normalized)

example : RoomCode.tryParse (some " abcd-1234-efgh ") = some "ABCD-1234-EFGH" := by decide

end Terracotta
