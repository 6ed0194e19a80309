import Gawd.Wire.Contract

/-!
Bus addresses, and how a coordinator's written address becomes a route.
-/

namespace Gawd.Wire

open Gawd.Logic

inductive Address where
  | creature (creature : Nat)
  | node (node : String) (creature : Nat)
  | nodeRole (node : String) (role : String)
  | kernel
  | topic (topic : String)
  | role (role : String)
  | intent (outcome : String) (requirements : List String)
  | realm (realm : String) (target : Address)
  | omega (realm : String) (target : Address)
deriving DecidableEq

/-- The address as `{:?}` writes it. -/
def Address.debug : Address → String
  | .creature id => s!"Creature(CreatureId({id}))"
  | .node host id => "Node(NodeId(" ++ host.quote ++ s!"), CreatureId({id}))"
  | .nodeRole host name => "NodeRole(NodeId(" ++ host.quote ++ "), Role(" ++ name.quote ++ "))"
  | .kernel => "Kernel"
  | .topic name => "Topic(Topic(" ++ name.quote ++ "))"
  | .role name => "Role(Role(" ++ name.quote ++ "))"
  | .intent outcome requirements =>
    "Intent(Intent \x7b outcome: " ++ outcome.quote ++ ", requirements: [" ++
      ", ".intercalate (requirements.map String.quote) ++ "] \x7d)"
  | .realm name target =>
    "Realm \x7b realm: RealmId(" ++ name.quote ++ "), target: " ++ target.debug ++ " \x7d"
  | .omega name target =>
    "Omega \x7b realm: RealmId(" ++ name.quote ++ "), target: " ++ target.debug ++ " \x7d"

/-- Drop a leading text, when it is there. -/
def stripPrefix (text leading : String) : Option String :=
  if leading.toList.isPrefixOf text.toList then
    some (String.ofList (text.toList.drop leading.toList.length))
  else
    none

/-- Parse `creature:<u64>`, raw `<u64>`, or `role:<name>`. -/
def parseAddress (value : String) : Except String Address :=
  match stripPrefix value "role:" with
  | some role => do
    reject (Text.plain role).isBlank "empty role address"
    return .role role
  | none =>
    match parseU64 ((stripPrefix value "creature:").getD value) with
    | some id => .ok (.creature id)
    | none => .error s!"`{value}` is not creature:<u64>, <u64>, or role:<name>"

/-- Route to a target that may live on another node or in another Realm. -/
def routedAddress (localRealm localNode targetRealm targetNode : String) (target : Address) :
    Except String Address :=
  if targetRealm = localRealm ∧ targetNode = localNode then
    .ok target
  else do
    let nodeTarget ← match target with
      | .creature creature => .ok (.node targetNode creature)
      | .role role =>
        if targetRealm ≠ localRealm then .ok (.role role)
        else .error "a role address cannot select one remote node inside the same Realm"
      | _ => .error "home coordinator must be a creature or role address"
    return if targetRealm = localRealm then nodeTarget else .omega targetRealm nodeTarget

/-- A canonical decimal identity above zero. -/
def positiveCreatureId (value : String) : Bool :=
  match parseU64 value with
  | some id => 0 < id && toString id == value
  | none => false

end Gawd.Wire
