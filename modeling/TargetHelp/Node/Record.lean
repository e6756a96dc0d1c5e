import TargetHelp.Json.Writer
import TargetHelp.Node.Basic

/-!
# Node records

A node as a JSON object: its kind and the fields of that kind. Reading takes fields in any order
and ignores all others; a comment's target may be absent and is then empty, and an include is not
optional unless it says so.
-/

set_option autoImplicit false
set_option relaxedAutoImplicit false

namespace TargetHelp.Node

inductive RecordError where
  | notObject
  | missing (kind key : Text)
  | notText (kind key : Text)
  | optionalNotBool
  | unknownKind (kind : Json)
  deriving Repr

def RecordError.message : RecordError → Text
  | .notObject => "node must be a JSON object"
  | .missing kind key => kind ++ " node is missing " ++ Text.quoted key
  | .notText kind key => kind ++ " node field " ++ Text.quoted key ++ " must be a string"
  | .optionalNotBool => "include node field 'optional' must be a boolean"
  | .unknownKind kind => "unknown node kind " ++ kind.display

def commentKind : Text := "comment"

def targetKind : Text := "target"

def includeKind : Text := "include"

/-- The text under a key, or `default?` if the key is absent. -/
def textField (fields : Fields Json) (kind key : Text) (default? : Option Text) :
    Except RecordError Text :=
  match Fields.get? key fields with
  | some (.str t) => .ok t
  | some _ => .error (.notText kind key)
  | none =>
    match default? with
    | some t => .ok t
    | none => .error (.missing kind key)

def ofFields (fields : Fields Json) : Except RecordError Node := do
  let kind := (Fields.get? "kind" fields).getD .null
  match kind with
  | .str name =>
    if name = commentKind then
      let target ← textField fields name "target" (some [])
      let value ← textField fields name "value" none
      return .comment ⟨target, value⟩
    else if name = targetKind then
      return .target (← textField fields name "name" none)
    else if name = includeKind then
      match Fields.get? "optional" fields with
      | none => return .include (← textField fields name "path" none) false
      | some (.bool isOptional) => return .include (← textField fields name "path" none) isOptional
      | some _ => throw .optionalNotBool
    else throw (.unknownKind kind)
  | _ => throw (.unknownKind kind)

def ofJson : Json → Except RecordError Node
  | .obj fields => ofFields fields
  | _ => .error .notObject

def toJson : Node → Json
  | .comment c =>
    .obj [("kind", .str commentKind), ("target", .str c.target), ("value", .str c.value)]
  | .target name => .obj [("kind", .str targetKind), ("name", .str name)]
  | .include path isOptional =>
    .obj [("kind", .str includeKind), ("path", .str path), ("optional", .bool isOptional)]

/-- Reading a node's record gives the node back. -/
theorem ofJson_toJson (n : Node) : ofJson n.toJson = .ok n := by
  cases n <;> rfl

end TargetHelp.Node
