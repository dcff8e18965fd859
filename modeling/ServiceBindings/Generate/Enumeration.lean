import ServiceBindings.Generate.Names

/-!
The code of an enumeration: its constants, the two directions between constants and wire values, and the ways in
which texts, paths and serialisation use them.
-/

namespace ServiceBindings.Generate

open Code

/-- `Self`, the type that an implementation is for. -/
def selfTy : Ty := tyPath ["Self"]

/-- A reference to a fixed text. -/
def staticStr : Ty := .ref (some "static") false (tyPath ["str"])

/-- A list of constants that lives as long as the program. -/
def staticSelves : Ty := .ref (some "static") false (.slice selfTy)

/-- A value or an error. -/
def resultTy (value error : Ty) : Ty := tyRooted ["std", "result", "Result"] [value, error]

/-- The type of errors of bindings. -/
def bindingErrorTy : Ty := tyPath ["clientgen", "BindingError"]

/-- The trait of enumerations with wire values. -/
def codecTy : Ty := tyPath ["clientgen", "EnumCodec"]

/-- The wire value of the receiver. -/
def encodedSelf : Expr := .method (.paren (.deref (exprPath ["self"]))) (plain "encode") []

/-- A constant as an expression. -/
def constantExpr (name : Ident) : Expr := .path false [plain "Self", name] []

/-- The head of a function without type parameters. -/
def head (name : String) (params : List Param) (output : Ty) : Signature :=
  { name := plain name, params, output }

/-- The implementation of the codec: the constants in order, and the wire value of each. -/
def codecItem (name : Ident) (constants : List (Ident × String)) : Item :=
  .implementation [] (some codecTy) (.path false [name] [] []) [
    .const [] false (plain "VALUES") staticSelves (.ref (.array (constants.map fun c => constantExpr c.1))),
    .function [] false (head "encode" [.receiver false] staticStr)
      { result := .cases (exprPath ["self"]) (constants.map fun c => (constantExpr c.1, .text c.2)) }]

/-- The functions of the enumeration itself. -/
def inherentItem (name : Ident) : Item :=
  .implementation [] none (.path false [name] [] []) [
    .const (comment [" Every constant, in declaration order."]) true (plain "VALUES") staticSelves
      (.item selfTy codecTy (plain "VALUES")),
    .function (comment [" The wire string for this constant."]) true (head "encode" [.receiver false] staticStr)
      { result := .call (.item selfTy codecTy (plain "encode")) [exprPath ["self"]] },
    .function
      (comment [" The constant whose wire string is `value`.", "", " ## Errors", "",
        " Returns `BindingError::UnknownEnumValue` if no constant matches."]) true
      (head "decode" [.typed (plain "value") (.ref none false (tyPath ["str"]))] (resultTy selfTy bindingErrorTy))
      { result := .call (.item selfTy codecTy (plain "decode")) [exprPath ["value"]] }]

/-- The implementations that turn a constant into a text and back. -/
def textItems (name : Ident) : List Item := [
  .implementation [] (some (tyRooted ["std", "fmt", "Display"] [])) (.path false [name] [] []) [
    .function [] false
      (head "fmt"
        [.receiver true,
          .typed (plain "f")
            (.ref none true (.path true (["std", "fmt", "Formatter"].map plain) ["_"] []))]
        (tyRooted ["std", "fmt", "Result"] []))
      { result := .method (exprPath ["f"]) (plain "write_str") [encodedSelf] }],
  .implementation [] (some (tyRooted ["std", "str", "FromStr"] [])) (.path false [name] [] []) [
    .alias (plain "Err") bindingErrorTy,
    .function [] false
      (head "from_str" [.typed (plain "s") (.ref none false (tyPath ["str"]))]
        (resultTy selfTy (tyPath ["Self", "Err"])))
      { result := .call (exprPath ["Self", "decode"]) [exprPath ["s"]] }],
  .implementation [] (some (tyPath ["clientgen", "PathValue"])) (.path false [name] [] []) [
    .function [] false (head "to_segment" [.receiver true] (tyRooted ["std", "string", "String"] []))
      { result :=
          .call (.path true (["std", "string", "ToString", "to_string"].map plain) []) [encodedSelf] }]]

/-- The implementations that serialise a constant and read it back. -/
def serdeItems (name : Ident) : List Item := [
  .implementation [] (some (tyPath ["serde", "Serialize"])) (.path false [name] [] []) [
    .function [] false
      { name := plain "serialize"
        generics := [(plain "S", tyPath ["serde", "Serializer"])]
        params := [.receiver true, .typed (plain "serializer") (tyPath ["S"])]
        output := resultTy (tyPath ["S", "Ok"]) (tyPath ["S", "Error"])
        trailingComma := true }
      { result := .method (exprPath ["serializer"]) (plain "serialize_str") [encodedSelf] }],
  .implementation ["de"] (some (.path false (["serde", "Deserialize"].map plain) ["de"] []))
    (.path false [name] [] []) [
    .function [] false
      { name := plain "deserialize"
        generics := [(plain "D", .path false (["serde", "Deserializer"].map plain) ["de"] [])]
        params := [.typed (plain "deserializer") (tyPath ["D"])]
        output := resultTy selfTy (tyPath ["D", "Error"])
        trailingComma := true }
      { bindings := [(plain "value",
          .propagate
            (.call
              (.item (tyRooted ["std", "string", "String"] []) (tyPath ["serde", "Deserialize"])
                (plain "deserialize"))
              [exprPath ["deserializer"]]))]
        result :=
          .method (.call (exprPath ["Self", "decode"]) [.ref (exprPath ["value"])]) (plain "map_err")
            [exprPath ["serde", "de", "Error", "custom"]] }]]

/-- The declaration of the enumeration. -/
def enumItem (e : Enumeration) (name : Ident) (constants : List (Ident × String)) : Item :=
  .enumeration
    [docOf e.description (ticked e.name ++ " enumeration."),
      .derive (["Debug", "Clone", "Copy", "PartialEq", "Eq", "Hash"].map fun t => tyPath [t])]
    name
    (constants.map fun c => ⟨[.doc (" Wire value " ++ ticked c.2 ++ ".") false], c.1⟩)

/-- The code of an enumeration. -/
def enumCode (e : Enumeration) : Except GenerationError (List Item) := do
  let name ← typeIdent e.name
  let constants ← e.constants.mapM fun c => do return (← typeIdent c.name, c.value)
  return [enumItem e name constants, codecItem name constants, inherentItem name] ++ textItems name ++
    serdeItems name

end ServiceBindings.Generate
