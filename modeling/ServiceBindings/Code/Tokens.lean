import ServiceBindings.Code.Syntax
import ServiceBindings.Text.Quoted

/-!
Code as token trees, the form in which it is assembled and compared. A token tree is a single token or a group in
brackets; in the written form one space stands between two trees.
-/

namespace ServiceBindings.Code

/-- The brackets of a group. -/
inductive Brackets
  | round
  | square
  | curly
  deriving DecidableEq, Repr

/-- A token tree. -/
inductive Token
  | leaf (text : String)
  | group (brackets : Brackets) (items : List Token)
  deriving BEq, Repr

namespace Token

/-- A group in its brackets. Only curly ones keep a distance from what they hold. -/
def enclose (b : Brackets) (inner : String) : String :=
  match b with
  | .round => "(" ++ inner ++ ")"
  | .square => "[" ++ inner ++ "]"
  | .curly => if inner.isEmpty then "\x7b \x7d" else "\x7b " ++ inner ++ " \x7d"

mutual

/-- The written form of a token tree. -/
def render : Token → String
  | .leaf s => s
  | .group b items => enclose b (" ".intercalate (renderAll items))

/-- The written forms of token trees. -/
def renderAll : List Token → List String
  | [] => []
  | t :: ts => render t :: renderAll ts

end

end Token

/-- The written form of a sequence of token trees. -/
def renderTokens (ts : List Token) : String :=
  " ".intercalate (Token.renderAll ts)

/-- Puts a token between each two sequences. -/
def separated (separator : String) (parts : List (List Token)) : List Token :=
  [Token.leaf separator].intercalate parts

/-- Puts a token after each sequence. -/
def terminated (terminator : String) (parts : List (List Token)) : List Token :=
  parts.flatMap (· ++ [Token.leaf terminator])

/-- Words as tokens. -/
def leaves (words : List String) : List Token :=
  words.map .leaf

/-- An identifier as a token. -/
def Ident.token (i : Ident) : Token := .leaf i.text

/-- A path of names. -/
def pathTokens (rooted : Bool) (names : List Ident) : List Token :=
  (if rooted then [.leaf "::"] else []) ++ separated "::" (names.map fun n => [n.token])

/-- A lifetime as a token. -/
def lifetimeToken (name : String) : Token := .leaf ("'" ++ name)

mutual

/-- The tokens of a type. -/
def Ty.tokens : Ty → List Token
  | .path rooted names lifetimes args =>
    pathTokens rooted names ++
      (if lifetimes.isEmpty && args.isEmpty then []
       else [.leaf "<"] ++ separated "," (lifetimes.map (fun l => [lifetimeToken l]) ++ tyArgs args) ++ [.leaf ">"])
  | .ref lifetime exclusive target =>
    [.leaf "&"] ++ (lifetime.map lifetimeToken).toList ++ (if exclusive then [.leaf "mut"] else []) ++ target.tokens
  | .slice item => [.group .square item.tokens]
  | .unit => [.group .round []]
  | .dyn bound => .leaf "dyn" :: bound.tokens

/-- The tokens of each of several types. -/
def tyArgs : List Ty → List (List Token)
  | [] => []
  | t :: ts => t.tokens :: tyArgs ts

end

mutual

/-- The tokens of an expression. -/
def Expr.tokens : Expr → List Token
  | .path rooted names args =>
    pathTokens rooted names ++
      (if args.isEmpty then [] else leaves ["::", "<"] ++ separated "," (tyArgs args) ++ [.leaf ">"])
  | .item type trait name =>
    [.leaf "<"] ++ type.tokens ++ [.leaf "as"] ++ trait.tokens ++ leaves [">", "::"] ++ [name.token]
  | .text value => [.leaf (Text.literal value)]
  | .field base name => base.tokens ++ [.leaf ".", name.token]
  | .call function args => function.tokens ++ [.group .round (separated "," (exprArgs args))]
  | .method receiver name args =>
    receiver.tokens ++ [.leaf ".", name.token, .group .round (separated "," (exprArgs args))]
  | .ref target => .leaf "&" :: target.tokens
  | .deref target => .leaf "*" :: target.tokens
  | .paren inner => [.group .round inner.tokens]
  | .propagate inner => inner.tokens ++ [.leaf "?"]
  | .record name fields => [name.token, .group .curly (exprFields fields)]
  | .array items => [.group .square (separated "," (exprArgs items))]
  | .cases subject arms => .leaf "match" :: subject.tokens ++ [.group .curly (exprArms arms)]

/-- The tokens of each of several expressions. -/
def exprArgs : List Expr → List (List Token)
  | [] => []
  | e :: es => e.tokens :: exprArgs es

/-- The tokens of the fields of a record, each with its comma. -/
def exprFields : List (Ident × Expr) → List Token
  | [] => []
  | (n, e) :: rest => [n.token, .leaf ":"] ++ e.tokens ++ [.leaf ","] ++ exprFields rest

/-- The tokens of the arms of a case distinction, each with its comma. -/
def exprArms : List (Expr × Expr) → List Token
  | [] => []
  | (p, e) :: rest => p.tokens ++ [.leaf "=>"] ++ e.tokens ++ [.leaf ","] ++ exprArms rest

end

/-- The tokens of a binding. -/
def bindingTokens : Ident × Expr → List Token
  | (name, value) => [.leaf "let", name.token, .leaf "="] ++ value.tokens ++ [.leaf ";"]

/-- A block in its braces. -/
def Block.token (b : Block) : Token :=
  .group .curly (b.bindings.flatMap bindingTokens ++ b.result.tokens)

/-- A string literal, in raw form where it stands for a fixed comment. -/
def literalToken (raw : Bool) (text : String) : Token :=
  .leaf (if raw then "r\"" ++ text ++ "\"" else Text.literal text)

/-- The tokens of an option of serialisation. -/
def SerdeOption.tokens : SerdeOption → List Token
  | .rename name => [.leaf "rename", .leaf "=", literalToken false name]
  | .default => [.leaf "default"]
  | .skipSerializingIf predicate => [.leaf "skip_serializing_if", .leaf "=", literalToken false predicate]

/-- The token tree of an attribute without the sign in front. -/
def Attribute.token : Attribute → Token
  | .doc text raw => .group .square [.leaf "doc", .leaf "=", literalToken raw text]
  | .derive traits => .group .square [.leaf "derive", .group .round (separated "," (tyArgs traits))]
  | .serde options => .group .square [.leaf "serde", .group .round (separated "," (options.map SerdeOption.tokens))]

/-- The tokens of attributes of what follows. -/
def attrTokens (attrs : List Attribute) : List Token :=
  attrs.flatMap fun a => [.leaf "#", a.token]

/-- The tokens of attributes of what encloses them. -/
def innerAttrTokens (attrs : List Attribute) : List Token :=
  attrs.flatMap fun a => [.leaf "#", .leaf "!", a.token]

/-- The tokens of a visibility. -/
def visibility (isPub : Bool) : List Token :=
  if isPub then [.leaf "pub"] else []

/-- The tokens of a parameter. -/
def Param.tokens : Param → List Token
  | .receiver byRef => (if byRef then [.leaf "&"] else []) ++ [.leaf "self"]
  | .typed name type => [name.token, .leaf ":"] ++ type.tokens

/-- The tokens of a bound, which leave its last bracket to be joined with the one after it. -/
def boundTokens (t : Ty) : List Token × Bool :=
  match t with
  | .path rooted names lifetimes args =>
    if lifetimes.isEmpty && args.isEmpty then (pathTokens rooted names, false)
    else
      (pathTokens rooted names ++
        [.leaf "<"] ++ separated "," (lifetimes.map (fun l => [lifetimeToken l]) ++ tyArgs args), true)
  | t => (t.tokens, false)

/-- The tokens of type parameters with their bounds. -/
def genericTokens : List (Ident × Ty) → List Token
  | [] => []
  | [(name, bound)] =>
    let (ts, nested) := boundTokens bound
    [name.token, .leaf ":"] ++ ts ++ [.leaf (if nested then ">>" else ">")]
  | (name, bound) :: rest => [name.token, .leaf ":"] ++ bound.tokens ++ [.leaf ","] ++ genericTokens rest

/-- The tokens of the head of a function. -/
def Signature.tokens (s : Signature) : List Token :=
  [.leaf "fn", s.name.token] ++ (if s.generics.isEmpty then [] else .leaf "<" :: genericTokens s.generics) ++
    [.group .round (separated "," (s.params.map Param.tokens) ++ if s.trailingComma then [.leaf ","] else [])] ++
    [.leaf "->"] ++ s.output.tokens

/-- The tokens of a member of an implementation. -/
def Member.tokens : Member → List Token
  | .const attrs isPub name type value =>
    attrTokens attrs ++ visibility isPub ++ [.leaf "const", name.token, .leaf ":"] ++ type.tokens ++ [.leaf "="] ++
      value.tokens ++ [.leaf ";"]
  | .alias name type => [.leaf "type", name.token, .leaf "="] ++ type.tokens ++ [.leaf ";"]
  | .function attrs isPub signature body =>
    attrTokens attrs ++ visibility isPub ++ signature.tokens ++ [body.token]

/-- The tokens of a field. -/
def FieldDecl.tokens (f : FieldDecl) : List Token :=
  attrTokens f.attrs ++ visibility f.isPub ++ [f.name.token, .leaf ":"] ++ f.type.tokens

/-- The tokens of what is imported. -/
def Imports.tokens : Imports → List Token
  | .all => [.leaf "*"]
  | .names ns => [.group .curly (separated "," (ns.map fun n => [n.token]))]

/-- The tokens of an item. -/
def Item.tokens : Item → List Token
  | .module name => [.leaf "pub", .leaf "mod", name.token, .leaf ";"]
  | .imports isPub path what =>
    visibility isPub ++ [.leaf "use"] ++ terminated "::" (path.map fun n => [n.token]) ++ what.tokens ++ [.leaf ";"]
  | .struct attrs isPub name fields =>
    attrTokens attrs ++ visibility isPub ++ [.leaf "struct", name.token] ++
      match fields with
      | none => [.leaf ";"]
      | some fs => [.group .curly (terminated "," (fs.map FieldDecl.tokens))]
  | .enumeration attrs name variants =>
    attrTokens attrs ++ [.leaf "pub", .leaf "enum", name.token,
      .group .curly (terminated "," (variants.map fun v => attrTokens v.attrs ++ [v.name.token]))]
  | .trait attrs name parents methods =>
    attrTokens attrs ++ [.leaf "pub", .leaf "trait", name.token, .leaf ":"] ++
      separated "+" (parents.map Ty.tokens) ++
      [.group .curly (terminated ";" (methods.map fun (a, s) => attrTokens a ++ s.tokens))]
  | .implementation lifetimes bound target members =>
    [.leaf "impl"] ++
      (if lifetimes.isEmpty then []
       else [.leaf "<"] ++ separated "," (lifetimes.map fun l => [lifetimeToken l]) ++ [.leaf ">"]) ++
      (match bound with
       | none => []
       | some t => t.tokens ++ [.leaf "for"]) ++
      target.tokens ++ [.group .curly (members.flatMap Member.tokens)]

/-- The tokens of a file. -/
def File.tokens (f : File) : List Token :=
  innerAttrTokens f.docs ++ f.items.flatMap Item.tokens

end ServiceBindings.Code
