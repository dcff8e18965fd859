import ServiceBindings.Code.Layout
import ServiceBindings.Code.Syntax
import ServiceBindings.Text.Quoted

/-!
Code as formatted text: every piece of syntax as a layout. Documentation is written as comments wherever its text
allows it.
-/

namespace ServiceBindings.Code

open Layout

/-! ### Paths and types -/

/-- An identifier. -/
def Ident.layout (i : Ident) : Layout := .text i.text

/-- A lifetime. -/
def lifetimeText (name : String) : String := "'" ++ name

/-- The names of a path. -/
def pathLayout (rooted : Bool) (names : List Ident) : List Layout :=
  (if rooted then word "::" else []) ++ [Layout.text "::"].intercalate (names.map fun n => [n.layout])

/-- Elements in angle brackets. -/
def angleBrackets (indent : Int) (elements : List (List Layout)) : List Layout :=
  word "<" ++ cbox indent (outdent (zeroBreak :: commaSeparated {} elements)) ++ word ">"

mutual

/-- A type. -/
def Ty.layout : Ty → List Layout
  | .path rooted names lifetimes args =>
    pathLayout rooted names ++
      if lifetimes.isEmpty && args.isEmpty then []
      else angleBrackets step (lifetimes.map (fun l => word (lifetimeText l)) ++ tyLayouts args)
  | .ref lifetime exclusive target =>
    word "&" ++ (lifetime.map fun l => Layout.text (lifetimeText l ++ " ")).toList ++
      (if exclusive then word "mut " else []) ++ target.layout
  | .slice item => word "[" ++ item.layout ++ word "]"
  | .unit => word "()"
  | .dyn bound => word "dyn " ++ bound.layout

/-- Each of several types. -/
def tyLayouts : List Ty → List (List Layout)
  | [] => []
  | t :: ts => t.layout :: tyLayouts ts

end

/-! ### Expressions -/

/-- Whether an expression is a single name that is no longer than a step of indentation. -/
def Expr.isShortName : Expr → Bool
  | .path false [n] [] => n.text.utf8ByteSize ≤ step.toNat
  | _ => false

/-- Whether an expression brings brackets of its own along as the only argument of a call. -/
def Expr.isBlockLike : Expr → Bool
  | .record .. | .array _ => true
  | _ => false

/-- The place before a dot. A short name at the beginning of a line keeps the dot beside it. -/
def beforeDot (lineStart : Bool) (receiver : Expr) : List Layout :=
  if lineStart && receiver.isShortName then [] else [zeroBreak]

/-- The arguments of a call, given as layouts. -/
def argumentList (args : List (List Layout)) (single : Bool) : List Layout :=
  if single then args.flatten else cbox step (outdent (zeroBreak :: commaSeparated {} args))

/-- Whether a call has one argument that brings its own brackets along. -/
def isSingleBlock : List Expr → Bool
  | [e] => e.isBlockLike
  | _ => false

mutual

/-- An expression, at the beginning of a line or elsewhere. -/
def Expr.layout (lineStart : Bool) : Expr → List Layout
  | .path rooted names args =>
    pathLayout rooted names ++ if args.isEmpty then [] else word "::" ++ angleBrackets step (tyLayouts args)
  | .item type trait name =>
    word "<" ++ type.layout ++ word " as " ++ trait.layout ++ word ">" ++ word "::" ++ [name.layout]
  | .text value => word (Text.literal value)
  | .field base name =>
    cbox step (base.chain lineStart ++ beforeDot lineStart base ++ word "." ++ [name.layout])
  | .call function args =>
    function.layout lineStart ++ word "(" ++ argumentList (exprLayouts args) (isSingleBlock args) ++ word ")"
  | .method receiver name args =>
    cbox step <|
      receiver.chain lineStart ++ beforeDot lineStart receiver ++ word "." ++ [name.layout] ++
        cbox (if lineStart && receiver.isShortName then -step else 0)
          (word "(" ++ argumentList (exprLayouts args) (isSingleBlock args) ++ word ")")
  | .ref target => word "&" ++ target.layout false
  | .deref target => word "*" ++ target.layout false
  | .paren inner => word "(" ++ inner.layout false ++ word ")"
  | .propagate inner => inner.layout lineStart ++ word "?"
  | .record name fields =>
    cboxUpTo 34 step
        (ibox (-step) [name.layout] ++ word " \x7b" ++
          outdent (spaceIfNonempty :: commaSeparated { blanks := 1 } (fieldLayouts fields))) ++ word "\x7d"
  | .array items =>
    if items.isEmpty then word "[]"
    else
      cbox step (word "[" ++ outdent (zeroBreak :: commaSeparated {} (exprLayouts items)) ++ word "]")
  | .cases subject arms =>
    ibox 0 <|
      word "match " ++ cbox 0 (subject.layout false ++ word " ") ++ word "\x7b" ++ [neverBreak] ++
        cbox step (outdent (hardBreakIfNonempty :: armLayouts arms)) ++ word "\x7d"

/-- The beginning of a chain of calls and fields. -/
def Expr.chain (lineStart : Bool) : Expr → List Layout
  | .field base name => base.chain lineStart ++ beforeDot lineStart base ++ word "." ++ [name.layout]
  | .call function args =>
    function.chain false ++ word "(" ++ argumentList (exprLayouts args) (isSingleBlock args) ++ word ")"
  | .method receiver name args =>
    receiver.chain lineStart ++ beforeDot lineStart receiver ++ word "." ++ [name.layout] ++
      cbox 0 (word "(" ++ argumentList (exprLayouts args) (isSingleBlock args) ++ word ")")
  | .propagate inner => inner.chain lineStart ++ word "?"
  | .path rooted names args =>
    cbox (-step) <|
      pathLayout rooted names ++ if args.isEmpty then [] else word "::" ++ angleBrackets step (tyLayouts args)
  | .item type trait name =>
    cbox (-step) (word "<" ++ type.layout ++ word " as " ++ trait.layout ++ word ">" ++ word "::" ++ [name.layout])
  | .paren inner => cbox (-step) (word "(" ++ inner.layout false ++ word ")")
  | .text value => cbox (-step) (word (Text.literal value))
  | .ref target => cbox (-step) (word "&" ++ target.layout false)
  | .deref target => cbox (-step) (word "*" ++ target.layout false)
  | .record name _ => cbox (-step) [name.layout]
  | .array items => cbox (-step) (exprLayouts items).flatten
  | .cases subject _ => cbox (-step) (subject.layout false)

/-- Each of several expressions. -/
def exprLayouts : List Expr → List (List Layout)
  | [] => []
  | e :: es => e.layout false :: exprLayouts es

/-- The fields of a record. -/
def fieldLayouts : List (Ident × Expr) → List (List Layout)
  | [] => []
  | (n, e) :: rest => ([n.layout] ++ word ": " ++ ibox 0 (e.layout false)) :: fieldLayouts rest

/-- The arms of a case distinction. -/
def armLayouts : List (Expr × Expr) → List Layout
  | [] => []
  | (p, e) :: rest =>
    ibox 0
        (p.layout false ++ word " => " ++ [neverBreak] ++
          cbox step
            ([.line { before := some '\x7b' }] ++ e.layout true ++
              [.line { offset := -step, after := some '\x7d', flat := some ',' }])) ++
      [hardBreak] ++ armLayouts rest

/-- Elements of which as many stand on a line as fit. -/
def filled : List (List Layout) → List Layout
  | [] => []
  | [d] => d
  | d :: ds => d ++ [.text ",", space] ++ filled ds

end

/-- The statements of a block, each with its line end. -/
def Block.layout (b : Block) : List Layout :=
  (b.bindings.flatMap fun (name, value) =>
    ibox 0 (word "let " ++ [name.layout] ++ word " = " ++ [neverBreak] ++ value.layout false ++ word ";") ++
      [hardBreak]) ++
    ibox 0 (b.result.layout true) ++ [hardBreak]

/-! ### Attributes -/

/-- Removes blanks at the end of a line. -/
def trimBlanks (cs : List Char) : List Char :=
  (cs.reverse.dropWhile (· = ' ')).reverse

/-- The lines of a text. -/
def lines : List Char → List (List Char)
  | [] => [[]]
  | c :: rest =>
    match lines rest with
    | [] => [[c]]
    | l :: ls => if c = '\n' then [] :: l :: ls else (c :: l) :: ls

/-- Removes blanks at the end of every line but the last. -/
def trimInterior (cs : List Char) : List Char :=
  let ls := lines cs
  ['\n'].intercalate (ls.dropLast.map trimBlanks ++ ls.getLast?.toList)

/-- Whether the comment marks in a text are paired, at a depth of open comments. -/
def marksPaired : (depth : Nat) → List Char → Bool
  | depth, '/' :: '*' :: rest => marksPaired (depth + 1) rest
  | depth, '*' :: '/' :: rest => if depth = 0 then false else marksPaired (depth - 1) rest
  | depth, _ :: rest => marksPaired depth rest
  | depth, [] => depth = 0

/-- Whether a text may stand in a block comment. -/
def fitsBlockComment (cs : List Char) : Bool :=
  marksPaired 0 cs && cs.getLast? != some '/'

/-- The layout of an option of serialisation. -/
def SerdeOption.layout : SerdeOption → List Layout
  | .rename name => word "rename = " ++ word (Text.literal name)
  | .default => word "default"
  | .skipSerializingIf predicate => word "skip_serializing_if = " ++ word (Text.literal predicate)

/-- A list in an attribute. -/
def attributeList (name : String) (elements : List (List Layout)) : List Layout :=
  word name ++ word "(" ++ cbox step (outdent (zeroBreak :: filled elements ++ [zeroBreak])) ++ word ")"

/-- What stands between the brackets of an attribute. -/
def Attribute.content : Attribute → List Layout
  | .doc s raw => word "doc = " ++ word (if raw then "r\"" ++ s ++ "\"" else Text.literal s)
  | .derive traits => attributeList "derive" (tyLayouts traits)
  | .serde options => attributeList "serde" (options.map SerdeOption.layout)

/-- An attribute, of what follows it or of what encloses it. -/
def Attribute.layout (inner : Bool) (a : Attribute) : List Layout :=
  let written := word (if inner then "#![" else "#[") ++ a.content ++ word "]" ++ [space]
  match a with
  | .doc s _ =>
    let cs := s.toList
    if !cs.contains '\n' && (inner || cs.head? != some '/') then
      word (if inner then "//!" else "///") ++ word (String.ofList (trimBlanks cs)) ++ [hardBreak]
    else if fitsBlockComment cs && (inner || (cs.head? != some '*' && cs.head? != some '/')) then
      word (if inner then "/*!" else "/**") ++ word (String.ofList (trimInterior cs)) ++ word "*/" ++ [hardBreak]
    else written
  | _ => written

/-- Attributes of what follows. -/
def attributes (attrs : List Attribute) : List Layout :=
  attrs.flatMap (Attribute.layout false)

/-! ### Items -/

/-- A visibility. -/
def visibilityLayout (isPub : Bool) : List Layout :=
  if isPub then word "pub " else []

/-- A parameter. -/
def Param.layout : Param → List Layout
  | .receiver byRef => word (if byRef then "&self" else "self")
  | .typed name type => [name.layout] ++ word ": " ++ type.layout

/-- A type parameter with its bound. -/
def genericLayout : Ident × Ty → List Layout
  | (name, bound) => [name.layout] ++ ibox step (word ": " ++ bound.layout)

/-- The head of a function. -/
def Signature.layout (s : Signature) : List Layout :=
  word "fn " ++ [s.name.layout] ++
    (if s.generics.isEmpty then [] else angleBrackets 0 (s.generics.map genericLayout)) ++
    word "(" ++ [neverBreak] ++
    cbox 0 (outdent (zeroBreak :: commaSeparated {} (s.params.map Param.layout))) ++ word ")" ++
    cbox (-step) (word " -> " ++ s.output.layout)

/-- Members between braces, each with its line end. -/
def braced (members : List Layout) : List Layout :=
  word "\x7b" ++ outdent (hardBreakIfNonempty :: members)

/-- A member of an implementation. -/
def Member.layout : Member → List Layout
  | .const attrs isPub name type value =>
    attributes attrs ++
      cbox 0
        (visibilityLayout isPub ++ word "const " ++ [name.layout] ++ word ": " ++ type.layout ++ word " = " ++
          [neverBreak] ++ value.layout false ++ word ";") ++
      [hardBreak]
  | .alias name type =>
    cbox step
        (word "type " ++ [name.layout] ++ word " = " ++ [neverBreak] ++ ibox (-step) type.layout ++ word ";") ++
      [hardBreak]
  | .function attrs isPub signature body =>
    attributes attrs ++
      cbox step (visibilityLayout isPub ++ signature.layout ++ word " " ++ braced body.layout) ++
      word "\x7d" ++ [hardBreak]

/-- A field of a structure. -/
def FieldDecl.layout (f : FieldDecl) : List Layout :=
  attributes f.attrs ++ visibilityLayout f.isPub ++ [f.name.layout] ++ word ": " ++ f.type.layout

/-- What is imported from a path. -/
def Imports.layout : Imports → List Layout
  | .all => word "*"
  | .names [n] => [n.layout]
  | .names ns =>
    word "\x7b" ++
      cbox step
        (zeroBreak :: ibox 0 (filled (ns.map fun n => [n.layout])) ++ outdent [.line { before := some ',' }]) ++
      word "\x7d"

/-- Parts with a line end after each and a comma before the line end. -/
def commaLines (parts : List (List Layout)) : List Layout :=
  parts.flatMap fun p => p ++ word "," ++ [hardBreak]

/-- The bounds of a trait. -/
def parentsLayout : List Ty → List Layout
  | [] => []
  | t :: ts => word ": " ++ t.layout ++ ts.flatMap fun t => word " + " ++ t.layout

/-- An item of a file. -/
def Item.layout : Item → List Layout
  | .module name => cbox step (word "pub " ++ word "mod " ++ [name.layout] ++ word ";") ++ [hardBreak]
  | .imports isPub path what =>
    visibilityLayout isPub ++ word "use " ++ (path.flatMap fun n => [n.layout, .text "::"]) ++ what.layout ++
      word ";" ++ [hardBreak]
  | .struct attrs isPub name none =>
    attributes attrs ++ cbox step (visibilityLayout isPub ++ word "struct " ++ [name.layout] ++ word ";") ++
      [hardBreak]
  | .struct attrs isPub name (some fields) =>
    attributes attrs ++
      cbox step
        (visibilityLayout isPub ++ word "struct " ++ [name.layout] ++ word " " ++
          braced (commaLines (fields.map FieldDecl.layout))) ++
      word "\x7d" ++ [hardBreak]
  | .enumeration attrs name variants =>
    attributes attrs ++
      cbox step
        (word "pub " ++ word "enum " ++ [name.layout] ++ word " " ++
          braced (commaLines (variants.map fun v => attributes v.attrs ++ [v.name.layout]))) ++
      word "\x7d" ++ [hardBreak]
  | .trait attrs name parents methods =>
    attributes attrs ++
      cbox step
        (word "pub " ++ word "trait " ++ [name.layout] ++ parentsLayout parents ++ word " " ++
          braced (methods.flatMap fun (a, s) => attributes a ++ cbox step (s.layout ++ word ";") ++ [hardBreak])) ++
      word "\x7d" ++ [hardBreak]
  | .implementation lifetimes bound target members =>
    cbox step
        (ibox (-step)
            (cbox step
                (word "impl" ++
                  if lifetimes.isEmpty then []
                  else angleBrackets 0 (lifetimes.map fun l => word (lifetimeText l))) ++
              word " " ++
              (match bound with
               | none => []
               | some t => t.layout ++ [space] ++ word "for ") ++
              target.layout) ++
          word " " ++ braced (members.flatMap Member.layout)) ++
      word "\x7d" ++ [hardBreak]

/-- The formatted text of a file. -/
def File.text (f : File) : String :=
  Layout.render (cbox 0 (f.docs.flatMap (Attribute.layout true) ++ f.items.flatMap Item.layout))

end ServiceBindings.Code
